import EdgeGateway.Signal

/-!
# EdgeGateway.Proofs.Commands

A word of commands as a set. `Commands.contains` is all that tasks ask of a word, so every other
operation is described by what it does to `contains`; the bits are not looked at again.
-/

namespace EdgeGateway

/-- The place of a command's bit in the word. -/
def Command.place : Command → Nat
  | .start => 0
  | .stop => 1
  | .restart => 2
  | .shutdown => 3

namespace Commands

theorem getLsbD_bit (c d : Command) : c.bit.toBitVec.getLsbD d.place = decide (c = d) := by
  cases c <;> cases d <;> decide

theorem and_bit_eq_zero (cs : Commands) (c : Command) :
    cs.bits &&& c.bit = 0 ↔ cs.bits.toBitVec.getLsbD c.place = false := by
  have hb : c.bit.toBitVec = BitVec.twoPow 32 c.place := by cases c <;> decide
  rw [← UInt32.toBitVec_inj, UInt32.toBitVec_and, hb, BitVec.and_twoPow]
  cases hg : cs.bits.toBitVec.getLsbD c.place with
  | false => simp
  | true => simp only [if_true, Bool.true_eq_false, iff_false]; cases c <;> decide

theorem contains_eq_getLsbD (cs : Commands) (c : Command) :
    cs.contains c = cs.bits.toBitVec.getLsbD c.place := by
  have h := and_bit_eq_zero cs c
  cases hg : cs.bits.toBitVec.getLsbD c.place with
  | false => simp [contains, h.mpr hg]
  | true =>
    rw [contains, bne_iff_ne]
    intro h0
    rw [h.mp h0] at hg
    cases hg

@[simp] theorem contains_insert (cs : Commands) (c d : Command) :
    (cs.insert c).contains d = (decide (c = d) || cs.contains d) := by
  rw [contains_eq_getLsbD, contains_eq_getLsbD]
  simp only [insert, UInt32.toBitVec_or, BitVec.getLsbD_or, getLsbD_bit]
  exact Bool.or_comm _ _

@[simp] theorem contains_erase (cs : Commands) (c d : Command) :
    (cs.erase c).contains d = (cs.contains d && !decide (c = d)) := by
  rw [contains_eq_getLsbD, contains_eq_getLsbD]
  have hd : d.place < 32 := by cases d <;> decide
  simp only [erase, UInt32.toBitVec_and, UInt32.toBitVec_not, BitVec.getLsbD_and,
    BitVec.getLsbD_not, getLsbD_bit, hd, decide_true, Bool.true_and]

@[simp] theorem contains_empty (c : Command) : Commands.empty.contains c = false := by
  cases c <;> rfl

@[simp] theorem contains_default (c : Command) : ({} : Commands).contains c = false :=
  contains_empty c

@[simp] theorem contains_only (c d : Command) : (only c).contains d = decide (c = d) := by
  cases c <;> cases d <;> rfl

theorem isEmpty_iff {cs : Commands} : cs.isEmpty = true ↔ ∀ c, cs.contains c = false := by
  simp only [isEmpty, Command.all, List.all_cons, List.all_nil, Bool.and_true, Bool.and_eq_true,
    Bool.not_eq_true']
  constructor
  · rintro ⟨h1, h2, h3, h4⟩ c
    cases c <;> assumption
  · intro h
    exact ⟨h _, h _, h _, h _⟩

@[simp] theorem isEmpty_empty : Commands.empty.isEmpty = true := rfl

@[simp] theorem isEmpty_default : ({} : Commands).isEmpty = true := rfl

theorem isEmpty_eq_false_of_contains {cs : Commands} {c : Command} (h : cs.contains c = true) :
    cs.isEmpty = false := by
  rw [Bool.eq_false_iff]
  intro he
  rw [isEmpty_iff.mp he c] at h
  cases h

theorem contains_of_bits_eq_zero {cs : Commands} (h : cs.bits = 0) (c : Command) :
    cs.contains c = false := by
  simp [contains, h]

/-! ## The one command to act on -/

theorem dominant_eq_shutdown {cs : Commands} :
    cs.dominant = some .shutdown ↔ cs.contains .shutdown = true := by
  unfold dominant
  cases cs.contains .shutdown <;> cases cs.contains .restart <;> cases cs.contains .stop <;>
    cases cs.contains .start <;> decide

theorem dominant_eq_none {cs : Commands} : cs.dominant = none ↔ cs.isEmpty = true := by
  unfold dominant isEmpty
  simp only [Command.all, List.all_cons, List.all_nil]
  cases cs.contains .shutdown <;> cases cs.contains .restart <;> cases cs.contains .stop <;>
    cases cs.contains .start <;> decide

theorem no_shutdown_of_dominant {cs : Commands} {c : Command} (h : cs.dominant = some c)
    (hc : c ≠ .shutdown) : cs.contains .shutdown = false := by
  rw [Bool.eq_false_iff]
  intro hs
  rw [dominant_eq_shutdown.mpr hs] at h
  exact hc (Option.some.inj h).symm

theorem contains_stop_of_dominant {cs : Commands} (h : cs.dominant = some .stop) :
    cs.contains .stop = true := by
  unfold dominant at h
  grind

theorem no_other_of_dominant_stop {cs : Commands} (h : cs.dominant = some .stop) :
    cs.contains .start = false ∧ cs.contains .restart = false := by
  unfold dominant at h
  grind

theorem contains_start_of_dominant {cs : Commands} (h : cs.dominant = some .start) :
    cs.contains .start = true := by
  unfold dominant at h
  grind

theorem contains_of_dominant_restart {cs : Commands} (h : cs.dominant = some .restart) :
    cs.contains .restart = true ∨ cs.contains .start = true := by
  unfold dominant at h
  grind

/-- What is left of a restart once stops and starts have been taken out of the word. -/
theorem dominant_eq_restart {cs : Commands} (hs : cs.contains .shutdown = false)
    (hstop : cs.contains .stop = false) (hstart : cs.contains .start = false)
    (he : cs.isEmpty = false) : cs.dominant = some .restart := by
  cases hr : cs.contains .restart with
  | true => simp [dominant, hs, hr]
  | false =>
    have : cs.isEmpty = true := isEmpty_iff.mpr fun c => by cases c <;> assumption
    rw [this] at he
    cases he

/-- A stop and a start have come, and no shutdown. -/
structure MeansRestart (cs : Commands) : Prop where
  stop : cs.contains .stop = true
  start : cs.contains .start = true
  shutdown : cs.contains .shutdown = false

namespace MeansRestart

variable {cs : Commands}

theorem dominant (h : cs.MeansRestart) : cs.dominant = some .restart := by
  simp [Commands.dominant, h.stop, h.start, h.shutdown]

theorem insert {c : Command} (h : cs.MeansRestart) (hc : c ≠ .shutdown) :
    (cs.insert c).MeansRestart where
  stop := by simp [h.stop]
  start := by simp [h.start]
  shutdown := by simp [h.shutdown, hc]

theorem bits_ne_zero (h : cs.MeansRestart) : cs.bits ≠ 0 := by
  intro hb
  have hstop := h.stop
  rw [contains_of_bits_eq_zero hb] at hstop
  cases hstop

end MeansRestart

end Commands

end EdgeGateway
