import Mathlib.Data.Fintype.Basic
import EdgeGateway.Signal
import EdgeGateway.Proofs.History

/-!
# EdgeGateway.Proofs.Signal

A signal loses no bit and makes none up (`conserves_bits`).

* `bitSet`           : a word as a set of bits.
* `Happened`         : a signal, and all that threads have done with it since it was new.
* `wait_cases`       : the three ways a wait ends.
* `Outstanding`      : a bit has been set, and no wait of the owner has taken it since.
* `Happened.owner_eq`, `Happened.mem_iff` : what the history says of the owner and of the bits.
-/

namespace EdgeGateway

/-- The bits of a word. -/
def bitSet (w : UInt32) : Finset (Fin 32) := {i | w.toBitVec.getLsbD i = true}

section BitSet

variable {v w : UInt32} {i : Fin 32}

theorem mem_bitSet : i ∈ bitSet w ↔ w.toBitVec.getLsbD i = true := by simp [bitSet]

@[simp] theorem bitSet_zero : bitSet 0 = ∅ := by decide

@[simp] theorem bitSet_or (v w : UInt32) : bitSet (v ||| w) = bitSet v ∪ bitSet w := by
  ext i
  simp [mem_bitSet]

@[simp] theorem bitSet_and_not (v w : UInt32) : bitSet (v &&& ~~~w) = bitSet v \ bitSet w := by
  ext i
  simp [mem_bitSet]

@[simp] theorem bitSet_all : bitSet 0xffffffff = Finset.univ := by decide

theorem bitSet_eq_empty : bitSet w = ∅ ↔ w = 0 := by
  constructor
  · intro h
    rw [← UInt32.toBitVec_inj]
    refine BitVec.eq_of_getLsbD_eq fun i hi => ?_
    have hno : (⟨i, hi⟩ : Fin 32) ∉ bitSet w := by simp [h]
    simpa [mem_bitSet] using hno
  · rintro rfl
    exact bitSet_zero

end BitSet

namespace Signal

/-! ## What is done with a signal -/

/-- What a thread has done, and the answer it got to a wait. -/
inductive Event where
  | set (thread : Nat) (bits : UInt32)
  | post (thread : Nat) (c : Command)
  | wait (thread : Nat) (entry exit : UInt32) (wake : Wake)
  | waitCommands (thread : Nat) (read : Option Commands)

inductive Happened : Signal → List Event → Prop where
  | new : Happened {} []
  | set {s : Signal} {history : List Event} (thread : Nat) (bits : UInt32) :
      Happened s history → Happened (s.set bits) (history ++ [.set thread bits])
  | post {s : Signal} {history : List Event} (thread : Nat) (c : Command) :
      Happened s history → Happened (s.post c) (history ++ [.post thread c])
  | wait {s : Signal} {history : List Event} (thread : Nat) (entry exit : UInt32) :
      Happened s history →
      Happened (s.wait thread entry exit).1
        (history ++ [.wait thread entry exit (s.wait thread entry exit).2])
  | waitCommands {s : Signal} {history : List Event} (thread : Nat) :
      Happened s history →
      Happened (s.waitCommands thread).1
        (history ++ [.waitCommands thread (s.waitCommands thread).2])

/-- The bits a wait has returned. -/
def Wake.bits : Wake → UInt32
  | .woken bits => bits
  | .timedOut | .refused => 0

namespace Event

def waiter? : Event → Option Nat
  | .wait thread _ _ _ | .waitCommands thread _ => some thread
  | .set _ _ | .post _ _ => none

/-- The bits an event sets. -/
def sets : Event → Finset (Fin 32)
  | .set _ bits => bitSet bits
  | .post _ c => bitSet c.bit
  | .wait _ _ _ _ | .waitCommands _ _ => ∅

/-- The bits a wait names in its entry mask, and those it returns with the bit in its exit mask. -/
def names : Event → Finset (Fin 32)
  | .wait _ entry exit wake => bitSet entry ∪ bitSet wake.bits ∩ bitSet exit
  | .waitCommands _ read => bitSet (read.getD .empty).bits
  | .set _ _ | .post _ _ => ∅

end Event

/-- The thread that waited first. -/
def owner? (history : List Event) : Option Nat := history.findSome? Event.waiter?

/-- Nobody else has waited first. -/
def MayWait (history : List Event) (thread : Nat) : Prop :=
  ∀ owner, owner? history = some owner → owner = thread

/-- The event is a wait of the owner that takes the bit. -/
def Takes (history : List Event) (i : Fin 32) (e : Event) : Prop :=
  ∃ thread, e.waiter? = some thread ∧ MayWait history thread ∧ i ∈ e.names

/-- The bit has been set, and no wait of the owner has taken it since. -/
def Outstanding (i : Fin 32) (history : List Event) : Prop :=
  Since (fun _ e => i ∈ e.sets) (fun past e => Takes past i e) history

/-! ## One step -/

theorem mem_set {s : Signal} {bits : UInt32} {i : Fin 32} :
    i ∈ bitSet (s.set bits).bits ↔ i ∈ bitSet bits ∨ i ∈ bitSet s.bits := by
  rw [set, bitSet_or, Finset.mem_union, or_comm]

section Wait

variable {s : Signal} {thread : Nat} {entry exit : UInt32}

theorem wait_of_other (h : s.waiter.getD thread ≠ thread) :
    s.wait thread entry exit = (s, .refused) := by
  simp [wait, h]

theorem wait_of_nothing (h : s.waiter.getD thread = thread) (hbits : bitSet s.bits ⊆ bitSet entry) :
    s.wait thread entry exit = ({ bits := 0, waiter := some thread }, .timedOut) := by
  have hzero : s.bits &&& ~~~entry = 0 := by
    rw [← bitSet_eq_empty, bitSet_and_not]
    exact Finset.sdiff_eq_empty_iff_subset.mpr hbits
  simp [wait, h, hzero]

theorem wait_of_pending (h : s.waiter.getD thread = thread)
    (hbits : ¬ bitSet s.bits ⊆ bitSet entry) :
    s.wait thread entry exit =
      ({ bits := s.bits &&& ~~~entry &&& ~~~exit, waiter := some thread },
        .woken (s.bits &&& ~~~entry)) := by
  have hzero : s.bits &&& ~~~entry ≠ 0 := by
    rw [ne_eq, ← bitSet_eq_empty, bitSet_and_not, Finset.sdiff_eq_empty_iff_subset]
    exact hbits
  simp [wait, h, hzero]

theorem waiter_wait (s : Signal) (thread : Nat) (entry exit : UInt32) :
    (s.wait thread entry exit).1.waiter = s.waiter.or (some thread) := by
  unfold wait
  cases hw : s.waiter with
  | none =>
    dsimp only [Option.getD_none]
    rw [if_neg (by simp)]
    split <;> rfl
  | some owner =>
    dsimp only [Option.getD_some]
    split
    · exact hw
    · split <;> rfl

theorem waitCommands_fst (s : Signal) (thread : Nat) :
    (s.waitCommands thread).1 = (s.wait thread 0 0xffffffff).1 := by
  unfold waitCommands
  split <;> simp [*]

/-- A wait for commands takes what it returns. -/
theorem names_waitCommands (s : Signal) (thread : Nat) :
    Event.names (.waitCommands thread (s.waitCommands thread).2) =
      Event.names (.wait thread 0 0xffffffff (s.wait thread 0 0xffffffff).2) := by
  have hwake (wake : Wake) : Event.names (.wait thread 0 0xffffffff wake) = bitSet wake.bits := by
    simp only [Event.names, bitSet_zero, bitSet_all, Finset.empty_union, Finset.inter_univ]
  rw [hwake]
  unfold waitCommands
  split <;> simp [*, Event.names, Wake.bits, Commands.empty]

end Wait

/-! ## What the history says -/

section History

variable {s : Signal} {history : List Event} {e : Event} {i : Fin 32} {thread : Nat}

theorem owner?_append_singleton :
    owner? (history ++ [e]) = (owner? history).or e.waiter? := by
  simp [owner?, List.findSome?_append]

theorem outstanding_append_singleton : Outstanding i (history ++ [e]) ↔
    i ∈ e.sets ∨ Outstanding i history ∧ ¬ Takes history i e :=
  Since.append_singleton

theorem Happened.owner_eq (h : Happened s history) : s.waiter = owner? history := by
  induction h with
  | new => rfl
  | set thread bits _ ih | post thread c _ ih =>
    rw [owner?_append_singleton, ← ih]
    exact (Option.or_none).symm
  | wait thread entry exit _ ih => rw [owner?_append_singleton, ← ih, waiter_wait, Event.waiter?]
  | waitCommands thread _ ih =>
    rw [owner?_append_singleton, ← ih, waitCommands_fst, waiter_wait, Event.waiter?]

theorem Happened.mayWait_iff (h : Happened s history) (thread : Nat) :
    MayWait history thread ↔ s.waiter.getD thread = thread := by
  unfold MayWait
  rw [← h.owner_eq]
  cases s.waiter with
  | none => simp
  | some owner => simp

theorem takes_iff (hwaiter : e.waiter? = some thread) :
    Takes history i e ↔ MayWait history thread ∧ i ∈ e.names := by
  simp [Takes, hwaiter]

theorem not_takes (hwaiter : e.waiter? = none) : ¬ Takes history i e := by
  simp [Takes, hwaiter]

/-- A wait leaves what it does not take. -/
theorem Happened.mem_wait (h : Happened s history) (thread : Nat) (entry exit : UInt32) :
    i ∈ bitSet (s.wait thread entry exit).1.bits ↔ i ∈ bitSet s.bits ∧
      ¬ Takes history i (.wait thread entry exit (s.wait thread entry exit).2) := by
  rw [takes_iff rfl, h.mayWait_iff]
  by_cases hthread : s.waiter.getD thread = thread
  · by_cases hbits : bitSet s.bits ⊆ bitSet entry
    · rw [wait_of_nothing hthread hbits]
      simpa [Event.names, Wake.bits, hthread] using fun hi => hbits hi
    · rw [wait_of_pending hthread hbits]
      simp only [Event.names, Wake.bits, bitSet_and_not, Finset.mem_sdiff, Finset.mem_union,
        Finset.mem_inter, hthread, true_and]
      tauto
  · rw [wait_of_other hthread]
    simp [hthread]

theorem Happened.mem_iff (h : Happened s history) (i : Fin 32) :
    i ∈ bitSet s.bits ↔ Outstanding i history := by
  induction h with
  | new => simp [Outstanding, Since.nil]
  | @set s history thread bits _ ih =>
    have hno : ¬ Takes history i (.set thread bits) := not_takes rfl
    rw [outstanding_append_singleton, ← ih, mem_set]
    simp [Event.sets, hno]
  | @post s history thread c _ ih =>
    have hno : ¬ Takes history i (.post thread c) := not_takes rfl
    rw [outstanding_append_singleton, ← ih, Signal.post, mem_set]
    simp [Event.sets, hno]
  | wait thread entry exit h ih =>
    rw [outstanding_append_singleton, ← ih, h.mem_wait]
    simp [Event.sets]
  | @waitCommands s history thread h ih =>
    have htakes : Takes history i (.waitCommands thread (s.waitCommands thread).2) ↔
        Takes history i (.wait thread 0 0xffffffff (s.wait thread 0 0xffffffff).2) := by
      rw [takes_iff rfl, takes_iff rfl, names_waitCommands]
    rw [outstanding_append_singleton, ← ih, waitCommands_fst, h.mem_wait, htakes]
    simp [Event.sets]

end History

/-! ## Conservation -/

/-- How a wait ends after what has happened, and what it leaves. -/
def Waits (history : List Event) (thread : Nat) (entry exit : UInt32) (s s' : Signal) :
    Wake → Prop
  | .woken bits => MayWait history thread ∧ bits ≠ 0 ∧
      bitSet bits = bitSet s.bits \ bitSet entry ∧ bitSet s'.bits = bitSet bits \ bitSet exit
  | .timedOut => MayWait history thread ∧ bitSet s.bits \ bitSet entry = ∅ ∧ s'.bits = 0
  | .refused => ¬ MayWait history thread ∧ s' = s

/-- How a wait for commands ends, and what it leaves. -/
def Reads (history : List Event) (thread : Nat) (s s' : Signal) : Option Commands → Prop
  | some read => MayWait history thread ∧ bitSet read.bits = bitSet s.bits ∧ s'.bits = 0
  | none => ¬ MayWait history thread ∧ s' = s

theorem Happened.waits {s : Signal} {history : List Event} (h : Happened s history)
    (thread : Nat) (entry exit : UInt32) :
    Waits history thread entry exit s (s.wait thread entry exit).1
      (s.wait thread entry exit).2 := by
  by_cases hthread : s.waiter.getD thread = thread
  · have hmay := (h.mayWait_iff thread).mpr hthread
    by_cases hbits : bitSet s.bits ⊆ bitSet entry
    · rw [wait_of_nothing hthread hbits]
      exact ⟨hmay, Finset.sdiff_eq_empty_iff_subset.mpr hbits, rfl⟩
    · rw [wait_of_pending hthread hbits]
      refine ⟨hmay, fun hzero => hbits ?_, bitSet_and_not .., bitSet_and_not ..⟩
      rwa [← bitSet_eq_empty, bitSet_and_not, Finset.sdiff_eq_empty_iff_subset] at hzero
  · rw [wait_of_other hthread]
    exact ⟨mt (h.mayWait_iff thread).mp hthread, rfl⟩

theorem Happened.reads {s : Signal} {history : List Event} (h : Happened s history)
    (thread : Nat) :
    Reads history thread s (s.waitCommands thread).1 (s.waitCommands thread).2 := by
  have hwaits := h.waits thread 0 0xffffffff
  unfold Signal.waitCommands
  generalize s.wait thread 0 0xffffffff = result at hwaits ⊢
  obtain ⟨s', wake⟩ := result
  cases wake with
  | woken bits =>
    obtain ⟨hmay, -, hread, hleft⟩ := hwaits
    rw [bitSet_zero, Finset.sdiff_empty] at hread
    rw [bitSet_all, Finset.sdiff_eq_empty_iff_subset.mpr (Finset.subset_univ _)] at hleft
    exact ⟨hmay, hread, bitSet_eq_empty.mp hleft⟩
  | timedOut =>
    obtain ⟨hmay, hnothing, hleft⟩ := hwaits
    rw [bitSet_zero, Finset.sdiff_empty] at hnothing
    exact ⟨hmay, hnothing.symm, hleft⟩
  | refused => exact hwaits

/-- Whatever threads have done with a signal, the bits pending are those that have been set and
that no wait of the thread that waited first has taken since. A wait that wakes up returns what is
pending after its entry mask, which is not nothing, and leaves what is not in its exit mask; one
that times out had nothing to return; and a wait of another thread changes nothing. A wait for
commands returns all that is pending. -/
theorem conserves_bits {s : Signal} {history : List Event} (h : Happened s history) :
    (∀ i, i ∈ bitSet s.bits ↔ Outstanding i history) ∧
    (∀ thread entry exit, Waits history thread entry exit s (s.wait thread entry exit).1
      (s.wait thread entry exit).2) ∧
    ∀ thread, Reads history thread s (s.waitCommands thread).1 (s.waitCommands thread).2 :=
  ⟨h.mem_iff, h.waits, h.reads⟩

/-- One bit is dropped, the other stays though it is returned, and a second thread is refused. -/
theorem conserves_bits_through_a_wait : ∃ s history, Happened s history ∧
    history = [.set 5 3, .wait 7 1 0 (.woken 2), .waitCommands 6 none] ∧
    Outstanding 1 history ∧ ¬ Outstanding 0 history ∧ ¬ MayWait history 6 := by
  have h := ((Happened.new.set 5 3).wait 7 1 0).waitCommands 6
  obtain ⟨hpending, hwaits, -⟩ := conserves_bits h
  have hdropped : (0 : Fin 32) ∉ bitSet 2 := by decide
  exact ⟨_, _, h, rfl, (hpending 1).mp (by decide), mt (hpending 0).mpr hdropped,
    (hwaits 6 0 0).1⟩

end Signal

end EdgeGateway
