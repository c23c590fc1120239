import EdgeGateway.Modem.Arbiter
import EdgeGateway.Proofs.Rest
import Mathlib.Logic.Function.Basic

/-!
# EdgeGateway.Proofs.Modem.Traffic

Any number of callers at the arbiter, and the one modem behind it.

* `Traffic`       : the arbiter, the mode of the modem, what every caller is about, and the leases
  that have been handed out and are not yet on their way back.
* `Traffic.Step`  : one caller goes one step. Its errand comes, is admitted or turned away, has a
  modem call answered, or ends; between two steps of a caller all others may go theirs.
* `Arbiter.Entry`, `Arbiter.Progress` : all that an admission and an answered call can do.
* `Traffic.Orderly` : at most one errand is at the modem, the arbiter is busy while one is, and
  idle while a lease is out.

How the modem behaves is a parameter: a relation between its mode, a call, the answer and the
mode it is left in. So is what callers ask for when they open the data session.
-/

namespace EdgeGateway

abbrev ModemBehaviour := Option ModemMode → ModemCall → ModemAnswer → Option ModemMode → Prop

/-- The calls that open, switch or close the modem. -/
def ModemCall.drives : ModemCall → Bool
  | .mode => false
  | _ => true

namespace Errand

/-- What a caller can come with, `dials` telling what a data session is asked for. -/
def IsRequest (dials : DialParams → Prop) : Errand → Prop
  | .acquire _ | .release _ | .closeData _ => True
  | .openData params _ => dials params
  | _ => False

/-- The lease whose release begins when the errand is admitted. -/
def returns? : Errand → Option Nat
  | .release id => some id
  | _ => none

/-- The lease the errand has ended with. -/
def leased? : Errand → Option Nat
  | .ended (.leased id) => some id
  | _ => none

theorem isAtModem_of_call? {e : Errand} {c : ModemCall} (h : e.call? = some c) :
    e.isAtModem = true := by
  cases e <;> first | rfl | cases h

end Errand

/-! ## What the arbiter can do -/

namespace Arbiter

/-- The ways an errand is admitted or turned away. -/
inductive Entry (a : Arbiter) : Errand → Arbiter → Errand → Prop where
  | refused {e : Errand} {error : ArbiterError} : e.isAtModem = false → e.returns? = none →
      Entry a e a (.ended (.refused error))
  | inspect {timeout : Nat} : a.busy = false → a.lease = none →
      Entry a (.acquire timeout) { a with busy := true } (.inspect timeout)
  | restore {lease : Lease} : a.busy = false → a.lease = some lease →
      Entry a (.release lease.id) { a with lease := none, busy := true } (.restore lease)
  | stale {id : Nat} : a.lease.map Lease.id ≠ some id → Entry a (.release id) a (.ended .released)
  | dial {params : DialParams} {timeout : Option Nat} : a.busy = false → a.lease = none →
      Entry a (.openData params timeout) { a with busy := true } (.dial params timeout)
  | noSession {timeout : Option Nat} : a.dataSession = false →
      Entry a (.closeData timeout) a (.ended .closed)
  | handOver {timeout : Option Nat} {lease : Lease} : a.dataSession = true →
      a.lease = some lease →
      Entry a (.closeData timeout)
        { a with
          lease := some { lease with openedByLease := true, savedMode := .command }
          dataSession := false }
        (.ended .closed)
  | hangUp {timeout : Option Nat} : a.busy = false → a.dataSession = true → a.lease = none →
      Entry a (.closeData timeout) { a with busy := true } (.hangUp timeout)

theorem Entry.away {a a' : Arbiter} {e e' : Errand} (h : a.Entry e a' e') :
    e.isAtModem = false := by
  cases h with
  | refused hm _ => exact hm
  | _ => rfl

theorem entry_of_enter {a a' : Arbiter} {e e' : Errand} {expired : Bool}
    (h : a.enter expired e = some (a', e')) : Entry a e a' e' := by
  cases e with
  | acquire timeout =>
    simp only [enter] at h
    split at h
    · split at h <;> cases h
      exact .refused rfl rfl
    · rename_i hb
      split at h <;> cases h
      · exact .refused rfl rfl
      · rename_i hl
        exact .inspect (by simpa using hb) (by simpa using hl)
  | release id =>
    simp only [enter] at h
    split at h
    · cases h
    · rename_i hb
      split at h
      · rename_i lease hl
        split at h <;> cases h
        · rename_i hid
          subst hid
          exact .restore (by simpa using hb) hl
        · rename_i hid
          exact .stale (by simpa [hl] using hid)
      · rename_i hl
        cases h
        exact .stale (by simp [hl])
  | openData params timeout =>
    simp only [enter] at h
    split at h
    · split at h <;> cases h
      exact .refused rfl rfl
    · rename_i hb
      split at h <;> cases h
      · exact .refused rfl rfl
      · rename_i hl
        exact .dial (by simpa using hb) (by simpa using hl)
  | closeData timeout =>
    simp only [enter] at h
    split at h
    · cases h
    · rename_i hb
      split at h
      · rename_i hs
        cases h
        exact .noSession (by simpa using hs)
      · rename_i hs
        have hs : a.dataSession = true := by simpa using hs
        split at h <;> cases h
        · rename_i lease hl
          exact .handOver hs hl
        · rename_i hl
          exact .hangUp (by simp_all) hs hl
  | _ => cases h

/-- The ways an errand at the modem goes on after its call: it stays, leaves with a lease, or
leaves without one. -/
inductive Progress (a : Arbiter) : Arbiter → Errand → Prop where
  | stays {e : Errand} : e.isAtModem = true → Progress a a e
  | granted (openedByLease : Bool) (savedMode : ModemMode) (timeout : Nat) :
      Progress a
        { a with
          busy := false
          granted := a.granted + 1
          lease := some ⟨a.granted + 1, openedByLease, savedMode, timeout⟩ }
        (.ended (.leased (a.granted + 1)))
  | leaves (dataSession : Bool) {o : Outcome} : (Errand.ended o).leased? = none →
      Progress a { a with busy := false, dataSession } (.ended o)

theorem progress_of_answer {a : Arbiter} {e : Errand} (he : e.isAtModem = true)
    (answer : ModemAnswer) : Progress a (a.answer e answer).1 (a.answer e answer).2 := by
  cases e with
  | inspect timeout =>
    cases answer with
    | failed error => cases error <;> first | exact .stays rfl | exact .leaves a.dataSession rfl
    | mode m => cases m <;> first | exact .stays rfl | exact .granted ..
    | _ => exact .stays rfl
  | openForLease timeout =>
    cases answer with
    | failed error => cases error <;> exact .leaves a.dataSession rfl
    | address ip => exact .granted ..
    | _ => exact .stays rfl
  | switchForLease timeout =>
    cases answer with
    | failed error => exact .leaves a.dataSession rfl
    | done => exact .granted ..
    | _ => exact .stays rfl
  | restore lease => exact .stays rfl
  | closeAfterLease lease => exact .leaves a.dataSession rfl
  | dial params timeout =>
    cases answer with
    | failed error => exact .leaves a.dataSession rfl
    | address ip => exact .leaves true rfl
    | _ => exact .stays rfl
  | hangUp timeout =>
    cases answer with
    | failed error => exact .leaves false rfl
    | done => exact .leaves false rfl
    | _ => exact .stays rfl
  | _ => cases he

end Arbiter

/-! ## Callers -/

structure Traffic where
  arbiter : Arbiter := {}
  mode : Option ModemMode := none
  errands : Nat → Option Errand := fun _ => none
  outstanding : List Nat := []

namespace Traffic

variable {Modem : ModemBehaviour} {dials : DialParams → Prop}

def set (w : Traffic) (i : Nat) (e : Option Errand) : Traffic :=
  { w with errands := Function.update w.errands i e }

theorem set_self (w : Traffic) (i : Nat) : w.set i (w.errands i) = w := by
  rw [set, Function.update_eq_self]

/-- The errand of a caller has been admitted or turned away. -/
def entered (w : Traffic) (i : Nat) (e : Errand) (a : Arbiter) (e' : Errand) : Traffic :=
  { w.set i (some e') with
    arbiter := a
    outstanding := w.outstanding.filter fun id => e.returns? ≠ some id }

/-- The errand of a caller has its answer, and the modem is left in a mode. -/
def answered (w : Traffic) (i : Nat) (e : Errand) (answer : ModemAnswer)
    (mode : Option ModemMode) : Traffic :=
  let r := w.arbiter.answer e answer
  { w.set i (some r.2) with
    arbiter := r.1
    mode
    outstanding := r.2.leased?.toList ++ w.outstanding }

/-- One step of one caller. An errand with no call to make goes on by itself. -/
inductive Step (Modem : ModemBehaviour) (dials : DialParams → Prop) : Traffic → Traffic → Prop where
  | come {w : Traffic} {i : Nat} {e : Errand} : w.errands i = none → e.IsRequest dials →
      Step Modem dials w (w.set i (some e))
  | enter {w : Traffic} {i : Nat} {e e' : Errand} {a : Arbiter} {expired : Bool} :
      w.errands i = some e → (expired = true → e.patience.isSome = true) →
      w.arbiter.enter expired e = some (a, e') → Step Modem dials w (w.entered i e a e')
  | call {w : Traffic} {i : Nat} {e : Errand} {c : ModemCall} {answer : ModemAnswer}
      {mode : Option ModemMode} : w.errands i = some e → e.call? = some c →
      Modem w.mode c answer mode → Step Modem dials w (w.answered i e answer mode)
  | skip {w : Traffic} {i : Nat} {e : Errand} : w.errands i = some e → e.isAtModem = true →
      e.call? = none → Step Modem dials w (w.answered i e .done w.mode)
  | go {w : Traffic} {i : Nat} {o : Outcome} : w.errands i = some (.ended o) →
      Step Modem dials w (w.set i none)

/-- The caller is at the modem. -/
def IsAt (w : Traffic) (i : Nat) : Prop := ∃ e, w.errands i = some e ∧ e.isAtModem = true

/-- The caller is about to make, or inside, a call that opens, switches or closes the modem. -/
def Drives (w : Traffic) (i : Nat) : Prop :=
  ∃ e c, w.errands i = some e ∧ e.call? = some c ∧ c.drives = true

theorem Drives.isAt {w : Traffic} {i : Nat} (h : w.Drives i) : w.IsAt i := by
  obtain ⟨e, c, he, hc, -⟩ := h
  exact ⟨e, he, Errand.isAtModem_of_call? hc⟩

/-! ## The invariant -/

structure Orderly (w : Traffic) : Prop where
  busy : ∀ i, w.IsAt i → w.arbiter.busy = true
  alone : ∀ i j, w.IsAt i → w.IsAt j → i = j
  idle_of_lease : w.arbiter.lease.isSome = true → w.arbiter.busy = false
  outstanding : w.outstanding = (w.arbiter.lease.map Lease.id).toList

theorem isAt_set {w : Traffic} {i j : Nat} {e : Option Errand} :
    (w.set i e).IsAt j ↔ if j = i then e.any Errand.isAtModem = true else w.IsAt j := by
  by_cases h : j = i
  · subst h
    cases e <;> simp [IsAt, set]
  · simp [IsAt, set, h]

theorem isAt_entered {w : Traffic} {i j : Nat} {e e' : Errand} {a : Arbiter} :
    (w.entered i e a e').IsAt j ↔ if j = i then e'.isAtModem = true else w.IsAt j :=
  isAt_set

theorem isAt_answered {w : Traffic} {i j : Nat} {e : Errand} {answer : ModemAnswer}
    {mode : Option ModemMode} : (w.answered i e answer mode).IsAt j ↔
      if j = i then (w.arbiter.answer e answer).2.isAtModem = true else w.IsAt j :=
  isAt_set

namespace Orderly

theorem start : Orderly {} where
  busy := by rintro i ⟨e, he, -⟩; cases he
  alone := by rintro i j ⟨e, he, -⟩; cases he
  idle_of_lease := by intro h; cases h
  outstanding := rfl

/-- Nobody is at the modem while the arbiter is idle. -/
theorem nobody {w : Traffic} (h : w.Orderly) (hb : w.arbiter.busy = false) (i : Nat) :
    ¬ w.IsAt i := by
  intro hi
  rw [h.busy i hi] at hb
  cases hb

/-- A step after which nobody is at the modem who was not there before. -/
theorem of_same {w w' : Traffic} (h : w.Orderly) (hat : ∀ j, w'.IsAt j → w.IsAt j)
    (hb : w'.arbiter.busy = w.arbiter.busy)
    (hl : w'.arbiter.lease.map Lease.id = w.arbiter.lease.map Lease.id)
    (ho : w'.outstanding = w.outstanding) : w'.Orderly where
  busy j hj := by rw [hb]; exact h.busy j (hat j hj)
  alone j k hj hk := h.alone j k (hat j hj) (hat k hk)
  idle_of_lease hs := by
    have hs' := congrArg Option.isSome hl
    rw [Option.isSome_map, Option.isSome_map, hs] at hs'
    rw [hb]
    exact h.idle_of_lease hs'.symm
  outstanding := by rw [ho, hl, h.outstanding]

/-- A step after which nobody but its caller can be at the modem. -/
theorem of_nobody {w : Traffic} {i : Nat} (hat : ∀ j, w.IsAt j → j = i)
    (hb : w.IsAt i → w.arbiter.busy = true)
    (hl : w.arbiter.lease.isSome = true → w.arbiter.busy = false)
    (ho : w.outstanding = (w.arbiter.lease.map Lease.id).toList) : w.Orderly where
  busy j hj := by rw [hat j hj] at hj; exact hb hj
  alone j k hj hk := by rw [hat j hj, hat k hk]
  idle_of_lease := hl
  outstanding := ho

/-- An errand that is not at the modem comes or goes. -/
theorem set {w : Traffic} (h : w.Orderly) {i : Nat} {e : Option Errand}
    (he : e.any Errand.isAtModem = false) : (w.set i e).Orderly := by
  refine h.of_same (fun j hj => ?_) rfl rfl rfl
  rw [isAt_set] at hj
  split at hj
  · rw [he] at hj; cases hj
  · exact hj

theorem entered {w : Traffic} (h : w.Orderly) {i : Nat} {e e' : Errand} {a : Arbiter}
    (hentry : w.arbiter.Entry e a e') : (w.entered i e a e').Orderly := by
  -- an errand that is turned away or has nothing to do at the modem
  have aside (hm : e'.isAtModem = false) : ∀ j, (w.entered i e a e').IsAt j → w.IsAt j := by
    intro j hj
    rw [isAt_entered, hm] at hj
    split at hj
    · cases hj
    · exact hj
  -- an errand that is admitted to the modem
  have only (hb : w.arbiter.busy = false) : ∀ j, (w.entered i e a e').IsAt j → j = i := by
    intro j hj
    rw [isAt_entered] at hj
    split at hj
    · assumption
    · exact absurd hj (h.nobody hb j)
  have ho := h.outstanding
  cases hentry with
  | refused _ hr => exact h.of_same (aside rfl) rfl rfl (by simp [Traffic.entered, hr])
  | inspect hb hl | dial hb hl =>
    exact of_nobody (only hb) (fun _ => rfl) (by simp [Traffic.entered, hl])
      (by simp [Traffic.entered, ho, hl])
  | hangUp hb _ hl =>
    exact of_nobody (only hb) (fun _ => rfl) (by simp [Traffic.entered, hl])
      (by simp [Traffic.entered, ho, hl])
  | restore hb hl =>
    exact of_nobody (only hb) (fun _ => rfl) (by simp [Traffic.entered])
      (by simp [Traffic.entered, ho, hl, Errand.returns?])
  | @stale id hid =>
    refine h.of_same (aside rfl) rfl rfl ?_
    cases hl : w.arbiter.lease with
    | none => simp [Traffic.entered, ho, hl]
    | some lease =>
      have hne : lease.id ≠ id := by simpa [hl] using hid
      simp [Traffic.entered, ho, hl, Errand.returns?, hne.symm]
  | noSession => exact h.of_same (aside rfl) rfl rfl (by simp [Traffic.entered, Errand.returns?])
  | handOver _ hl =>
    exact h.of_same (aside rfl) rfl (by simp [Traffic.entered, hl])
      (by simp [Traffic.entered, Errand.returns?])

theorem answered {w : Traffic} (h : w.Orderly) {i : Nat} {e : Errand} (he : w.errands i = some e)
    (hm : e.isAtModem = true) (answer : ModemAnswer) (mode : Option ModemMode) :
    (w.answered i e answer mode).Orderly := by
  have hb : w.arbiter.busy = true := h.busy i ⟨e, he, hm⟩
  have hl : w.arbiter.lease = none := by
    cases hl : w.arbiter.lease with
    | none => rfl
    | some lease => rw [h.idle_of_lease (by rw [hl]; rfl)] at hb; cases hb
  have ho : w.outstanding = [] := by rw [h.outstanding, hl]; rfl
  have only : ∀ j, (w.answered i e answer mode).IsAt j → j = i := by
    intro j hj
    rw [isAt_answered] at hj
    split at hj
    · assumption
    · exact h.alone j i hj ⟨e, he, hm⟩
  have hp := Arbiter.progress_of_answer (a := w.arbiter) hm answer
  simp only [Traffic.answered] at only ⊢
  generalize w.arbiter.answer e answer = r at hp only ⊢
  obtain ⟨a, e'⟩ := r
  cases hp with
  | stays hm' =>
    have : e'.leased? = none := by cases e' <;> first | rfl | cases hm'
    exact of_nobody only (fun _ => hb) (by simp [hl]) (by simp [ho, hl, this])
  | granted openedByLease savedMode timeout =>
    refine of_nobody only (fun hi => ?_) (fun _ => rfl) (by simp [ho, Errand.leased?])
    obtain ⟨e, he, hm⟩ := hi
    simp [Traffic.set] at he
    subst he
    cases hm
  | leaves dataSession hn =>
    refine of_nobody only (fun hi => ?_) (by simp [hl]) (by simp [ho, hl, hn])
    obtain ⟨e, he, hm⟩ := hi
    simp [Traffic.set] at he
    subst he
    cases hm

theorem step {w w' : Traffic} (h : w.Orderly) (hs : Step Modem dials w w') : w'.Orderly := by
  cases hs with
  | @come i e _ hreq =>
    apply h.set
    cases e <;> first | rfl | exact False.elim hreq
  | enter _ _ henter => exact h.entered (Arbiter.entry_of_enter henter)
  | call he hc _ => exact h.answered he (Errand.isAtModem_of_call? hc) _ _
  | skip he hm _ => exact h.answered he hm _ _
  | go _ => exact h.set rfl

theorem reach {w : Traffic} (h : Relation.ReflTransGen (Step Modem dials) {} w) : w.Orderly := by
  induction h with
  | refl => exact start
  | tail _ hs ih => exact ih.step hs

end Orderly

end Traffic

end EdgeGateway
