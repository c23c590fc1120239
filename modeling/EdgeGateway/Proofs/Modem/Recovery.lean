import EdgeGateway.Proofs.Modem.Traffic

/-!
# EdgeGateway.Proofs.Modem.Recovery

Whether a data session can be had again once modem calls have failed
(`History.reopens_iff`).

* `MayFail`, `Succeeds` : a modem any of whose calls may fail and then changes nothing, and one that
  does all it can.
* `History`             : the traffic at the arbiter and the modem calls answered so far.
* `Arbiter.Accounts`    : what the arbiter's books say of the modem, with an errand at it or none.
* `Traffic.Ends`        : what one caller's errand ends with while all others are away.

The arbiter takes the session for closed when the call that closes it has failed. It never closes
that modem any more: the modem is jammed for good.
-/

namespace EdgeGateway

/-- Any call may fail, and then changes nothing. -/
inductive MayFail : ModemBehaviour where
  | mode {m : ModemMode} : MayFail (some m) .mode (.mode m) (some m)
  | dial {params : DialParams} {timeout : Option Nat} {ip : Option IpAddress} {m : ModemMode} :
      MayFail none (.dial params timeout) (.address ip) (some m)
  | change {m m' : ModemMode} {timeout : Nat} :
      MayFail (some m) (.change m' timeout) .done (some m')
  | hangUp {m : ModemMode} {timeout : Option Nat} :
      MayFail (some m) (.hangUp timeout) .done none
  | failed {m : Option ModemMode} {c : ModemCall} {e : ModemError} : MayFail m c (.failed e) m

/-- An open modem cannot be dialled, and only an open one can be asked, switched or closed. -/
inductive Succeeds : ModemBehaviour where
  | mode {m : ModemMode} : Succeeds (some m) .mode (.mode m) (some m)
  | modeClosed : Succeeds none .mode (.failed .notOpen) none
  | dial {params : DialParams} {timeout : Option Nat} {ip : Option IpAddress} {m : ModemMode} :
      Succeeds none (.dial params timeout) (.address ip) (some m)
  | dialOpen {m : ModemMode} {params : DialParams} {timeout : Option Nat} :
      Succeeds (some m) (.dial params timeout) (.failed .inUse) (some m)
  | change {m m' : ModemMode} {timeout : Nat} :
      Succeeds (some m) (.change m' timeout) .done (some m')
  | changeClosed {m' : ModemMode} {timeout : Nat} :
      Succeeds none (.change m' timeout) (.failed .notOpen) none
  | hangUp {m : ModemMode} {timeout : Option Nat} :
      Succeeds (some m) (.hangUp timeout) .done none
  | hangUpClosed {timeout : Option Nat} :
      Succeeds none (.hangUp timeout) (.failed .notOpen) none

/-- The errand, if it is at the modem. -/
def Errand.visitor (e : Errand) : Option Errand := if e.isAtModem then some e else none

/-- Nobody is at the modem when an errand is admitted to it, or changes anything else. -/
theorem Traffic.Orderly.entry_cases {w : Traffic} (h : w.Orderly) {a : Arbiter} {e e' : Errand}
    (hentry : w.arbiter.Entry e a e') :
    (a = w.arbiter ∧ e'.isAtModem = false) ∨ ∀ i, ¬ w.IsAt i := by
  cases hentry with
  | refused _ _ | stale _ | noSession _ => exact .inl ⟨rfl, rfl⟩
  | inspect hb _ | restore hb _ | dial hb _ => exact .inr (h.nobody hb)
  | hangUp hb _ _ => exact .inr (h.nobody hb)
  | handOver _ hl => exact .inr (h.nobody (h.idle_of_lease (by rw [hl]; rfl)))

theorem Traffic.Orderly.no_lease {w : Traffic} (h : w.Orderly) {i : Nat} (hi : w.IsAt i) :
    w.arbiter.lease = none := by
  cases hl : w.arbiter.lease with
  | none => rfl
  | some l => exact absurd hi (h.nobody (h.idle_of_lease (by rw [hl]; rfl)) i)

/-! ## The books -/

/-- The modem was to be closed, and was not. -/
def failsToClose : ModemCall × ModemAnswer → Bool
  | (.hangUp _, .failed _) => true
  | _ => false

namespace Arbiter

/-- What the arbiter goes by while the errand is at the modem, or while nobody is. The modem is
open for the data session, for a lease, or for nobody: then it is jammed. -/
def Expects (jammed : Bool) (a : Arbiter) (mode : Option ModemMode) : Option Errand → Prop
  | none => a.busy = false ∧
    match a.lease with
    | none => mode.isSome = (a.dataSession || jammed)
    | some l => mode.isSome = true ∧ l.openedByLease = !(a.dataSession || jammed)
  | some (.inspect _) | some (.openForLease _) | some (.dial _ _) =>
    mode.isSome = (a.dataSession || jammed)
  | some (.switchForLease _) => mode.isSome = true ∧ (a.dataSession || jammed) = true
  | some (.restore l) | some (.closeAfterLease l) =>
    mode.isSome = true ∧ l.openedByLease = !(a.dataSession || jammed)
  | some (.hangUp _) => mode.isSome = true ∧ a.dataSession = true
  | some _ => True

structure Accounts (jammed : Bool) (a : Arbiter) (mode : Option ModemMode)
    (visitor : Option Errand) : Prop where
  apart : a.dataSession = true → jammed = false
  expects : a.Expects jammed mode visitor

variable {jammed : Bool} {a a' : Arbiter} {e e' : Errand} {mode mode' : Option ModemMode}

theorem Entry.accounts (h : a.Entry e a' e') (ha : a.Accounts jammed mode none) :
    a'.Accounts jammed mode e'.visitor := by
  obtain ⟨hap, hb, hx⟩ := ha
  cases h with
  | refused _ _ | stale _ | noSession _ => exact ⟨hap, hb, hx⟩
  | inspect _ hl | dial _ hl | restore _ hl =>
    rw [hl] at hx
    exact ⟨hap, hx⟩
  | handOver hs hl =>
    rw [hl] at hx
    exact ⟨nofun, hb, hx.1, by simp [hap hs]⟩
  | hangUp _ hs hl =>
    rw [hl, hs, Bool.true_or] at hx
    exact ⟨hap, hx, hs⟩

namespace Accounts

theorem finish {o : Outcome} (hl : a.lease = none)
    (hap : a.dataSession = true → jammed = false)
    (hm : mode.isSome = (a.dataSession || jammed)) :
    (a.finish o).1.Accounts jammed mode (a.finish o).2.visitor := by
  refine ⟨hap, rfl, ?_⟩
  simp only [Arbiter.finish, hl]
  exact hm

theorem grant {openedByLease : Bool} {savedMode : ModemMode} {timeout : Nat}
    (hap : a.dataSession = true → jammed = false) (hm : mode.isSome = true)
    (ho : openedByLease = !(a.dataSession || jammed)) :
    (a.grant openedByLease savedMode timeout).1.Accounts jammed mode
      (a.grant openedByLease savedMode timeout).2.visitor :=
  ⟨hap, rfl, hm, ho⟩

/-- A call that does not close the modem. -/
theorem ask {c : ModemCall} {answer : ModemAnswer} (h : a.Accounts jammed mode (some e))
    (hl : a.lease = none) (hc : e.call? = some c) (hno : ∀ timeout, c ≠ .hangUp timeout)
    (hm : MayFail mode c answer mode') :
    (a.answer e answer).1.Accounts jammed mode' (a.answer e answer).2.visitor := by
  obtain ⟨hap, hx⟩ := h
  cases e with
  | inspect timeout =>
    cases hc
    cases hm with
    | @mode m =>
      have hopen : (a.dataSession || jammed) = true := Eq.symm hx
      cases m with
      | command => exact .grant hap rfl (by rw [hopen]; rfl)
      | ppp => exact ⟨hap, rfl, hopen⟩
    | @failed _ _ e =>
      cases e with
      | notOpen => exact ⟨hap, hx⟩
      | _ => exact .finish hl hap hx
  | openForLease timeout =>
    cases hc
    cases hm with
    | dial =>
      have hclosed : (a.dataSession || jammed) = false := Eq.symm hx
      exact .grant hap rfl (by rw [hclosed]; rfl)
    | @failed _ _ e => cases e <;> exact .finish hl hap hx
  | switchForLease timeout =>
    cases hc
    obtain ⟨hmode, hopen⟩ := hx
    cases hm with
    | change => exact .grant hap rfl (by rw [hopen]; rfl)
    | failed => exact .finish hl hap (hmode.trans hopen.symm)
  | restore lease =>
    obtain ⟨hmode, ho⟩ := hx
    cases hp : lease.savedMode with
    | command => simp [Errand.call?, hp] at hc
    | ppp =>
      simp only [Errand.call?, hp, if_true, Option.some.injEq] at hc
      subst hc
      cases hm with
      | change => exact ⟨hap, rfl, ho⟩
      | failed => exact ⟨hap, hmode, ho⟩
  | dial params timeout =>
    cases hc
    cases hm with
    | dial =>
      obtain ⟨-, hj⟩ := Bool.or_eq_false_iff.mp (Eq.symm hx)
      exact .finish hl (fun _ => hj) rfl
    | failed => exact .finish hl hap hx
  | closeAfterLease lease =>
    cases ho : lease.openedByLease with
    | false => simp [Errand.call?, ho] at hc
    | true =>
      simp only [Errand.call?, ho, if_true, Option.some.injEq] at hc
      exact absurd hc.symm (hno _)
  | hangUp timeout =>
    cases hc
    exact absurd rfl (hno timeout)
  | _ => cases hc

/-- The call that closes the modem. If it fails the arbiter has nobody left to close it for. -/
theorem close {timeout : Option Nat} {answer : ModemAnswer} (h : a.Accounts jammed mode (some e))
    (hl : a.lease = none) (hc : e.call? = some (.hangUp timeout))
    (hm : MayFail mode (.hangUp timeout) answer mode') :
    (a.answer e answer).1.Accounts (jammed || failsToClose (.hangUp timeout, answer)) mode'
      (a.answer e answer).2.visitor := by
  obtain ⟨hap, hx⟩ := h
  cases e with
  | closeAfterLease lease =>
    obtain ⟨hmode, ho⟩ := hx
    cases hopened : lease.openedByLease with
    | false => simp [Errand.call?, hopened] at hc
    | true =>
      obtain ⟨hs, hj⟩ : a.dataSession = false ∧ jammed = false := by simpa [hopened] using ho
      cases hm with
      | hangUp => exact .finish hl (by simp [hs]) (by simp [hs, hj, failsToClose])
      | failed => exact .finish hl (by simp [hs]) (by simp [hmode, failsToClose])
  | hangUp timeout =>
    obtain ⟨hmode, hs⟩ := hx
    cases hm with
    | hangUp => exact .finish hl nofun (by simp [hap hs, failsToClose])
    | failed => exact .finish hl nofun (by simp [hmode, failsToClose])
  | restore lease => cases hp : lease.savedMode <;> simp [Errand.call?, hp] at hc
  | _ => cases hc

theorem call {c : ModemCall} {answer : ModemAnswer} (h : a.Accounts jammed mode (some e))
    (hl : a.lease = none) (hc : e.call? = some c) (hm : MayFail mode c answer mode') :
    (a.answer e answer).1.Accounts (jammed || failsToClose (c, answer)) mode'
      (a.answer e answer).2.visitor := by
  cases c with
  | hangUp timeout => exact h.close hl hc hm
  | mode | dial _ _ | change _ _ =>
    simpa [failsToClose] using h.ask hl hc nofun hm

/-- An errand with no call to make goes on as after one. -/
theorem skip (h : a.Accounts jammed mode (some e)) (hl : a.lease = none)
    (hat : e.isAtModem = true) (hc : e.call? = none) :
    (a.answer e .done).1.Accounts jammed mode (a.answer e .done).2.visitor := by
  obtain ⟨hap, hx⟩ := h
  cases e with
  | restore lease => exact ⟨hap, hx⟩
  | closeAfterLease lease =>
    obtain ⟨hmode, ho⟩ := hx
    cases hopened : lease.openedByLease with
    | true => simp [Errand.call?, hopened] at hc
    | false =>
      rw [hopened] at ho
      have hopen := Bool.eq_true_of_not_eq_false (Bool.eq_not.mp ho).symm
      exact .finish hl hap (hmode.trans hopen.symm)
  | inspect | openForLease | switchForLease | dial | hangUp => cases hc
  | _ => cases hat

end Accounts

end Arbiter

/-! ## Histories -/

/-- The traffic at the arbiter, and the modem calls that have been answered. -/
structure History where
  traffic : Traffic := {}
  calls : List (ModemCall × ModemAnswer) := []

namespace History

variable {dials : DialParams → Prop} {h h' : History}

inductive Step (Modem : ModemBehaviour) (dials : DialParams → Prop) : History → History → Prop where
  | call {h : History} {i : Nat} {e : Errand} {c : ModemCall} {answer : ModemAnswer}
      {mode : Option ModemMode} : h.traffic.errands i = some e → e.call? = some c →
      Modem h.traffic.mode c answer mode →
      Step Modem dials h ⟨h.traffic.answered i e answer mode, h.calls ++ [(c, answer)]⟩
  | silent {h : History} {w : Traffic} : Traffic.Step (fun _ _ _ _ => False) dials h.traffic w →
      Step Modem dials h { h with traffic := w }

/-- The modem was to be closed at some time, and was not. -/
def jammed (h : History) : Bool := h.calls.any failsToClose

/-- What the books say holds of whoever is at the modem, and if nobody is. -/
structure Accounted (h : History) : Prop where
  orderly : h.traffic.Orderly
  visited : ∀ i e, h.traffic.errands i = some e → e.isAtModem = true →
    h.traffic.arbiter.Accounts h.jammed h.traffic.mode (some e)
  unvisited : (∀ i, ¬ h.traffic.IsAt i) → h.traffic.arbiter.Accounts h.jammed h.traffic.mode none

namespace Accounted

theorem start : Accounted {} where
  orderly := .start
  visited := by intro i e he; cases he
  unvisited _ := ⟨nofun, rfl, rfl⟩

/-- An errand comes or goes, away from the modem. -/
theorem set (ha : h.Accounted) {i : Nat} {e : Option Errand}
    (he : e.any Errand.isAtModem = false) (hi : ¬ h.traffic.IsAt i) :
    Accounted { h with traffic := h.traffic.set i e } where
  orderly := ha.orderly.set he
  visited j e' hj hat := by
    by_cases hji : j = i
    · subst hji
      simp only [Traffic.set, Function.update_self] at hj
      rw [hj, Option.any_some, hat] at he
      cases he
    · exact ha.visited j e' (by simpa [Traffic.set, hji] using hj) hat
  unvisited hn := by
    apply ha.unvisited
    intro j hj
    by_cases hji : j = i
    · exact hi (hji ▸ hj)
    · exact hn j (by simpa [Traffic.isAt_set, hji] using hj)

/-- Only one errand can be at the modem. -/
theorem of_alone {w : Traffic} {calls : List (ModemCall × ModemAnswer)} {i : Nat} {e : Errand}
    (hw : w.Orderly) (hi : w.errands i = some e) (hn : ∀ j, j ≠ i → ¬ w.IsAt j)
    (hacc : w.arbiter.Accounts (calls.any failsToClose) w.mode e.visitor) :
    Accounted ⟨w, calls⟩ where
  orderly := hw
  visited j e' hj hat := by
    by_cases hji : j = i
    · subst hji
      cases hi.symm.trans hj
      rwa [Errand.visitor, if_pos hat] at hacc
    · exact absurd ⟨e', hj, hat⟩ (hn j hji)
  unvisited hn' := by
    have hat : ¬ e.isAtModem = true := fun hat => hn' i ⟨e, hi, hat⟩
    rwa [Errand.visitor, if_neg hat] at hacc

theorem enter (ha : h.Accounted) {i : Nat} {e e' : Errand} {a : Arbiter}
    (hi : h.traffic.errands i = some e) (hentry : h.traffic.arbiter.Entry e a e') :
    Accounted { h with traffic := h.traffic.entered i e a e' } := by
  have haway : ¬ h.traffic.IsAt i := by
    rintro ⟨e₁, he₁, hat⟩
    cases hi.symm.trans he₁
    cases hentry.away.symm.trans hat
  have horderly := ha.orderly.entered hentry (i := i)
  rcases ha.orderly.entry_cases hentry with ⟨rfl, he'⟩ | hn
  · have hset := ha.set (e := some e') he' haway
    exact ⟨horderly, hset.visited, hset.unvisited⟩
  · refine of_alone horderly (Function.update_self ..) ?_ (hentry.accounts (ha.unvisited hn))
    intro j hji hj
    rw [Traffic.isAt_entered, if_neg hji] at hj
    exact hn j hj

/-- The errand at the modem goes on. -/
theorem answer (ha : h.Accounted) {i : Nat} {e : Errand} (hi : h.traffic.errands i = some e)
    (hat : e.isAtModem = true) {answer : ModemAnswer} {mode : Option ModemMode}
    {calls : List (ModemCall × ModemAnswer)}
    (hacc : (h.traffic.arbiter.answer e answer).1.Accounts (calls.any failsToClose) mode
      (h.traffic.arbiter.answer e answer).2.visitor) :
    Accounted ⟨h.traffic.answered i e answer mode, calls⟩ := by
  have horderly := ha.orderly.answered hi hat answer mode
  refine of_alone horderly (Function.update_self ..) ?_ hacc
  intro j hji hj
  rw [Traffic.isAt_answered, if_neg hji] at hj
  exact hji (ha.orderly.alone j i hj ⟨e, hi, hat⟩)

theorem step (ha : h.Accounted) (hs : Step MayFail dials h h') : h'.Accounted := by
  cases hs with
  | @call i e c answer mode hi hc hm =>
    have hat := Errand.isAtModem_of_call? hc
    have hl := ha.orderly.no_lease ⟨e, hi, hat⟩
    refine ha.answer hi hat ?_
    simpa [jammed] using (ha.visited i e hi hat).call hl hc hm
  | silent hs =>
    cases hs with
    | @come i e hi hreq =>
      refine ha.set ?_ ?_
      · cases e <;> first | rfl | exact False.elim hreq
      · rintro ⟨e', he', -⟩
        cases hi.symm.trans he'
    | enter hi _ henter => exact ha.enter hi (Arbiter.entry_of_enter henter)
    | call _ _ hm => exact hm.elim
    | @skip i e hi hat hc =>
      have hl := ha.orderly.no_lease ⟨e, hi, hat⟩
      exact ha.answer hi hat ((ha.visited i e hi hat).skip hl hat hc)
    | @go i o hi =>
      refine ha.set rfl ?_
      rintro ⟨e, he, hat⟩
      cases hi.symm.trans he
      cases hat

theorem reach (hs : Relation.ReflTransGen (Step MayFail dials) {} h) : h.Accounted := by
  induction hs with
  | refl => exact start
  | tail _ hs ih => exact ih.step hs

end Accounted

end History

/-! ## One caller alone -/

namespace Traffic

variable {Modem : ModemBehaviour} {w w' : Traffic} {i : Nat}

/-- The errand of the one caller goes on. -/
inductive Turn (Modem : ModemBehaviour) (i : Nat) : Traffic → Traffic → Prop where
  | enter {w : Traffic} {e e' : Errand} {a : Arbiter} {expired : Bool} :
      w.errands i = some e → (expired = true → e.patience.isSome = true) →
      w.arbiter.enter expired e = some (a, e') → Turn Modem i w (w.entered i e a e')
  | call {w : Traffic} {e : Errand} {c : ModemCall} {answer : ModemAnswer}
      {mode : Option ModemMode} : w.errands i = some e → e.call? = some c →
      Modem w.mode c answer mode → Turn Modem i w (w.answered i e answer mode)
  | skip {w : Traffic} {e : Errand} : w.errands i = some e → e.isAtModem = true →
      e.call? = none → Turn Modem i w (w.answered i e .done w.mode)

theorem Turn.step {dials : DialParams → Prop} (h : Turn Modem i w w') : Step Modem dials w w' := by
  cases h with
  | enter hi hx he => exact .enter hi hx he
  | call hi hc hm => exact .call hi hc hm
  | skip hi hat hc => exact .skip hi hat hc

/-- The caller comes with the errand, and it ends well however its calls are answered. -/
def Ends (Modem : ModemBehaviour) (i : Nat) (e : Errand) (Good : Outcome → Traffic → Prop)
    (w : Traffic) : Prop :=
  Settles (Turn Modem i) (fun w' => ∃ o, w'.errands i = some (.ended o) ∧ Good o (w'.set i none))
    (w.set i (some e))

variable {Good : Traffic → Prop}

theorem settles_enter {e e' : Errand} {a : Arbiter} (hi : w.errands i = some e)
    (haway : e.isAtModem = false) (henter : ∀ expired, w.arbiter.enter expired e = some (a, e'))
    (h : Settles (Turn Modem i) Good (w.entered i e a e')) : Settles (Turn Modem i) Good w := by
  have hpatient : false = true → e.patience.isSome = true := nofun
  refine .move ⟨_, .enter hi hpatient (henter false)⟩ ?_
  intro w' ht
  cases ht with
  | @enter e₁ _ _ expired hi₁ _ he =>
    cases hi.symm.trans hi₁
    cases (henter expired).symm.trans he
    exact h
  | call hi₁ hc _ =>
    cases hi.symm.trans hi₁
    cases haway.symm.trans (Errand.isAtModem_of_call? hc)
  | skip hi₁ hat _ =>
    cases hi.symm.trans hi₁
    cases haway.symm.trans hat

theorem settles_call {e : Errand} {c : ModemCall} {answer : ModemAnswer}
    {m mode : Option ModemMode} (hi : w.errands i = some e) (hw : w.mode = m)
    (hc : e.call? = some c) (hm : Modem m c answer mode)
    (h : ∀ answer mode, Modem m c answer mode →
      Settles (Turn Modem i) Good (w.answered i e answer mode)) :
    Settles (Turn Modem i) Good w := by
  subst hw
  refine .move ⟨_, .call hi hc hm⟩ ?_
  intro w' ht
  cases ht with
  | enter hi₁ _ he =>
    cases hi.symm.trans hi₁
    have haway := (Arbiter.entry_of_enter he).away
    cases haway.symm.trans (Errand.isAtModem_of_call? hc)
  | call hi₁ hc₁ hm₁ =>
    cases hi.symm.trans hi₁
    cases hc.symm.trans hc₁
    exact h _ _ hm₁
  | skip hi₁ _ hc₁ =>
    cases hi.symm.trans hi₁
    cases hc.symm.trans hc₁

theorem settles_ended {o : Outcome} (hi : w.errands i = some (.ended o)) (h : Good w) :
    Settles (Turn Modem i) Good w := by
  refine .rest ?_ h
  intro w' ht
  cases ht with
  | enter hi₁ _ he =>
    cases hi.symm.trans hi₁
    cases he
  | call hi₁ hc _ =>
    cases hi.symm.trans hi₁
    cases hc
  | skip hi₁ hat _ =>
    cases hi.symm.trans hi₁
    cases hat

/-! ### Closing the data session and opening it again -/

/-- Nothing holds up a new errand. -/
def Idle (w : Traffic) : Prop := w.arbiter.busy = false ∧ w.arbiter.lease = none

theorem Idle.ends_closeData (hw : w.Idle) (i : Nat) (timeout : Option Nat)
    (hopen : w.arbiter.dataSession = true → w.mode.isSome = true) :
    w.Ends Succeeds i (.closeData timeout) fun o w' =>
      o = .closed ∧ w'.Idle ∧ w'.mode = if w.arbiter.dataSession then none else w.mode := by
  obtain ⟨hb, hl⟩ := hw
  cases hs : w.arbiter.dataSession with
  | false =>
    have henter (expired : Bool) :
        w.arbiter.enter expired (.closeData timeout) = some (w.arbiter, .ended .closed) := by
      simp [Arbiter.enter, hb, hl, hs]
    refine settles_enter (Function.update_self ..) rfl henter ?_
    exact settles_ended (Function.update_self ..) ⟨_, Function.update_self .., rfl, ⟨hb, hl⟩, rfl⟩
  | true =>
    have henter (expired : Bool) : w.arbiter.enter expired (.closeData timeout) =
        some ({ w.arbiter with busy := true }, .hangUp timeout) := by
      simp [Arbiter.enter, hb, hl, hs]
    obtain ⟨m, hm⟩ := Option.isSome_iff_exists.mp (hopen hs)
    refine settles_enter (Function.update_self ..) rfl henter ?_
    refine settles_call (Function.update_self ..) hm rfl .hangUp ?_
    intro answer mode hcall
    cases hcall
    exact settles_ended (Function.update_self ..)
      ⟨_, Function.update_self .., rfl, ⟨rfl, hl⟩, rfl⟩

theorem Idle.ends_openData (hw : w.Idle) (i : Nat) (params : DialParams) (timeout : Option Nat) :
    w.Ends Succeeds i (.openData params timeout) fun o _ =>
      if w.mode.isSome then o = .refused (.modem .inUse) else ∃ ip, o = .opened ip := by
  obtain ⟨hb, hl⟩ := hw
  have henter (expired : Bool) : w.arbiter.enter expired (.openData params timeout) =
      some ({ w.arbiter with busy := true }, .dial params timeout) := by
    simp [Arbiter.enter, hb, hl]
  refine settles_enter (Function.update_self ..) rfl henter ?_
  cases hm : w.mode with
  | none =>
    have hdial : Succeeds none (.dial params timeout) (.address none) (some .ppp) := .dial
    refine settles_call (Function.update_self ..) hm rfl hdial ?_
    intro answer mode hcall
    cases hcall
    exact settles_ended (Function.update_self ..) ⟨_, Function.update_self .., _, rfl⟩
  | some m =>
    refine settles_call (Function.update_self ..) hm rfl .dialOpen ?_
    intro answer mode hcall
    cases hcall
    exact settles_ended (Function.update_self ..) ⟨_, Function.update_self .., rfl⟩

/-- The caller closes the data session and opens it again; `Good` is said of the second outcome. -/
def Reopens (w : Traffic) (i : Nat) (closing opening : Option Nat) (params : DialParams)
    (Good : Outcome → Prop) : Prop :=
  w.Ends Succeeds i (.closeData closing) fun o w' =>
    o = .closed ∧ w'.Ends Succeeds i (.openData params opening) fun o _ => Good o

namespace Ends

variable {e : Errand} {Good Good' : Outcome → Traffic → Prop}

theorem mono (h : w.Ends Modem i e Good) (hg : ∀ o w', Good o w' → Good' o w') :
    w.Ends Modem i e Good' := by
  refine Settles.mono h ?_
  rintro w' ⟨o, ho, hgood⟩
  exact ⟨o, ho, hg o _ hgood⟩

theorem exists_both (h : w.Ends Modem i e Good) (h' : w.Ends Modem i e Good') :
    ∃ o w', Good o w' ∧ Good' o w' := by
  obtain ⟨w', ⟨o, ho, hgood⟩, o', ho', hgood'⟩ := Settles.exists_both h h'
  cases ho.symm.trans ho'
  exact ⟨o, _, hgood, hgood'⟩

end Ends

namespace Reopens

variable {closing opening : Option Nat} {params : DialParams} {Good Good' : Outcome → Prop}

theorem exists_both (h : w.Reopens i closing opening params Good)
    (h' : w.Reopens i closing opening params Good') : ∃ o, Good o ∧ Good' o := by
  obtain ⟨_, w', ⟨-, hopen⟩, -, hopen'⟩ := Ends.exists_both h h'
  obtain ⟨o, _, hgood, hgood'⟩ := hopen.exists_both hopen'
  exact ⟨o, hgood, hgood'⟩

end Reopens

end Traffic

namespace History

variable {dials : DialParams → Prop} {h : History}

theorem Accounted.reopens (ha : h.Accounted) (hq : ∀ j, h.traffic.errands j = none)
    (hl : h.traffic.arbiter.lease = none) (i : Nat) (closing opening : Option Nat)
    (params : DialParams) : h.traffic.Reopens i closing opening params fun o =>
      if h.jammed then o = .refused (.modem .inUse) else ∃ ip, o = .opened ip := by
  obtain ⟨hap, hb, hx⟩ := ha.unvisited fun j ⟨e, he, _⟩ => nomatch (hq j).symm.trans he
  rw [hl] at hx
  have hidle : h.traffic.Idle := ⟨hb, hl⟩
  have hopened : h.traffic.arbiter.dataSession = true → h.traffic.mode.isSome = true := by
    intro hs
    rw [hx, hs]
    rfl
  refine (hidle.ends_closeData i closing hopened).mono ?_
  rintro o w' ⟨ho, hidle', hmode⟩
  have hopen : w'.mode.isSome = h.jammed := by
    rw [hmode]
    cases hs : h.traffic.arbiter.dataSession with
    | false => simpa [hs] using hx
    | true => simp [hap hs]
  refine ⟨ho, ?_⟩
  rw [← hopen]
  exact hidle'.ends_openData i params opening

theorem reopens_iff (hs : Relation.ReflTransGen (Step MayFail dials) {} h)
    (hq : ∀ j, h.traffic.errands j = none) (hl : h.traffic.arbiter.lease = none) (i : Nat)
    (closing opening : Option Nat) (params : DialParams) :
    (h.traffic.Reopens i closing opening params (fun o => ∃ ip, o = .opened ip) ↔
      h.jammed = false) ∧
    (h.jammed = true →
      h.traffic.Reopens i closing opening params (· = .refused (.modem .inUse))) := by
  have hr := (Accounted.reach hs).reopens hq hl i closing opening params
  refine ⟨⟨?_, ?_⟩, ?_⟩
  · intro hopens
    rw [← Bool.not_eq_true]
    intro hj
    -- the two outcomes would be those of one and the same opening
    obtain ⟨o, ⟨ip, hip⟩, ho⟩ := hopens.exists_both hr
    rw [if_pos hj] at ho
    cases hip.symm.trans ho
  · intro hj
    simpa only [hj, Bool.false_eq_true, if_false] using hr
  · intro hj
    simpa only [hj, if_true] using hr

/-- A session has been opened, by one who has gone. -/
def opened (params : DialParams) : History where
  traffic := { arbiter := { dataSession := true }, mode := some .ppp }
  calls := [(.dial params none, .address none)]

theorem reach_opened {params : DialParams} (hp : dials params) :
    Relation.ReflTransGen (Step MayFail dials) {} (opened params) := by
  let w₁ : Traffic := .set {} 0 (some (.openData params none))
  let w₂ := w₁.entered 0 (.openData params none) { busy := true } (.dial params none)
  let w₃ := w₂.answered 0 (.dial params none) (.address none) (some .ppp)
  have s₁ : Step MayFail dials {} ⟨w₁, []⟩ := .silent (.come rfl hp)
  have s₂ : Step MayFail dials ⟨w₁, []⟩ ⟨w₂, []⟩ :=
    .silent (.enter (show w₁.errands 0 = _ by rfl) (by simp)
      (show w₁.arbiter.enter false _ = _ from rfl))
  have s₃ : Step MayFail dials ⟨w₂, []⟩ ⟨w₃, (opened params).calls⟩ := .call rfl rfl .dial
  have s₄ : Step MayFail dials ⟨w₃, (opened params).calls⟩ ⟨w₃.set 0 none, _⟩ := .silent (.go rfl)
  have hgone : w₃.set 0 none = (opened params).traffic := by
    simp [w₃, w₂, w₁, opened, Traffic.set, Traffic.answered, Traffic.entered, Arbiter.answer,
      Arbiter.finish, Errand.leased?, Function.update_idem]
  rw [hgone] at s₄
  exact (((Relation.ReflTransGen.single s₁).tail s₂).tail s₃).tail s₄

/-- Another caller's lease has failed over the switch to command mode. -/
theorem reopens_after_failed_switch :
    ∃ h : History, Relation.ReflTransGen (Step MayFail fun _ => True) {} h ∧
      (.change .command 5, .failed .timeout) ∈ h.calls ∧
      (∀ j, h.traffic.errands j = none) ∧ h.traffic.arbiter.lease = none ∧
      ∀ i closing opening params,
        h.traffic.Reopens i closing opening params (fun o => ∃ ip, o = .opened ip) := by
  let h₀ := opened { ppp := true }
  let w₁ := h₀.traffic.set 1 (some (.acquire 5))
  let w₂ := w₁.entered 1 (.acquire 5) { busy := true, dataSession := true } (.inspect 5)
  let w₃ := w₂.answered 1 (.inspect 5) (.mode .ppp) (some .ppp)
  let w₄ := w₃.answered 1 (.switchForLease 5) (.failed .timeout) (some .ppp)
  let calls := h₀.calls ++ [(.mode, .mode .ppp)]
  let h : History := ⟨w₄.set 1 none, calls ++ [(.change .command 5, .failed .timeout)]⟩
  have s₁ : Step MayFail (fun _ => True) h₀ ⟨w₁, h₀.calls⟩ := .silent (.come rfl trivial)
  have s₂ : Step MayFail (fun _ => True) ⟨w₁, h₀.calls⟩ ⟨w₂, h₀.calls⟩ :=
    .silent (.enter (show w₁.errands 1 = _ by rfl) (by simp)
      (show w₁.arbiter.enter false _ = _ from rfl))
  have s₃ : Step MayFail (fun _ => True) ⟨w₂, h₀.calls⟩ ⟨w₃, calls⟩ := .call rfl rfl .mode
  have s₄ : Step MayFail (fun _ => True) ⟨w₃, calls⟩ ⟨w₄, h.calls⟩ := .call rfl rfl .failed
  have s₅ : Step MayFail (fun _ => True) ⟨w₄, h.calls⟩ h := .silent (.go rfl)
  have hs : Relation.ReflTransGen (Step MayFail fun _ => True) {} h :=
    (((((reach_opened trivial).tail s₁).tail s₂).tail s₃).tail s₄).tail s₅
  have hq : ∀ j, h.traffic.errands j = none := by
    intro j
    by_cases hj : j = 1 <;>
      simp [h, w₄, w₃, w₂, w₁, h₀, opened, Traffic.set, Traffic.answered, Traffic.entered, hj]
  exact ⟨h, hs, by decide, hq, rfl,
    fun i closing opening params => (reopens_iff hs hq rfl i closing opening params).1.mpr rfl⟩

/-- The modem has not closed for the data session, and the session cannot be had again. -/
theorem refused_after_failed_close :
    ∃ h : History, Relation.ReflTransGen (Step MayFail fun _ => True) {} h ∧
      (∀ j, h.traffic.errands j = none) ∧ h.traffic.arbiter.lease = none ∧
      ¬ h.traffic.Reopens 0 none none { ppp := true } (fun o => ∃ ip, o = .opened ip) := by
  let h₀ := opened { ppp := true }
  let w₁ := h₀.traffic.set 0 (some (.closeData none))
  let w₂ := w₁.entered 0 (.closeData none) { busy := true, dataSession := true } (.hangUp none)
  let w₃ := w₂.answered 0 (.hangUp none) (.failed .timeout) (some .ppp)
  let h : History := ⟨w₃.set 0 none, h₀.calls ++ [(.hangUp none, .failed .timeout)]⟩
  have s₁ : Step MayFail (fun _ => True) h₀ ⟨w₁, h₀.calls⟩ := .silent (.come rfl trivial)
  have s₂ : Step MayFail (fun _ => True) ⟨w₁, h₀.calls⟩ ⟨w₂, h₀.calls⟩ :=
    .silent (.enter (show w₁.errands 0 = _ by rfl) (by simp)
      (show w₁.arbiter.enter false _ = _ from rfl))
  have s₃ : Step MayFail (fun _ => True) ⟨w₂, h₀.calls⟩ ⟨w₃, h.calls⟩ := .call rfl rfl .failed
  have s₄ : Step MayFail (fun _ => True) ⟨w₃, h.calls⟩ h := .silent (.go rfl)
  have hs : Relation.ReflTransGen (Step MayFail fun _ => True) {} h :=
    ((((reach_opened trivial).tail s₁).tail s₂).tail s₃).tail s₄
  have hq : ∀ j, h.traffic.errands j = none := by
    intro j
    by_cases hj : j = 0 <;>
      simp [h, w₃, w₂, w₁, h₀, opened, Traffic.set, Traffic.answered, Traffic.entered, hj]
  have hr := (Accounted.reach hs).reopens hq rfl 0 none none { ppp := true }
  refine ⟨h, hs, hq, rfl, ?_⟩
  intro hopens
  obtain ⟨o, ⟨ip, hip⟩, ho⟩ := hopens.exists_both hr
  cases hip.symm.trans ho

end History

end EdgeGateway
