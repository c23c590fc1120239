import EdgeGateway.Proofs.Modem.Traffic

/-!
# EdgeGateway.Proofs.Modem.Restore

What errands leave the modem in, for a modem that does as it is told.

* `Obeys`            : such a modem. What opens it or takes it to command mode may fail and then
  changes nothing; what takes it back to its data mode or closes it succeeds.
* `Held`             : a data session has the modem in a mode it was dialled in, and without one
  the modem is closed.
* `Arbiter.Balanced` : the arbiter's books agree with the modem. They do whenever no errand is at
  it (`Traffic.Kept`).
-/

namespace EdgeGateway

def DialParams.mode (p : DialParams) : ModemMode := if p.ppp then .ppp else .command

inductive Obeys : ModemBehaviour where
  | mode {m : ModemMode} : Obeys (some m) .mode (.mode m) (some m)
  | modeClosed : Obeys none .mode (.failed .notOpen) none
  | modeFailed {m : Option ModemMode} {e : ModemError} : e ≠ .notOpen →
      Obeys m .mode (.failed e) m
  | dial {params : DialParams} {timeout : Option Nat} {ip : Option IpAddress} :
      Obeys none (.dial params timeout) (.address ip) (some params.mode)
  /-- dialling an open modem leaves it as it was or opens it anew -/
  | redial {m m' : ModemMode} {params : DialParams} {timeout : Option Nat}
      {ip : Option IpAddress} : m' = m ∨ m' = params.mode →
      Obeys (some m) (.dial params timeout) (.address ip) (some m')
  | dialFailed {m : Option ModemMode} {params : DialParams} {timeout : Option Nat}
      {e : ModemError} : Obeys m (.dial params timeout) (.failed e) m
  | change {m m' : ModemMode} {timeout : Nat} :
      Obeys (some m) (.change m' timeout) .done (some m')
  | changeFailed {m : Option ModemMode} {timeout : Nat} {e : ModemError} :
      Obeys m (.change .command timeout) (.failed e) m
  | changeClosed {m' : ModemMode} {timeout : Nat} {e : ModemError} :
      Obeys none (.change m' timeout) (.failed e) none
  | hangUp {m : ModemMode} {timeout : Option Nat} :
      Obeys (some m) (.hangUp timeout) .done none
  | hangUpClosed {timeout : Option Nat} {e : ModemError} :
      Obeys none (.hangUp timeout) (.failed e) none

variable {dials : DialParams → Prop}

def Held (dials : DialParams → Prop) (session : Bool) (mode : Option ModemMode) : Prop :=
  if session then ∃ p, dials p ∧ mode = some p.mode else mode = none

theorem held_ppp {session : Bool} {mode : Option ModemMode}
    (h : Held (fun p => p.ppp = true) session mode) :
    mode = if session then some .ppp else none := by
  cases session with
  | false => exact h
  | true =>
    obtain ⟨p, hp, hm⟩ := h
    simp [hm, DialParams.mode, hp]

theorem Held.session_of_some {session : Bool} {m : ModemMode} (h : Held dials session (some m)) :
    session = true := by
  cases session with
  | false => cases h
  | true => rfl

theorem Held.no_session {session : Bool} (h : Held dials session none) : session = false := by
  cases session with
  | false => rfl
  | true => obtain ⟨p, -, hm⟩ := h; cases hm

theorem Held.isSome {mode : Option ModemMode} (h : Held dials true mode) : mode.isSome = true := by
  obtain ⟨p, -, hm⟩ := h
  rw [hm]
  rfl

/-- The mode the modem is in once the lease has been given back, none if it is closed. -/
def Lease.leaves (l : Lease) : Option ModemMode :=
  if l.openedByLease then none else some l.savedMode

namespace Arbiter

def Balanced (dials : DialParams → Prop) (a : Arbiter) (mode : Option ModemMode) : Prop :=
  match a.lease with
  | some l => mode = some .command ∧ Held dials a.dataSession l.leaves
  | none => Held dials a.dataSession mode

theorem Balanced.leased {a : Arbiter} {mode : Option ModemMode} {l : Lease}
    (h : a.Balanced dials mode) (hl : a.lease = some l) :
    mode = some .command ∧ Held dials a.dataSession l.leaves := by
  simpa only [Balanced, hl] using h

theorem Balanced.unleased {a : Arbiter} {mode : Option ModemMode} (h : a.Balanced dials mode)
    (hl : a.lease = none) : Held dials a.dataSession mode := by
  simpa only [Balanced, hl] using h

theorem balanced_of_unleased {a : Arbiter} {mode : Option ModemMode} (hl : a.lease = none)
    (h : Held dials a.dataSession mode) : a.Balanced dials mode := by
  simpa only [Balanced, hl] using h

end Arbiter

/-- What an errand takes for granted about the data session and the modem. -/
def Errand.Expects (dials : DialParams → Prop) (session : Bool) (mode : Option ModemMode) :
    Errand → Prop
  | .openData params _ => dials params
  | .inspect _ => Held dials session mode
  | .openForLease _ => session = false ∧ mode = none
  | .switchForLease _ => mode = some .ppp ∧ Held dials session mode
  | .restore l => mode = some .command ∧ Held dials session l.leaves
  | .closeAfterLease l =>
    if l.openedByLease then session = false ∧ mode.isSome = true else Held dials session mode
  | .dial params _ => dials params ∧ Held dials session mode
  | .hangUp _ => session = true ∧ Held dials session mode
  | _ => True

/-- Away from the modem an errand takes nothing for granted. -/
theorem Errand.Expects.of_away {e : Errand} {session session' : Bool}
    {mode mode' : Option ModemMode} (h : e.Expects dials session mode)
    (he : e.isAtModem = false) : e.Expects dials session' mode' := by
  cases e <;> first | exact h | cases he

/-- Back in the mode it was taken over in, the modem is closed only if the lease opened it. -/
theorem Lease.expects_close {l : Lease} {session : Bool} (h : Held dials session l.leaves) :
    (Errand.closeAfterLease l).Expects dials session (some l.savedMode) := by
  cases ho : l.openedByLease with
  | true =>
    simp only [leaves, ho, if_true] at h
    simp [Errand.Expects, ho, h.no_session]
  | false => simpa [Errand.Expects, leaves, ho] using h

namespace Arbiter

/-- What an errand takes for granted holds when it is admitted. -/
theorem Entry.expects {a a' : Arbiter} {e e' : Errand} {mode : Option ModemMode}
    (h : a.Entry e a' e') (he : e.Expects dials a.dataSession mode)
    (hbal : a.busy = false → a.Balanced dials mode) :
    e'.Expects dials a'.dataSession mode := by
  cases h with
  | inspect hb hl => exact (hbal hb).unleased hl
  | restore hb hl => exact (hbal hb).leased hl
  | dial hb hl => exact ⟨he, (hbal hb).unleased hl⟩
  | hangUp hb hs hl => exact ⟨hs, (hbal hb).unleased hl⟩
  | _ => trivial

/-- Who is turned away leaves the books as they were, and a session that passes to the lease is
closed in both. -/
theorem Entry.balanced {a a' : Arbiter} {e e' : Errand} {mode : Option ModemMode}
    (h : a.Entry e a' e') (he : e'.isAtModem = false) (hbal : a.Balanced dials mode) :
    a'.Balanced dials mode := by
  cases h with
  | handOver _ hl => exact ⟨(hbal.leased hl).1, rfl⟩
  | refused _ _ | stale _ | noSession _ => exact hbal
  | _ => cases he

/-- An errand that has its call answered takes for granted what is so, and leaves balanced books
behind when it leaves the modem. -/
structure Settled (dials : DialParams → Prop) (mode : Option ModemMode) (r : Arbiter × Errand) :
    Prop where
  expects : r.2.Expects dials r.1.dataSession mode
  balanced : r.2.isAtModem = false → r.1.Balanced dials mode

theorem Settled.finish {a : Arbiter} {mode : Option ModemMode} {o : Outcome}
    (hl : a.lease = none) (h : Held dials a.dataSession mode) : Settled dials mode (a.finish o) :=
  ⟨trivial, fun _ => balanced_of_unleased hl h⟩

theorem Settled.grant {a : Arbiter} {openedByLease : Bool} {savedMode : ModemMode} {timeout : Nat}
    (h : Held dials a.dataSession (if openedByLease then none else some savedMode)) :
    Settled dials (some .command) (a.grant openedByLease savedMode timeout) :=
  ⟨trivial, fun _ => ⟨rfl, h⟩⟩

theorem Settled.stays {a : Arbiter} {e : Errand} {mode : Option ModemMode}
    (he : e.isAtModem = true) (h : e.Expects dials a.dataSession mode) :
    Settled dials mode (a, e) :=
  ⟨h, fun hm => by rw [he] at hm; cases hm⟩

theorem settled_of_call {a : Arbiter} {e : Errand} {c : ModemCall} {answer : ModemAnswer}
    {mode mode' : Option ModemMode} (hl : a.lease = none)
    (he : e.Expects dials a.dataSession mode) (hc : e.call? = some c)
    (hm : Obeys mode c answer mode') : Settled dials mode' (a.answer e answer) := by
  cases e with
  | inspect timeout =>
    cases hc
    cases hm with
    | @mode m =>
      cases m with
      | command => exact .grant he
      | ppp => exact .stays rfl ⟨rfl, he⟩
    | modeClosed => exact .stays rfl ⟨he.no_session, rfl⟩
    | @modeFailed _ e hne =>
      cases e with
      | notOpen => exact absurd rfl hne
      | _ => exact .finish hl he
  | openForLease timeout =>
    cases hc
    obtain ⟨hs, rfl⟩ := he
    cases hm with
    | dial => exact .grant (by rw [hs]; rfl)
    | @dialFailed _ _ _ e => cases e <;> exact .finish hl (by rw [hs]; rfl)
  | switchForLease timeout =>
    cases hc
    obtain ⟨rfl, he⟩ := he
    cases hm with
    | change => exact .grant he
    | changeFailed => exact .finish hl he
  | restore lease =>
    obtain ⟨rfl, he⟩ := he
    cases hp : lease.savedMode with
    | command => simp [Errand.call?, hp] at hc
    | ppp =>
      simp only [Errand.call?, hp, if_true, Option.some.injEq] at hc
      subst hc
      cases hm
      exact .stays rfl (by simpa [hp] using lease.expects_close he)
  | closeAfterLease lease =>
    cases ho : lease.openedByLease with
    | false => simp [Errand.call?, ho] at hc
    | true =>
      simp only [Errand.call?, ho, if_true, Option.some.injEq] at hc
      simp only [Errand.Expects, ho, if_true] at he
      subst hc
      obtain ⟨hs, hmode⟩ := he
      cases hm with
      | hangUp => exact .finish hl (by rw [hs]; rfl)
      | hangUpClosed => cases hmode
  | dial params timeout =>
    cases hc
    obtain ⟨hd, he⟩ := he
    cases hm with
    | dial => exact .finish hl ⟨params, hd, rfl⟩
    | @redial m m' _ _ _ hmm =>
      rw [he.session_of_some] at he
      obtain ⟨p, hp, hmp⟩ := he
      rcases hmm with rfl | rfl
      · exact .finish hl ⟨p, hp, hmp⟩
      · exact .finish hl ⟨params, hd, rfl⟩
    | dialFailed => exact .finish hl he
  | hangUp timeout =>
    cases hc
    obtain ⟨hs, he⟩ := he
    cases hm with
    | hangUp => exact .finish hl rfl
    | hangUpClosed => rw [he.no_session] at hs; cases hs
  | _ => cases hc

/-- An errand with nothing to do at the modem goes on as after its call. -/
theorem settled_of_skip {a : Arbiter} {e : Errand} {mode : Option ModemMode}
    (hl : a.lease = none) (he : e.Expects dials a.dataSession mode) (hat : e.isAtModem = true)
    (hc : e.call? = none) : Settled dials mode (a.answer e .done) := by
  cases e with
  | restore lease =>
    obtain ⟨rfl, he⟩ := he
    cases hp : lease.savedMode with
    | command => exact .stays rfl (by simpa [hp] using lease.expects_close he)
    | ppp => simp [Errand.call?, hp] at hc
  | closeAfterLease lease =>
    cases ho : lease.openedByLease with
    | true => simp [Errand.call?, ho] at hc
    | false => exact .finish hl (by simpa [Errand.Expects, ho] using he)
  | inspect | openForLease | switchForLease | dial | hangUp => cases hc
  | _ => cases hat

end Arbiter

namespace Traffic

/-! ## Whatever callers do -/

structure Kept (dials : DialParams → Prop) (w : Traffic) : Prop where
  orderly : w.Orderly
  expects : ∀ i e, w.errands i = some e → e.Expects dials w.arbiter.dataSession w.mode
  balanced : (∀ i, ¬ w.IsAt i) → w.arbiter.Balanced dials w.mode

namespace Kept

theorem start : Kept dials {} where
  orderly := .start
  expects := by intro i e he; cases he
  balanced _ := rfl

theorem balanced_of_idle {w : Traffic} (h : w.Kept dials) (hb : w.arbiter.busy = false) :
    w.arbiter.Balanced dials w.mode :=
  h.balanced (h.orderly.nobody hb)

/-- One caller has gone a step. -/
theorem of_turn {w w' : Traffic} {i : Nat} {e : Option Errand} (ho : w'.Orderly)
    (hw : w'.errands = Function.update w.errands i e)
    (hi : ∀ e', e = some e' → e'.Expects dials w'.arbiter.dataSession w'.mode)
    (hothers : ∀ j, j ≠ i → ∀ e', w.errands j = some e' →
      e'.Expects dials w'.arbiter.dataSession w'.mode)
    (hb : (∀ j, ¬ w'.IsAt j) → w'.arbiter.Balanced dials w'.mode) : w'.Kept dials where
  orderly := ho
  expects j e' hj := by
    rw [hw] at hj
    by_cases hji : j = i
    · subst hji
      exact hi e' (by simpa using hj)
    · exact hothers j hji e' (by simpa [hji] using hj)
  balanced := hb

/-- An errand that is not at the modem comes or goes. -/
theorem set {w : Traffic} (h : w.Kept dials) {i : Nat} {e : Option Errand}
    (haway : e.any Errand.isAtModem = false) (hi : ¬ w.IsAt i)
    (he : ∀ e', e = some e' → e'.Expects dials w.arbiter.dataSession w.mode) :
    (w.set i e).Kept dials := by
  refine .of_turn (h.orderly.set haway) rfl he (fun j _ => h.expects j) fun hn => ?_
  refine h.balanced fun j hj => ?_
  by_cases hji : j = i
  · exact hi (hji ▸ hj)
  · exact hn j (by simpa [isAt_set, hji] using hj)

theorem entered {w : Traffic} (h : w.Kept dials) {i : Nat} {e e' : Errand} {a : Arbiter}
    (hi : w.errands i = some e) (hentry : w.arbiter.Entry e a e') :
    (w.entered i e a e').Kept dials := by
  refine .of_turn (h.orderly.entered hentry) rfl ?_ (fun j hji e'' hj => ?_) fun hn => ?_
  · rintro e' ⟨⟩
    exact hentry.expects (h.expects _ e hi) h.balanced_of_idle
  · have he'' := h.expects j e'' hj
    cases hentry with
    | handOver _ hl =>
      have hb := h.orderly.idle_of_lease (by rw [hl]; rfl)
      refine he''.of_away (Bool.eq_false_iff.mpr fun hat => ?_)
      exact h.orderly.nobody hb j ⟨e'', hj, hat⟩
    | _ => exact he''
  · have haway : e'.isAtModem = false := by
      have := hn i
      rwa [isAt_entered, if_pos rfl, Bool.not_eq_true] at this
    refine hentry.balanced haway (h.balanced fun j hj => ?_)
    by_cases hji : j = i
    · subst hji
      obtain ⟨e₁, he₁, hat⟩ := hj
      rw [hi, Option.some.injEq] at he₁
      rw [← he₁, hentry.away] at hat
      cases hat
    · exact hn j (by simpa [isAt_entered, hji] using hj)

theorem answered {w : Traffic} (h : w.Kept dials) {i : Nat} {e : Errand}
    (hi : w.errands i = some e) (hat : e.isAtModem = true) {answer : ModemAnswer}
    {mode : Option ModemMode}
    (hr : w.arbiter.lease = none → e.Expects dials w.arbiter.dataSession w.mode →
      Arbiter.Settled dials mode (w.arbiter.answer e answer)) :
    (w.answered i e answer mode).Kept dials := by
  have hl : w.arbiter.lease = none := by
    cases hl : w.arbiter.lease with
    | none => rfl
    | some l =>
      exact absurd ⟨e, hi, hat⟩ (h.orderly.nobody (h.orderly.idle_of_lease (by rw [hl]; rfl)) i)
  have hr := hr hl (h.expects i e hi)
  refine .of_turn (h.orderly.answered hi hat answer mode) rfl ?_ (fun j hji e' hj => ?_)
    fun hn => ?_
  · rintro e' ⟨⟩
    exact hr.expects
  · refine (h.expects j e' hj).of_away (Bool.eq_false_iff.mpr fun hat' => hji ?_)
    exact h.orderly.alone j i ⟨e', hj, hat'⟩ ⟨e, hi, hat⟩
  · have := hn i
    rw [isAt_answered, if_pos rfl, Bool.not_eq_true] at this
    exact hr.balanced this

theorem step {w w' : Traffic} (h : w.Kept dials) (hs : Step Obeys dials w w') :
    w'.Kept dials := by
  cases hs with
  | @come i e hi hreq =>
    refine h.set ?_ ?_ ?_
    · cases e <;> first | rfl | exact False.elim hreq
    · rintro ⟨e', he', -⟩
      rw [hi] at he'
      cases he'
    · rintro e' ⟨⟩
      cases e <;> first | exact hreq | exact False.elim hreq
  | enter hi _ henter => exact h.entered hi (Arbiter.entry_of_enter henter)
  | call hi hc hm =>
    exact h.answered hi (Errand.isAtModem_of_call? hc) fun hl he =>
      Arbiter.settled_of_call hl he hc hm
  | skip hi hat hc => exact h.answered hi hat fun hl he => Arbiter.settled_of_skip hl he hat hc
  | @go i o hi =>
    refine h.set rfl ?_ (by rintro e' ⟨⟩)
    rintro ⟨e', he', hat⟩
    rw [hi] at he'
    cases he'
    cases hat

theorem reach {w : Traffic} (h : Relation.ReflTransGen (Step Obeys dials) {} w) :
    w.Kept dials := by
  induction h with
  | refl => exact start
  | tail _ hs ih => exact ih.step hs

end Kept

theorem restores_or_closes {w : Traffic}
    (h : Relation.ReflTransGen (Step Obeys fun p => p.ppp = true) {} w) :
    ((∀ i, ¬ w.IsAt i) →
      match w.arbiter.lease with
      | some l =>
        w.mode = some .command ∧ (l.openedByLease = true ↔ w.arbiter.dataSession = false)
      | none => w.mode = if w.arbiter.dataSession then some .ppp else none) ∧
    ∀ i e timeout, w.errands i = some e → e.call? = some (.hangUp timeout) → w.mode ≠ none := by
  have hk := Kept.reach h
  constructor
  · intro hn
    have hb := hk.balanced hn
    cases hl : w.arbiter.lease with
    | none => exact held_ppp (hb.unleased hl)
    | some l =>
      obtain ⟨hm, hheld⟩ := hb.leased hl
      refine ⟨hm, fun ho => ?_, fun hs => ?_⟩
      · rw [Lease.leaves, ho, if_pos rfl] at hheld
        exact hheld.no_session
      · rw [hs] at hheld
        cases ho : l.openedByLease with
        | true => rfl
        | false => simp [Held, Lease.leaves, ho] at hheld
  · intro i e timeout he hc
    have hx := hk.expects i e he
    cases e with
    | closeAfterLease l =>
      cases ho : l.openedByLease with
      | false => simp [Errand.call?, ho] at hc
      | true =>
        simp only [Errand.Expects, ho, if_true] at hx
        exact Option.isSome_iff_ne_none.mp hx.2
    | hangUp timeout =>
      obtain ⟨hs, hx⟩ := hx
      rw [hs] at hx
      exact Option.isSome_iff_ne_none.mp hx.isSome
    | restore l =>
      cases hp : l.savedMode <;> simp [Errand.call?, hp] at hc
    | _ => cases hc

/-- A session is dialled, the modem leased, and the session closed under the lease. -/
theorem restores_or_closes_after_hand_over :
    ∃ w : Traffic, Relation.ReflTransGen (Step Obeys fun p => p.ppp = true) {} w ∧
      w.arbiter.lease = some ⟨1, true, .command, 5⟩ ∧ w.mode = some .command ∧
      w.arbiter.dataSession = false := by
  let p : DialParams := { ppp := true }
  let w₁ : Traffic := set {} 0 (some (.openData p none))
  let w₂ := w₁.entered 0 (.openData p none) { busy := true } (.dial p none)
  let w₃ := w₂.answered 0 (.dial p none) (.address none) (some .ppp)
  let w₄ := w₃.set 1 (some (.acquire 5))
  let w₅ := w₄.entered 1 (.acquire 5) { busy := true, dataSession := true } (.inspect 5)
  let w₆ := w₅.answered 1 (.inspect 5) (.mode .ppp) (some .ppp)
  let w₇ := w₆.answered 1 (.switchForLease 5) .done (some .command)
  let w₈ := w₇.set 2 (some (.closeData (some 5)))
  let w₉ := w₈.entered 2 (.closeData (some 5))
    { lease := some ⟨1, true, .command, 5⟩, granted := 1 } (.ended .closed)
  have s₁ : Step Obeys (fun p => p.ppp = true) {} w₁ := .come rfl rfl
  have s₂ : Step Obeys (fun p => p.ppp = true) w₁ w₂ :=
    .enter (show w₁.errands 0 = _ by rfl) (by simp)
      (show w₁.arbiter.enter false _ = _ from rfl)
  have s₃ : Step Obeys (fun p => p.ppp = true) w₂ w₃ := .call rfl rfl .dial
  have s₄ : Step Obeys (fun p => p.ppp = true) w₃ w₄ := .come rfl trivial
  have s₅ : Step Obeys (fun p => p.ppp = true) w₄ w₅ :=
    .enter (show w₄.errands 1 = _ by rfl) (by simp)
      (show w₄.arbiter.enter false _ = _ from rfl)
  have s₆ : Step Obeys (fun p => p.ppp = true) w₅ w₆ := .call rfl rfl .mode
  have s₇ : Step Obeys (fun p => p.ppp = true) w₆ w₇ := .call rfl rfl .change
  have s₈ : Step Obeys (fun p => p.ppp = true) w₇ w₈ := .come rfl trivial
  have s₉ : Step Obeys (fun p => p.ppp = true) w₈ w₉ :=
    .enter (show w₈.errands 2 = _ by rfl) (fun _ => rfl)
      (show w₈.arbiter.enter true _ = _ from rfl)
  have h := ((((((((Relation.ReflTransGen.single s₁).tail s₂).tail s₃).tail s₄).tail s₅).tail
    s₆).tail s₇).tail s₈).tail s₉
  have hr := (restores_or_closes h).1 ((Orderly.reach h).nobody rfl)
  exact ⟨w₉, h, rfl, hr.1, hr.2.mp rfl⟩

end Traffic

end EdgeGateway
