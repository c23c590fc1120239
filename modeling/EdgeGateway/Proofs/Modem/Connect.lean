import EdgeGateway.Proofs.Modem.Recovery
import EdgeGateway.System.Step

/-!
# EdgeGateway.Proofs.Modem.Connect

What a connect of the cellular link that fails leaves behind (`Traffic.connect_undone_iff`).

* `Careful`            : a modem whose answers fit the calls, and that a call which fails leaves as
  it was.
* `Traffic.Connects`   : a caller comes for the data session while all others are away, and goes
  with an outcome.
* `Traffic.Connecting` : all that the modem and the arbiter can come to in between.

The data session counts as open once the modem has been dialled, with an address or without one.
The link takes an outcome without an address for a failure. It never closes that session: the next
connect is refused, by the modem.
-/

namespace EdgeGateway

/-- The answers a modem call is made for, and its failures. -/
def ModemCall.Fits : ModemCall → ModemAnswer → Prop
  | _, .failed _ | .mode, .mode _ | .dial _ _, .address _ | .change _ _, .done
  | .hangUp _, .done => True
  | _, _ => False

structure Careful (Modem : ModemBehaviour) : Prop where
  fits : ∀ {m m' c answer}, Modem m c answer m' → c.Fits answer
  unchanged : ∀ {m m' c e}, Modem m c (.failed e) m' → m' = m

theorem MayFail.careful : Careful MayFail where
  fits h := by cases h <;> trivial
  unchanged h := by cases h; rfl

theorem Succeeds.careful : Careful Succeeds where
  fits h := by cases h <;> trivial
  unchanged h := by cases h <;> rfl

namespace Traffic

variable {Modem : ModemBehaviour} {w w' w'' : Traffic} {i : Nat} {params : DialParams}
  {timeout : Option Nat} {o : Outcome}

def Connects (Modem : ModemBehaviour) (i : Nat) (params : DialParams) (timeout : Option Nat)
    (w : Traffic) (o : Outcome) (w' : Traffic) : Prop :=
  ∃ w₁, Relation.ReflTransGen (Turn Modem i) (w.set i (some (.openData params timeout))) w₁ ∧
    w₁.errands i = some (.ended o) ∧ w' = w₁.set i none

/-- The modem has been dialled for the data session. -/
def dialled (w : Traffic) (mode : Option ModemMode) : Traffic :=
  { w with arbiter := { w.arbiter with busy := false, dataSession := true }, mode }

/-- What there is between the caller's coming and its going. -/
inductive Connecting (w : Traffic) (i : Nat) (params : DialParams) (timeout : Option Nat) :
    Traffic → Prop where
  | waiting : Connecting w i params timeout (w.set i (some (.openData params timeout)))
  | dialling : w.arbiter.busy = false → Connecting w i params timeout
      { w.set i (some (.dial params timeout)) with arbiter := { w.arbiter with busy := true } }
  | refused (e : ArbiterError) :
      Connecting w i params timeout (w.set i (some (.ended (.refused e))))
  | opened (ip : Option IpAddress) (mode : Option ModemMode) :
      Connecting w i params timeout ((w.dialled mode).set i (some (.ended (.opened ip))))

theorem set_set (e e' : Option Errand) : (w.set i e).set i e' = w.set i e' := by
  simp [set]

/-- An errand that gives no lease back leaves the leases that are out alone. -/
theorem entered_eq {e e' : Errand} {a : Arbiter} (h : e.returns? = none) :
    w.entered i e a e' = { w.set i (some e') with arbiter := a } := by
  simp [entered, h, set]

/-- So does an answer that grants none. -/
theorem answered_eq {e e' : Errand} {a : Arbiter} {answer : ModemAnswer}
    {mode : Option ModemMode} (h : w.arbiter.answer e answer = (a, e'))
    (hn : e'.leased? = none) :
    w.answered i e answer mode = { w.set i (some e') with arbiter := a, mode } := by
  simp [answered, h, hn, set]

/-- A turn of a caller is one of its errand. -/
theorem Turn.of_errand {e : Errand} (he : w.errands i = some e) (ht : Turn Modem i w w') :
    (∃ expired a e', w.arbiter.enter expired e = some (a, e') ∧ w' = w.entered i e a e') ∨
    (∃ c answer mode, e.call? = some c ∧ Modem w.mode c answer mode ∧
      w' = w.answered i e answer mode) ∨
    (e.isAtModem = true ∧ e.call? = none ∧ w' = w.answered i e .done w.mode) := by
  cases ht with
  | enter he' _ henter =>
    cases he.symm.trans he'
    exact .inl ⟨_, _, _, henter, rfl⟩
  | call he' hc hcall =>
    cases he.symm.trans he'
    exact .inr (.inl ⟨_, _, _, hc, hcall, rfl⟩)
  | skip he' hat hc =>
    cases he.symm.trans he'
    exact .inr (.inr ⟨hat, hc, rfl⟩)

namespace Connecting

variable {a : Arbiter} {e' : Errand}

/-- The errand is admitted, or turned away with nothing changed. -/
theorem enter (hentry : w.arbiter.Entry (.openData params timeout) a e') :
    Connecting w i params timeout
      ((w.set i (some (.openData params timeout))).entered i (.openData params timeout) a e') := by
  rw [entered_eq rfl, set_set]
  cases hentry with
  | refused _ _ => exact .refused _
  | dial hb _ => exact .dialling hb

/-- The modem has been dialled: in vain, with nothing changed, or the session counts as open. -/
theorem dial (hm : Careful Modem) (hb : w.arbiter.busy = false) {answer : ModemAnswer}
    {mode : Option ModemMode} (hcall : Modem w.mode (.dial params timeout) answer mode) :
    Connecting w i params timeout (answered
      { w.set i (some (.dial params timeout)) with arbiter := { w.arbiter with busy := true } }
      i (.dial params timeout) answer mode) := by
  cases answer with
  | failed error =>
    cases hm.unchanged hcall
    have hidle : { w.arbiter with busy := false } = w.arbiter := by rw [← hb]
    have hrefused : Connecting w i params timeout _ := .refused (.modem error)
    rw [answered_eq rfl rfl]
    simpa [set, Arbiter.finish, hidle] using hrefused
  | address ip =>
    have hopened : Connecting w i params timeout _ := .opened ip mode
    rw [answered_eq rfl rfl]
    simpa [set, dialled, Arbiter.finish] using hopened
  | mode _ | done => exact (hm.fits hcall).elim

theorem turn (hm : Careful Modem) (h : Connecting w i params timeout w')
    (ht : Turn Modem i w' w'') : Connecting w i params timeout w'' := by
  cases h with
  | waiting =>
    rcases ht.of_errand (Function.update_self ..) with ⟨_, _, _, henter, rfl⟩ | ⟨_, _, _, hc, -⟩ |
      ⟨hat, -⟩
    · exact enter (Arbiter.entry_of_enter henter)
    · cases hc
    · cases hat
  | dialling hb =>
    rcases ht.of_errand (Function.update_self ..) with ⟨_, _, _, henter, -⟩ |
      ⟨_, _, _, hc, hcall, rfl⟩ | ⟨-, hc, -⟩
    · cases henter
    · cases hc
      exact dial hm hb hcall
    · cases hc
  | refused | opened =>
    rcases ht.of_errand (Function.update_self ..) with ⟨_, _, _, henter, -⟩ | ⟨_, _, _, hc, -⟩ |
      ⟨hat, -⟩
    · cases henter
    · cases hc
    · cases hat

theorem run (hm : Careful Modem)
    (hrun : Relation.ReflTransGen (Turn Modem i) (w.set i (some (.openData params timeout))) w') :
    Connecting w i params timeout w' := by
  induction hrun with
  | refl => exact .waiting
  | tail _ ht ih => exact ih.turn hm ht

end Connecting

/-- A connect ends in a refusal with nothing changed, or in a session. -/
theorem Connects.cases (hm : Careful Modem) (hi : w.errands i = none)
    (h : w.Connects Modem i params timeout o w') :
    (∃ e, o = .refused e ∧ w' = w) ∨ ∃ ip mode, o = .opened ip ∧ w' = w.dialled mode := by
  have hset : w.set i none = w := by rw [← hi, set_self]
  obtain ⟨w₁, hrun, hend, rfl⟩ := h
  cases Connecting.run hm hrun with
  | waiting | dialling _ => simp [set] at hend
  | refused e =>
    obtain rfl : Outcome.refused e = o := by simpa [set] using hend
    exact .inl ⟨e, rfl, by rw [set_set, hset]⟩
  | opened ip mode =>
    obtain rfl : Outcome.opened ip = o := by simpa [set] using hend
    refine .inr ⟨ip, mode, rfl, ?_⟩
    rw [set_set]
    exact congrArg (dialled · mode) hset

/-- A connect that has failed leaves everything as it was, unless the modem came up without an
address: then the session stays open. -/
theorem connect_undone_iff {e : ConnectError} (hm : Careful Modem) (hi : w.errands i = none)
    (hs : w.arbiter.dataSession = false) (hc : w.Connects Modem i params timeout o w')
    (hfail : System.linkReply (.outcome o) = .failed e) :
    ((w'.arbiter.dataSession = false ∧ w'.mode = w.mode) ↔ o ≠ .opened none) ∧
    (o ≠ .opened none → w' = w) := by
  rcases hc.cases hm hi with ⟨_, rfl, rfl⟩ | ⟨ip, mode, rfl, rfl⟩
  · simp [hs]
  · cases ip with
    | some ip => cases hfail
    | none => simp [dialled]

/-- The caller is admitted at once, and the modem answers its call. -/
theorem connects_of_dial {answer : ModemAnswer} {mode : Option ModemMode} {a : Arbiter}
    (hb : w.arbiter.busy = false) (hl : w.arbiter.lease = none)
    (hcall : Modem w.mode (.dial params timeout) answer mode)
    (hend : { w.arbiter with busy := true }.answer (.dial params timeout) answer = (a, .ended o))
    (hn : (Errand.ended o).leased? = none) :
    w.Connects Modem i params timeout o { w.set i none with arbiter := a, mode } := by
  let busy : Arbiter := { w.arbiter with busy := true }
  let w₁ := w.set i (some (.openData params timeout))
  let w₂ := { w.set i (some (.dial params timeout)) with arbiter := busy }
  have henter : w₁.arbiter.enter false (.openData params timeout) =
      some (busy, .dial params timeout) := by
    simp [w₁, busy, set, Arbiter.enter, hb, hl]
  have s₁ : Turn Modem i w₁ _ := .enter (Function.update_self ..) (Bool.false_ne_true.elim ·) henter
  have s₂ : Turn Modem i w₂ _ := .call (Function.update_self ..) rfl hcall
  rw [entered_eq rfl, set_set] at s₁
  rw [answered_eq hend hn] at s₂
  refine ⟨_, (Relation.ReflTransGen.single s₁).tail s₂, Function.update_self .., ?_⟩
  simp [w₂, set]

/-- The modem has timed out on the first of its calls. -/
theorem connect_undone_after_timeout : ∃ w', Connects MayFail 0 { ppp := true } (some 180000) {}
    (.refused (.modem .timeout)) w' ∧ w'.arbiter.dataSession = false ∧ w'.mode = none := by
  have hc : Connects MayFail 0 { ppp := true } (some 180000) {} (.refused (.modem .timeout)) _ :=
    connects_of_dial rfl rfl .failed rfl rfl
  have h := connect_undone_iff MayFail.careful rfl rfl hc rfl
  exact ⟨_, hc, h.1.mpr nofun⟩

/-- The modem has come up without an address, and the session cannot be had any more. -/
theorem connect_stranded_without_address : ∃ w',
    Connects Succeeds 0 { ppp := true } (some 180000) {} (.opened none) w' ∧
    System.linkReply (.outcome (.opened none)) =
      .failed (.failed "ppp came up without an address") ∧
    w'.arbiter.dataSession = true ∧ w'.mode = some .ppp ∧
    w'.Ends Succeeds 0 (.openData { ppp := true } (some 180000)) fun o _ =>
      System.linkReply (.outcome o) = .failed .modemInUse := by
  have hdial : Succeeds none (.dial { ppp := true } (some 180000)) (.address none) (some .ppp) :=
    .dial
  refine ⟨_, connects_of_dial rfl rfl hdial rfl rfl, rfl, rfl, rfl, ?_⟩
  refine (Idle.ends_openData ⟨rfl, rfl⟩ 0 _ _).mono ?_
  intro o _ ho
  have ho : o = .refused (.modem .inUse) := ho
  rw [ho]
  rfl

end Traffic

end EdgeGateway
