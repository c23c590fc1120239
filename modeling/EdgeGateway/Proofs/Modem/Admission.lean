import EdgeGateway.Proofs.Modem.Connect

/-!
# EdgeGateway.Proofs.Modem.Admission

A caller that asks for the modem in vain leaves everything as it was
(`Traffic.refusal_changes_nothing`).

* `Errand.seeks`, `Errand.makesReady` : a caller asks for a lease or for the data session, and is
  let at the modem to make it ready for that.
* `Traffic.Seeking`  : all that the arbiter and the modem can come to in between.
* `Traffic.Attended` : the arbiter is busy only while somebody is at the modem.
-/

namespace EdgeGateway

namespace Errand

def seeks : Errand → Bool
  | .acquire _ | .openData _ _ => true
  | _ => false

def makesReady : Errand → Bool
  | .inspect _ | .openForLease _ | .switchForLease _ | .dial _ _ => true
  | _ => false

theorem away_of_seeks {e : Errand} (h : e.seeks = true) : e.isAtModem = false := by
  cases e <;> first | rfl | cases h

theorem calls_of_makesReady {e : Errand} (h : e.makesReady = true) :
    e.isAtModem = true ∧ e.call? ≠ none := by
  cases e with
  | inspect | openForLease | switchForLease | dial => exact ⟨rfl, nofun⟩
  | _ => cases h

end Errand

/-- The modem is asked for its mode, and keeps it. -/
def Legible (Modem : ModemBehaviour) : Prop :=
  ∀ {m m' answer}, Modem m .mode answer m' → m' = m

theorem MayFail.legible : Legible MayFail := by
  intro m m' answer h
  cases h <;> rfl

namespace Arbiter

variable {Modem : ModemBehaviour} {a a' : Arbiter} {e e' : Errand}

theorem Entry.seeks (h : a.Entry e a' e') (he : e.seeks = true) :
    (a' = a ∧ ∃ error, e' = .ended (.refused error)) ∨
    (a.busy = false ∧ a' = { a with busy := true } ∧ e'.makesReady = true) := by
  cases h with
  | refused _ _ => exact .inl ⟨rfl, _, rfl⟩
  | inspect hb _ | dial hb _ => exact .inr ⟨hb, rfl, rfl⟩
  | _ => cases he

/-- What the answer to a call brings an errand that makes the modem ready. -/
inductive Readied (a : Arbiter) (mode : Option ModemMode) :
    Arbiter × Errand → Option ModemMode → Prop where
  | further {e : Errand} : e.makesReady = true → Readied a mode (a, e) mode
  | refused (error : ArbiterError) : Readied a mode (a.finish (.refused error)) mode
  | admitted {a' : Arbiter} {o : Outcome} {mode' : Option ModemMode} :
      (∀ error, o ≠ .refused error) → Readied a mode (a', .ended o) mode'

theorem readied_of_call (hm : Careful Modem) (hq : Legible Modem) {c : ModemCall}
    {answer : ModemAnswer} {mode mode' : Option ModemMode} (he : e.makesReady = true)
    (hc : e.call? = some c) (hcall : Modem mode c answer mode') :
    a.Readied mode (a.answer e answer) mode' := by
  have hfits := hm.fits hcall
  cases e with
  | inspect timeout =>
    cases hc
    cases hq hcall
    cases answer with
    | failed e => cases e <;> first | exact .further rfl | exact .refused _
    | mode m => cases m <;> first | exact .further rfl | exact .admitted nofun
    | _ => cases hfits
  | openForLease timeout =>
    cases hc
    cases answer with
    | failed e => cases hm.unchanged hcall; cases e <;> exact .refused _
    | address ip => exact .admitted nofun
    | _ => cases hfits
  | switchForLease timeout =>
    cases hc
    cases answer with
    | failed e => cases hm.unchanged hcall; exact .refused _
    | done => exact .admitted nofun
    | _ => cases hfits
  | dial params timeout =>
    cases hc
    cases answer with
    | failed e => cases hm.unchanged hcall; exact .refused _
    | address ip => exact .admitted nofun
    | _ => cases hfits
  | _ => cases he

end Arbiter

namespace Traffic

variable {Modem : ModemBehaviour} {dials : DialParams → Prop} {w w' w'' : Traffic} {i : Nat}
  {e : Errand}

/-- What there is between the caller's asking and its being refused or admitted. -/
inductive Seeking (w : Traffic) (i : Nat) : Traffic → Prop where
  | waiting {e : Errand} : e.seeks = true → Seeking w i (w.set i (some e))
  | atModem {e : Errand} : w.arbiter.busy = false → e.makesReady = true →
      Seeking w i { w.set i (some e) with arbiter := { w.arbiter with busy := true } }
  | refused (error : ArbiterError) : Seeking w i (w.set i (some (.ended (.refused error))))
  | admitted {w' : Traffic} {o : Outcome} : w'.errands i = some (.ended o) →
      (∀ error, o ≠ .refused error) → Seeking w i w'

theorem not_turn_of_ended {o : Outcome} (he : w.errands i = some (.ended o)) :
    ¬ Turn Modem i w w' := by
  intro ht
  rcases ht.of_errand he with ⟨_, _, _, henter, -⟩ | ⟨_, _, _, hc, -⟩ | ⟨hat, -⟩
  · cases henter
  · cases hc
  · cases hat

namespace Seeking

theorem enter {a : Arbiter} {e' : Errand} (he : e.seeks = true)
    (hentry : w.arbiter.Entry e a e') : Seeking w i ((w.set i (some e)).entered i e a e') := by
  have hret : e.returns? = none := by cases e <;> first | rfl | cases he
  rw [entered_eq hret, set_set]
  rcases hentry.seeks he with ⟨rfl, error, rfl⟩ | ⟨hb, rfl, hready⟩
  · exact .refused error
  · exact .atModem hb hready

theorem call (hm : Careful Modem) (hq : Legible Modem) (hb : w.arbiter.busy = false)
    (he : e.makesReady = true) {c : ModemCall} {answer : ModemAnswer} {mode : Option ModemMode}
    (hc : e.call? = some c) (hcall : Modem w.mode c answer mode) :
    Seeking w i (answered
      { w.set i (some e) with arbiter := { w.arbiter with busy := true } } i e answer mode) := by
  have hr := Arbiter.readied_of_call (a := { w.arbiter with busy := true }) hm hq he hc hcall
  generalize hans : Arbiter.answer { w.arbiter with busy := true } e answer = r at hr
  cases hr with
  | @further e' hready =>
    have hn : e'.leased? = none := by cases e' <;> first | rfl | cases hready
    have hstill : Seeking w i _ := .atModem hb hready
    rw [answered_eq hans hn]
    simpa [set] using hstill
  | refused error =>
    have hidle : { w.arbiter with busy := false } = w.arbiter := by rw [← hb]
    have hrefused : Seeking w i _ := .refused error
    rw [answered_eq hans rfl]
    simpa [set, Arbiter.finish, hidle] using hrefused
  | admitted ho => exact .admitted (by simp [answered, set, hans]) ho

theorem turn (hm : Careful Modem) (hq : Legible Modem) (h : Seeking w i w')
    (ht : Turn Modem i w' w'') : Seeking w i w'' := by
  cases h with
  | @waiting e he =>
    have haway := Errand.away_of_seeks he
    rcases ht.of_errand (Function.update_self ..) with ⟨_, _, _, henter, rfl⟩ | ⟨_, _, _, hc, -⟩ |
      ⟨hat, -⟩
    · exact enter he (Arbiter.entry_of_enter henter)
    · cases haway.symm.trans (Errand.isAtModem_of_call? hc)
    · cases haway.symm.trans hat
  | @atModem e hb he =>
    obtain ⟨hat, hcall⟩ := Errand.calls_of_makesReady he
    rcases ht.of_errand (Function.update_self ..) with ⟨_, _, _, henter, -⟩ |
      ⟨_, _, _, hc, hm', rfl⟩ | ⟨-, hc, -⟩
    · cases (Arbiter.entry_of_enter henter).away.symm.trans hat
    · exact call hm hq hb he hc hm'
    · exact absurd hc hcall
  | refused error => exact absurd ht (not_turn_of_ended (Function.update_self ..))
  | admitted hend _ => exact absurd ht (not_turn_of_ended hend)

theorem run (hm : Careful Modem) (hq : Legible Modem) (he : e.seeks = true)
    (hrun : Relation.ReflTransGen (Turn Modem i) (w.set i (some e)) w') : Seeking w i w' := by
  induction hrun with
  | refl => exact .waiting he
  | tail _ ht ih => exact ih.turn hm hq ht

end Seeking

/-! ## Nobody leaves the arbiter busy -/

/-- While the arbiter is busy somebody is at the modem. -/
def Attended (w : Traffic) : Prop := w.arbiter.busy = true → ∃ i, w.IsAt i

namespace Attended

/-- An errand comes or goes, away from the modem. -/
theorem set (h : w.Attended) {e : Option Errand} (hi : ¬ w.IsAt i) : (w.set i e).Attended := by
  intro hb
  obtain ⟨j, hj⟩ := h hb
  have hji : j ≠ i := fun hji => hi (hji ▸ hj)
  exact ⟨j, by simpa [isAt_set, hji] using hj⟩

theorem entered (h : w.Attended) {a : Arbiter} {e' : Errand} (he : w.errands i = some e)
    (hentry : w.arbiter.Entry e a e') : (w.entered i e a e').Attended := by
  have haway : ¬ w.IsAt i := by
    rintro ⟨e₁, he₁, hat⟩
    cases he.symm.trans he₁
    cases hentry.away.symm.trans hat
  have hset : (w.set i (some e')).Attended := h.set haway
  cases hentry with
  | inspect _ _ | restore _ _ | dial _ _ | hangUp _ _ _ =>
    exact fun _ => ⟨i, isAt_entered.mpr (by rw [if_pos rfl]; rfl)⟩
  | refused _ _ | stale _ | noSession _ | handOver _ _ => exact hset

theorem answered (hat : e.isAtModem = true) (answer : ModemAnswer) (mode : Option ModemMode) :
    (w.answered i e answer mode).Attended := by
  have hp := Arbiter.progress_of_answer (a := w.arbiter) hat answer
  intro hb
  refine ⟨i, isAt_answered.mpr ?_⟩
  rw [if_pos rfl]
  simp only [Traffic.answered] at hb
  generalize (w.arbiter.answer e answer).1 = a at hp hb
  generalize (w.arbiter.answer e answer).2 = e' at hp
  cases hp with
  | stays hat' => exact hat'
  | granted _ _ _ | leaves _ _ => cases hb

theorem step (h : w.Attended) (hs : Step Modem dials w w') : w'.Attended := by
  cases hs with
  | come hi _ => exact h.set fun ⟨e, he, _⟩ => by cases hi.symm.trans he
  | enter he _ henter => exact h.entered he (Arbiter.entry_of_enter henter)
  | call _ hc _ => exact answered (Errand.isAtModem_of_call? hc) _ _
  | skip _ hat _ => exact answered hat _ _
  | go hi => exact h.set fun ⟨e, he, hat⟩ => by cases hi.symm.trans he; cases hat

theorem reach (h : Relation.ReflTransGen (Step Modem dials) {} w) : w.Attended := by
  induction h with
  | refl => exact nofun
  | tail _ hs ih => exact ih.step hs

end Attended

/-- A caller that asks for a lease or for the data session, and is refused for whatever reason,
has changed neither the arbiter nor the modem. If the arbiter is still busy, then with another
caller. -/
theorem refusal_changes_nothing {error : ArbiterError} (hm : Careful Modem) (hq : Legible Modem)
    (hw : Relation.ReflTransGen (Step Modem dials) {} w) (hi : w.errands i = none)
    (he : e.seeks = true) (hrun : Relation.ReflTransGen (Turn Modem i) (w.set i (some e)) w')
    (hend : w'.errands i = some (.ended (.refused error))) :
    w'.arbiter = w.arbiter ∧ w'.mode = w.mode ∧ w'.set i none = w ∧
      (w'.arbiter.busy = true → ∃ j, j ≠ i ∧ w'.IsAt j) := by
  cases Seeking.run hm hq he hrun with
  | @waiting e he =>
    obtain rfl : e = .ended (.refused error) := by simpa [set] using hend
    cases he
  | @atModem e _ he =>
    obtain rfl : e = .ended (.refused error) := by simpa [set] using hend
    cases he
  | admitted hend' ho =>
    cases hend.symm.trans hend'
    exact absurd rfl (ho error)
  | refused error' =>
    refine ⟨rfl, rfl, by rw [set_set, ← hi, set_self], fun hb => ?_⟩
    obtain ⟨j, hj⟩ := Attended.reach hw hb
    have hji : j ≠ i := by
      rintro rfl
      obtain ⟨_, hj, -⟩ := hj
      cases hi.symm.trans hj
    exact ⟨j, hji, by simpa [isAt_set, hji] using hj⟩

/-- The data session is open, opened by one who has gone. -/
def inSession : Traffic := { arbiter := { dataSession := true }, mode := some .ppp }

theorem reach_inSession :
    Relation.ReflTransGen (Step MayFail fun _ => True) {} inSession := by
  let w₁ : Traffic := .set {} 0 (some (.openData { ppp := true } none))
  let w₂ := w₁.entered 0 (.openData { ppp := true } none) { busy := true }
    (.dial { ppp := true } none)
  let w₃ := w₂.answered 0 (.dial { ppp := true } none) (.address none) (some .ppp)
  have s₁ : Step MayFail (fun _ => True) {} w₁ := .come rfl trivial
  have s₂ : Step MayFail (fun _ => True) w₁ w₂ :=
    .enter (show w₁.errands 0 = _ by rfl) (by simp)
      (show w₁.arbiter.enter false _ = _ from rfl)
  have s₃ : Step MayFail (fun _ => True) w₂ w₃ := .call rfl rfl .dial
  have s₄ : Step MayFail (fun _ => True) w₃ (w₃.set 0 none) := .go rfl
  have hgone : w₃.set 0 none = inSession := by
    simp [w₃, w₂, w₁, inSession, set, answered, entered, Arbiter.answer, Arbiter.finish,
      Errand.leased?, Function.update_idem]
  rw [hgone] at s₄
  exact (((Relation.ReflTransGen.single s₁).tail s₂).tail s₃).tail s₄

/-- The modem does not go to command mode for a lease, and the data session stays as it was. -/
theorem session_outlives_failed_switch :
    ∃ w', Relation.ReflTransGen (Turn MayFail 1) (inSession.set 1 (some (.acquire 5))) w' ∧
      w'.errands 1 = some (.ended (.refused (.modeSwitchFailed .command))) ∧
      w'.arbiter = inSession.arbiter ∧ w'.mode = some .ppp := by
  let w₁ := inSession.set 1 (some (.acquire 5))
  let w₂ := w₁.entered 1 (.acquire 5) { busy := true, dataSession := true } (.inspect 5)
  let w₃ := w₂.answered 1 (.inspect 5) (.mode .ppp) (some .ppp)
  let w₄ := w₃.answered 1 (.switchForLease 5) (.failed .timeout) (some .ppp)
  have t₁ : Turn MayFail 1 w₁ w₂ :=
    .enter (show w₁.errands 1 = _ by rfl) (by simp)
      (show w₁.arbiter.enter false _ = _ from rfl)
  have t₂ : Turn MayFail 1 w₂ w₃ := .call rfl rfl .mode
  have t₃ : Turn MayFail 1 w₃ w₄ := .call rfl rfl .failed
  have hrun : Relation.ReflTransGen (Turn MayFail 1) w₁ w₄ :=
    ((Relation.ReflTransGen.single t₁).tail t₂).tail t₃
  have h := refusal_changes_nothing MayFail.careful MayFail.legible reach_inSession rfl rfl hrun rfl
  exact ⟨w₄, hrun, rfl, h.1, h.2.1⟩

end Traffic

end EdgeGateway
