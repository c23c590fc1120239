import EdgeGateway.Proofs.Threads

/-!
# EdgeGateway.Proofs.Modem.Thread

The errands of the gateway's threads are traffic at its arbiter (`System.Moves.shows`).

* `Errand.Yields` : what an errand can end with.
* `System.Shows`  : the arbiter and the errands of a gateway are those of some traffic, and only
  errands take threads to the modem.
* `System.Moves`  : one thread of the gateway moves, or a modem call is answered.
-/

namespace EdgeGateway

namespace Errand

def Yields : Errand → Outcome → Prop
  | .acquire _, o | .inspect _, o | .openForLease _, o | .switchForLease _, o =>
    (∃ id, o = .leased id) ∨ ∃ e, o = .refused e
  | .release _, o | .restore _, o | .closeAfterLease _, o => o = .released
  | .openData .., o | .dial .., o => (∃ ip, o = .opened ip) ∨ ∃ e, o = .refused e
  | .closeData _, o | .hangUp _, o => o = .closed ∨ ∃ e, o = .refused e
  | .ended o', o => o = o'

theorem yields_of_enter {a a' : Arbiter} {e e' : Errand} {expired : Bool} {o : Outcome}
    (h : a.enter expired e = some (a', e')) (hy : e'.Yields o) : e.Yields o := by
  have hne : ∀ o, e ≠ .ended o := by rintro o rfl; cases h
  cases Arbiter.entry_of_enter h with
  | refused hm hr =>
    cases hy
    cases e with
    | acquire timeout | openData params timeout | closeData timeout => exact .inr ⟨_, rfl⟩
    | release id => cases hr
    | ended o => exact absurd rfl (hne o)
    | _ => cases hm
  | noSession _ | handOver _ _ => exact .inl hy
  | _ => exact hy

theorem yields_of_answer (a : Arbiter) {e : Errand} {x : ModemAnswer} {o : Outcome}
    (hy : (a.answer e x).2.Yields o) : e.Yields o := by
  cases e with
  | inspect timeout | openForLease timeout =>
    cases x with
    | failed error => cases error <;> simp_all [Arbiter.answer, Arbiter.finish, Yields]
    | mode m => cases m <;> simp_all [Arbiter.answer, Arbiter.grant, Yields]
    | _ => simp_all [Arbiter.answer, Arbiter.grant, Yields]
  | _ => cases x <;> simp_all [Arbiter.answer, Arbiter.grant, Arbiter.finish, Yields]

end Errand

/-- The thread is in no call, or in the modem call of its errand. -/
def Thread.InTurn (t : Thread) : Prop :=
  t.stage = .free ∨ ∃ e c, t.errand = some e ∧ e.call? = some c ∧ t.stage = .inside (.modem c)

theorem Thread.InTurn.stage {t : Thread} (h : t.InTurn) {e : Errand} (he : t.errand = some e) :
    t.stage = .free ∨ ∃ c, t.stage = .inside (.modem c) ∧ e.call? = some c := by
  rcases h with h | ⟨e', c, he', hc, hs⟩
  · exact .inl h
  · cases he.symm.trans he'
    exact .inr ⟨c, hs, hc⟩

theorem Thread.InTurn.isModem_eq_false {t : Thread} (h : t.InTurn) (he : t.errand = none) :
    t.stage.isModem = false := by
  rcases h with h | ⟨e, c, he', -, -⟩
  · rw [h]
    rfl
  · rw [he] at he'
    cases he'

namespace System

variable {s s' : System} {t : Thread} {w : Traffic}

/-- The ways a thread moves with its errand. -/
inductive ErrandMove (s : System) (t : Thread) (a : Arbiter) (e : Errand) : Move → Prop where
  | blocked : ErrandMove s t a e .blocked
  | ended {o : Outcome} : e = .ended o → ErrandMove s t a e
      (.step ((s.setThread { t with errand := none }).complete { t with errand := none }
        (.outcome o)))
  | call {c : ModemCall} : e.call? = some c →
      ErrandMove s t a e (.start (.modem c) (s.enterCall t (.modem c)))
  | skip : e.isAtModem = true → e.call? = none → ErrandMove s t a e
      (.step ({ s with arbiter := some (a.answer e .done).1 }.setThread
        { t with errand := some (a.answer e .done).2 }))
  | enter {a' : Arbiter} {e' : Errand} : a.enter (e.patience = some 0) e = some (a', e') →
      ErrandMove s t a e
        (.step ({ s with arbiter := some a' }.setThread { t with errand := some e' }))

theorem errandMove_cases {a : Arbiter} (ha : s.arbiter = some a) (e : Errand) :
    ErrandMove s t a e (s.errandMove t e) := by
  unfold errandMove
  rw [ha]
  dsimp only
  split
  · exact .ended rfl
  · split
    · split
      · exact .blocked
      · split
        · exact .call ‹_›
        · exact .skip ‹_› ‹_›
    · split
      · exact .enter ‹_›
      · exact .blocked

structure Shows (s : System) (w : Traffic) : Prop where
  arbiter : s.arbiter = some w.arbiter
  errands : ∀ i, (s.engagement? i).map Prod.fst = w.errands i
  stages : ∀ i e stage, s.engagement? i = some (e, stage) →
    stage = .free ∨ ∃ c, stage = .inside (.modem c) ∧ e.call? = some c
  orderly : s.Orderly

namespace Shows

theorem undisturbed (h : s.Shows w) (hu : s.Undisturbed s') : s'.Shows w where
  arbiter := hu.arbiter.trans h.arbiter
  errands := hu.engagement ▸ h.errands
  stages := hu.engagement ▸ h.stages
  orderly := hu.orderly h.orderly

theorem errand (h : s.Shows w) (ht : s.thread? t.id = some t) : w.errands t.id = t.errand := by
  rw [← h.errands, engagement?_of_thread? ht, Thread.engagement]
  cases t.errand <;> rfl

theorem stage (h : s.Shows w) (ht : s.thread? t.id = some t) {e : Errand}
    (he : t.errand = some e) :
    t.stage = .free ∨ ∃ c, t.stage = .inside (.modem c) ∧ e.call? = some c := by
  refine h.stages t.id e t.stage ?_
  rw [engagement?_of_thread? ht, Thread.engagement, he]
  rfl

/-- One thread changes with its errand, and the arbiter with it. -/
theorem set (h : s.Shows w) (ht : s.thread? t.id = some t) {u : Thread} (hu : u.id = t.id)
    (hs : u.InTurn) (w' : Traffic)
    (hw : w'.errands = Function.update w.errands t.id u.errand) :
    ({ s with arbiter := some w'.arbiter }.setThread u).Shows w' := by
  have heng : ({ s with arbiter := some w'.arbiter }.setThread u).engagement? =
      Function.update s.engagement? t.id u.engagement :=
    engagement?_setThread (s := { s with arbiter := some w'.arbiter }) ht hu
  refine ⟨rfl, fun i => ?_, fun i e stage hi => ?_, ?_⟩
  · rw [heng, hw]
    by_cases hi : i = t.id
    · subst hi
      rw [Function.update_self, Function.update_self, Thread.engagement]
      cases u.errand <;> rfl
    · rw [Function.update_of_ne hi, Function.update_of_ne hi, h.errands]
  · rw [heng] at hi
    by_cases hid : i = t.id
    · subst hid
      rw [Function.update_self, Thread.engagement, Option.map_eq_some_iff] at hi
      obtain ⟨e', he', heq⟩ := hi
      cases heq
      exact hs.stage he'
    · rw [Function.update_of_ne hid] at hi
      exact h.stages i e stage hi
  · exact Orderly.setThread (s := { s with arbiter := some w'.arbiter })
      (h.orderly.of_eq rfl rfl) hs.isModem_eq_false

/-- The same, where the arbiter does not change. -/
theorem set_errand (h : s.Shows w) (ht : s.thread? t.id = some t) {u : Thread}
    (hu : u.id = t.id) (hs : u.InTurn) : (s.setThread u).Shows (w.set t.id u.errand) := by
  have := h.set ht hu hs (w.set t.id u.errand) rfl
  rwa [show (w.set t.id u.errand).arbiter = w.arbiter from rfl, ← h.arbiter] at this

end Shows

/-- A move of one thread, the modem being left in a mode. -/
inductive Moves (Modem : ModemBehaviour) (s : System) (mode : Option ModemMode) :
    System → Option ModemMode → Prop where
  | step {t : Thread} {s' : System} : s.thread? t.id = some t → s.next t = .step s' →
      Moves Modem s mode s' mode
  | start {t : Thread} {c : Call} {s' : System} : s.thread? t.id = some t →
      s.next t = .start c s' → Moves Modem s mode s' mode
  | modem {t : Thread} {c : ModemCall} {a : Answer} {mode' : Option ModemMode} :
      s.thread? t.id = some t → s.next t = .inside (.modem c) → Modem mode c a.toModem mode' →
      Moves Modem s mode (s.answer t (.modem c) a) mode'
  | answer {t : Thread} {c : Call} {a : Answer} : s.thread? t.id = some t →
      s.next t = .inside c → (∀ m, c ≠ .modem m) → Moves Modem s mode (s.answer t c a) mode

theorem stage_of_inside {c : Call} (h : s.next t = .inside c) : t.stage = .inside c := by
  have notTry {c' : Call} : s.tryCall t c' ≠ .inside c := by
    unfold tryCall
    split <;> exact nofun
  unfold next at h
  split at h
  · cases h
    assumption
  · exact absurd h notTry
  · split at h
    · unfold errandMove at h
      (repeat' split at h) <;> cases h
    · split at h
      · cases h
      · exact absurd h notTry
      · cases h
      · unfold pushMove at h
        (repeat' split at h) <;> cases h
      · cases h

/-- A thread with an errand is inside a modem call or moves with its errand. -/
theorem next_of_errand (h : s.Shows w) (ht : s.thread? t.id = some t) {e : Errand}
    (he : t.errand = some e) :
    (t.stage = .free ∧ s.next t = s.errandMove t e) ∨
      ∃ c, e.call? = some c ∧ s.next t = .inside (.modem c) := by
  rcases h.stage ht he with hs | ⟨c, hs, hc⟩
  · exact .inl ⟨hs, by simp only [next, hs, he]⟩
  · exact .inr ⟨c, hc, by simp only [next, hs]⟩

/-- The answer to a modem call. -/
theorem answer_of_errand {a : Arbiter} {e : Errand} (ha : s.arbiter = some a)
    (he : t.errand = some e) (c : Call) (x : Answer) : s.answer t c x =
      { s with arbiter := some (a.answer e x.toModem).1 }.setThread
        { t with stage := .free, errand := some (a.answer e x.toModem).2 } := by
  obtain ⟨i, actor, role, stage, told, errand⟩ := t
  cases he
  simp only [answer, setThread_arbiter, ha]
  exact setThread_setThread { s with arbiter := some (a.answer e x.toModem).1 }
    ⟨i, actor, role, .free, told, some e⟩ rfl

/-- A thread's move is a step of the traffic, or has nothing to do with it. -/
theorem Moves.shows {Modem : ModemBehaviour} {mode' : Option ModemMode} (h : s.Shows w)
    (hm : Moves Modem s w.mode s' mode') :
    ∃ w', Relation.ReflGen (Traffic.Step Modem (·.ppp = true)) w w' ∧ s'.Shows w' ∧
      w'.mode = mode' := by
  cases hm with
  | @step t _ ht hn =>
    cases he : t.errand with
    | none =>
      rcases undisturbed_next ht he hn with hu | ⟨e, hfree, hi, rfl⟩
      · exact ⟨w, .refl, h.undisturbed hu, rfl⟩
      · have hw : w.errands t.id = none := by rw [h.errand ht, he]
        have hreq := s.isProper_intent t
        rw [hi] at hreq
        exact ⟨_, .single (.come hw hreq),
          h.set_errand (u := { t with errand := some e }) ht rfl (.inl hfree), rfl⟩
    | some e =>
      have hw : w.errands t.id = some e := by rw [h.errand ht, he]
      rcases next_of_errand h ht he with ⟨hs, hmove⟩ | ⟨c, -, hin⟩
      · rw [hmove] at hn
        have hcases := errandMove_cases (t := t) h.arbiter e
        rw [hn] at hcases
        cases hcases with
        | ended ho =>
          subst ho
          have hgone := h.set_errand (u := { t with errand := none }) ht rfl (.inl hs)
          have ht' := thread?_setThread_self (u := { t with errand := none }) ht rfl
          exact ⟨_, .single (.go hw), hgone.undisturbed (undisturbed_complete ht' rfl _), rfl⟩
        | skip hat hc =>
          have := h.set (u := { t with errand := some (w.arbiter.answer e .done).2 }) ht rfl
            (.inl hs) (w.answered t.id e .done w.mode) rfl
          exact ⟨_, .single (.skip hw hat hc), this, rfl⟩
        | @enter a e' henter =>
          have hpatient : decide (e.patience = some 0) = true → e.patience.isSome = true := by
            intro hp
            rw [of_decide_eq_true hp]
            rfl
          have := h.set (u := { t with errand := some e' }) ht rfl
            (.inl hs) (w.entered t.id e a e') rfl
          exact ⟨_, .single (.enter hw hpatient henter), this, rfl⟩
      · rw [hin] at hn
        cases hn
  | @start t c _ ht hn =>
    refine ⟨w, .refl, ?_, rfl⟩
    cases he : t.errand with
    | none => exact h.undisturbed (undisturbed_start ht he (h.orderly.calm _ t ht he) hn)
    | some e =>
      rcases next_of_errand h ht he with ⟨hs, hmove⟩ | ⟨c, -, hin⟩
      · rw [hmove] at hn
        have hcases := errandMove_cases (t := t) h.arbiter e
        rw [hn] at hcases
        cases hcases with
        | @call c hc =>
          have := h.set_errand (u := { t with stage := .inside (.modem c) }) ht rfl
            (.inr ⟨e, c, he, hc, rfl⟩)
          have hw : w.set t.id t.errand = w := by rw [← h.errand ht, Traffic.set_self]
          exact hw ▸ this
      · rw [hin] at hn
        cases hn
  | @modem t c a _ ht hn ha =>
    have hs := stage_of_inside hn
    cases he : t.errand with
    | none =>
      have := h.orderly.calm _ t ht he
      rw [hs] at this
      cases this
    | some e =>
      have hw : w.errands t.id = some e := by rw [h.errand ht, he]
      rcases next_of_errand h ht he with ⟨hfree, -⟩ | ⟨c', hc, hin⟩
      · rw [hfree] at hs
        cases hs
      · cases hin.symm.trans hn
        rw [answer_of_errand h.arbiter he]
        have := h.set
          (u := { t with stage := .free, errand := some (w.arbiter.answer e a.toModem).2 }) ht rfl
          (.inl rfl) (w.answered t.id e a.toModem mode') rfl
        exact ⟨_, .single (.call hw hc ha), this, rfl⟩
  | @answer t c a ht hn hc =>
    have hs := stage_of_inside hn
    cases he : t.errand with
    | none => exact ⟨w, .refl, h.undisturbed (undisturbed_answer ht he c a), rfl⟩
    | some e =>
      rcases next_of_errand h ht he with ⟨hfree, -⟩ | ⟨c', -, hin⟩
      · rw [hfree] at hs
        cases hs
      · cases hin.symm.trans hn
        exact absurd rfl (hc c')

end System

end EdgeGateway
