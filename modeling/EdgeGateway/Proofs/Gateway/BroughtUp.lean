import EdgeGateway.Proofs.Gateway.Errands

/-!
# EdgeGateway.Proofs.Gateway.BroughtUp

The modem and the cellular link that brings it up.

* `Link.isReady` : the transport is up.
* `Crew.Up`      : the modem is up exactly while the cellular link has it so.
-/

namespace EdgeGateway

namespace Link

theorem usesReady_own {l : Link} : l.own.UsesReady ↔ l.UsesReady := Iff.rfl

/-- The transport is up. -/
def isReady (l : Link) : Bool := l.ready && l.point ≠ .finished

theorem Advances.usesReady {l l' : Link} {q : Request} {r : Reply} (h : l.UsesReady)
    (ha : l.Advances q r l') : l'.UsesReady := by
  cases ha with
  | heard _ => exact h
  | turned _ ht => exact ht.usesReady h
  | read _ hr => exact hr.usesReady h

theorem Advances.ready_mono {l l' : Link} {q : Request} {r : Reply} (ha : l.Advances q r l')
    (h : l.ready = true) : l'.ready = true := by
  cases ha with
  | heard _ => exact h
  | turned _ ht => simp [ht.ready_eq, h]
  | read _ hr => exact hr.unfinished.1.trans h

theorem Turn.isReady {l l' : Link} {q : Request} {r : Reply} (ht : Turn l q r l')
    {k : Outstanding} (hk : k.modemUp = l.isReady) :
    (k.afterLink .cellular q r).modemUp = l'.isReady := by
  have hready := ht.ready_eq
  obtain ⟨hp, htear⟩ := ht.tearDown_iff
  have hk : k.modemUp = l.ready := by simpa [Link.isReady, hp] using hk
  by_cases htq : q = .tearDown
  · subst htq
    simp [Link.isReady, (htear.mp rfl).1, Outstanding.afterLink]
  by_cases hup : q = .bringUp ∧ r = .done
  · obtain ⟨rfl, rfl⟩ := hup
    have hr' : l'.ready = true := by simp [hready]
    have hp' : l'.point ≠ .finished := fun hp' => htq (htear.mpr ⟨hp', hr'⟩)
    simp [Link.isReady, hr', hp', Outstanding.afterLink]
  · have hsame : k.afterLink .cellular q r = k := by
      unfold Outstanding.afterLink
      split <;> simp_all
    have hr' : l'.ready = l.ready := by
      rw [hready]
      by_cases hq : q = .bringUp <;> simp_all
    have hp' : l'.ready = true → l'.point ≠ .finished := fun hr hp' => htq (htear.mpr ⟨hp', hr⟩)
    rw [hsame, hk, Link.isReady]
    cases hr : l.ready <;> simp_all

/-- What the link has asked the modem for tells whether the modem is up. -/
theorem Advances.isReady {l l' : Link} {q : Request} {r : Reply} (ha : l.Advances q r l')
    {k : Outstanding} (hk : k.modemUp = l.isReady) :
    (k.afterLink .cellular q r).modemUp = l'.isReady := by
  cases ha with
  | heard _ => exact hk
  | turned _ ht => exact ht.isReady hk
  | read _ hr =>
    obtain ⟨hready, hp, hp'⟩ := hr.unfinished
    simpa [Link.isReady, hready, hp, hp', Outstanding.afterLink] using hk

end Link

namespace Crew

structure Up (w : Crew) (k : Outstanding) : Prop where
  modem : k.modemUp = (w.link .cellular).any Link.isReady
  uses : ∀ l, w.link .cellular = some l → l.UsesReady
  session : w.session = true → ∃ l, w.link .cellular = some l ∧ l.ready = true

namespace Up

variable {tidy : Bool} {w w' : Crew} {k k' : Outstanding}

/-- Nothing has changed about the cellular link. -/
theorem of_same (h : w.Up k) (hl : w'.link .cellular = w.link .cellular)
    (hk : k'.modemUp = k.modemUp)
    (hs : w'.session = true → ∃ l, w.link .cellular = some l ∧ l.ready = true) : w'.Up k' where
  modem := by rw [hk, hl, h.modem]
  uses := by rw [hl]; exact h.uses
  session := by rw [hl]; exact hs

theorem setLink (h : w.Up k) {l l' : Link} {q : Link.Request} {r : Link.Reply}
    (hl : w.link .cellular = some l.own) (ha : l.Advances q r l') :
    (w.setLink .cellular l').Up (k.afterLink .cellular q r) := by
  have hset : (w.setLink .cellular l').link .cellular = some l'.own := by
    rw [link_setLink, if_pos rfl]
  have hmodem : k.modemUp = l.isReady := by
    rw [h.modem, hl]
    rfl
  refine ⟨?_, fun l'' hl'' => ?_, fun hs => ⟨_, hset, ?_⟩⟩
  · rw [ha.isReady hmodem, hset]
    rfl
  · cases hset.symm.trans hl''
    have huses : l.own.UsesReady := h.uses _ hl
    exact show l'.UsesReady from ha.usesReady (Link.usesReady_own.mp huses)
  · obtain ⟨l₀, hl₀, hr⟩ := h.session hs
    cases hl.symm.trans hl₀
    exact ha.ready_mono hr

theorem called (h : w.Up k) (hs : w.Sound) {task : Task} {e : Errand} {a : Arbiter}
    (he : w.errand task = some e) (ha : w.arbiter = some a) (hm : e.isAtModem = true)
    (x : ModemAnswer) (hk : k'.modemUp = k.modemUp) :
    ((w.setErrand task (some (a.answer e x).2)).setArbiter (a.answer e x).1).Up k' := by
  refine h.of_same rfl hk fun hsession => ?_
  rcases hs.session_of_answer he ha hm x hsession with hsession | ⟨l, hl, hq⟩
  · exact h.session hsession
  · obtain ⟨n, hp⟩ := Link.asks_of_request hq
    have huses := h.uses l hl
    simp only [Link.UsesReady, hp] at huses
    exact ⟨l, hl, huses⟩

theorem step (h : w.Up k) (hs : w.Sound) (hstep : Step tidy (w, k) (w', k')) : w'.Up k' := by
  cases hstep with
  | @link _ _ kind _ _ q r hl _ ha _ _ =>
    by_cases hk : kind = .cellular
    · subst hk
      exact h.setLink hl ha
    · refine h.of_same ?_ ?_ h.session
      · rw [link_setLink, if_neg (Ne.symm hk)]
      · unfold Outstanding.afterLink
        split <;> first | rfl | exact absurd rfl hk
  | bridge _ _ _ _ _ _ =>
    refine h.of_same rfl ?_ h.session
    unfold Outstanding.afterBridge
    (repeat' split) <;> rfl
  | mqtt _ _ _ =>
    refine h.of_same rfl ?_ h.session
    unfold Outstanding.afterMqtt
    split <;> rfl
  | beginLink _ _ _ | beginBridge _ _ _ | endBridge _ _ _ | lose _ _ =>
    exact h.of_same rfl rfl h.session
  | enter he ha henter =>
    exact h.of_same rfl rfl fun hsession => h.session (hs.session_of_enter he ha henter
      hsession)
  | called he ha hc _ =>
    refine h.called hs he ha (Errand.isAtModem_of_call? hc) _ ?_
    unfold Outstanding.afterModem
    split <;> rfl
  | skip he ha hm _ => exact h.called hs he ha hm .done rfl
  | @endLink _ _ l l' o hl he ha =>
    have hsame : (w.setErrand (.link .cellular) none).Up k := h.of_same rfl rfl h.session
    have hon := hs.cellular _ hl
    rw [he] at hon
    have hk : k.afterLink .cellular l.request (System.linkReply (.outcome o)) = k := by
      rcases (show l.On w.session (some (.ended o)) from hon) with hq | ⟨hq, -⟩ <;> rw [hq] <;> rfl
    exact hk ▸ hsame.setLink hl ha

theorem of_new (h : w.New) : w.Up {} where
  modem := by
    cases hl : w.link .cellular with
    | none => rfl
    | some l =>
      obtain ⟨policy, rfl⟩ := h.link _ l hl
      rfl
  uses l hl := by
    obtain ⟨policy, rfl⟩ := h.link _ l hl
    trivial
  session hs := by
    rw [h.session] at hs
    cases hs

theorem of_run (h : w.New) (hr : Relation.ReflTransGen (Step tidy) (w, {}) (w', k')) :
    w'.Sound ∧ w'.Up k' := by
  suffices ∀ x, Relation.ReflTransGen (Step tidy) (w, {}) x → x.1.Sound ∧ x.1.Up x.2 from
    this _ hr
  intro x hr
  induction hr with
  | refl => exact ⟨.of_new h, of_new h⟩
  | tail _ hstep ih => exact ⟨ih.1.step hstep, ih.2.step ih.1 hstep⟩

end Up

/-- The modem is called while it is up, or by the bridge. -/
theorem Up.of_call {w : Crew} {k : Outstanding} (h : w.Up k) (hs : w.Sound) {task : Task}
    {e : Errand} {c : ModemCall} (he : w.errand task = some e) (hc : e.call? = some c) :
    k.modemUp = true ∨ (task = .bridge ∧ w.bridge.isSome = true ∧ w.arbiter.isSome = true) := by
  rcases hs.cases he with ⟨rfl, b, hb, -⟩ | ⟨rfl, l, hl, hon⟩
  · refine .inr ⟨rfl, by rw [hb]; rfl, ?_⟩
    cases ha : w.arbiter with
    | none =>
      have := hs.idle ha _ _ he
      rw [Errand.isAtModem_of_call? hc] at this
      cases this
    | some a => rfl
  · left
    rw [h.modem, hl, Option.any_some, Link.isReady]
    have huses := h.uses l hl
    cases e with
    | dial params timeout =>
      obtain ⟨n, hp⟩ := Link.asks_of_request hon
      simp only [Link.UsesReady, hp] at huses
      simp [huses, hp]
    | hangUp timeout =>
      obtain ⟨l', hl', hr⟩ := h.session hon.2
      cases hl.symm.trans hl'
      rcases Link.asks_of_request hon.1 with ⟨n, hp⟩ | ⟨next, hp⟩ <;> simp [hr, hp]
    | acquire timeout | release id | openData params timeout | closeData timeout | ended o =>
      cases hc
    | _ => exact hon.elim

end Crew

end EdgeGateway
