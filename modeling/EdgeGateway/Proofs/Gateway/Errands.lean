import EdgeGateway.Proofs.Bridge.Sound
import EdgeGateway.Proofs.Gateway.Crew
import EdgeGateway.Proofs.Link.Life
import EdgeGateway.Proofs.Modem.Traffic

/-!
# EdgeGateway.Proofs.Gateway.Errands

Who is on an errand, and why.

* `Link.On`, `Bridge.On` : how far the errand of a task can be at the point where the task is.
* `Crew.Sound`           : every errand is the cellular link's or the bridge's, and the lease that
  is out is the bridge's.
-/

namespace EdgeGateway

namespace Link

/-- What is known of a link from its request to the transport. -/
def Asks (l : Link) : Request → Prop
  | .connect => ∃ n, l.point = .connecting n
  | .disconnect => (∃ n, l.point = .discarding n) ∨ ∃ next, l.point = .disconnecting next
  | _ => True

theorem asks_request (l : Link) : l.Asks l.request := by
  cases ha : l.announcing with
  | some s =>
    simp only [request, ha]
    trivial
  | none =>
    cases hp : l.point with
    | connecting n =>
      simp only [request, ha, hp]
      exact ⟨n, hp⟩
    | discarding n =>
      simp only [request, ha, hp]
      exact .inl ⟨n, hp⟩
    | disconnecting next =>
      simp only [request, ha, hp]
      exact .inr ⟨next, hp⟩
    | idle left | leaving next | closing =>
      simp only [request, ha, hp]
      split <;> trivial
    | _ =>
      simp only [request, ha, hp]
      trivial

theorem asks_of_request {l : Link} {q : Request} (h : l.request = q) : l.Asks q :=
  h ▸ l.asks_request

/-- The errand of a link that takes the modem, `session` telling whether its session is open. -/
def On (l : Link) (session : Bool) : Option Errand → Prop
  | none => True
  | some (.openData _ _) | some (.dial _ _) => l.request = .connect
  | some (.closeData _) => l.request = .disconnect
  | some (.hangUp _) => l.request = .disconnect ∧ session = true
  | some (.ended _) => l.request = .connect ∨ l.request = .disconnect ∧ session = false
  | some _ => False

theorem Wants.on {l : Link} {e : Errand} (h : l.Wants e) (session : Bool) :
    l.On session (some e) := by
  rcases h with ⟨hq, params, timeout, rfl⟩ | ⟨hq, timeout, rfl⟩ <;> exact hq

end Link

namespace Bridge

def Acquires (b : Bridge) : Prop := ∃ port, b.point = .acquiring port

/-- The bridge gives its lease back. -/
def Returns (b : Bridge) : Prop := b.point = .returning ∨ ∃ next, b.point = .releasing next

/-- The errand of the bridge, `out` being the lease that is out. -/
def On (b : Bridge) (out : Option Nat) : Option Errand → Prop
  | none => out = b.lease
  | some (.acquire _) | some (.inspect _) | some (.openForLease _) | some (.switchForLease _) =>
    b.Acquires ∧ out = none
  | some (.release id) => b.Returns ∧ out = some id
  | some (.restore _) | some (.closeAfterLease _) => b.Returns ∧ out = none
  | some (.ended (.leased id)) => b.Acquires ∧ out = some id
  | some (.ended (.refused _)) => b.Acquires ∧ out = none
  | some (.ended .released) => b.Returns ∧ out = none
  | some _ => False

theorem acquires_of_request {b : Bridge} {timeout : Nat} (h : b.request = .acquire timeout) :
    b.Acquires := by
  cases hp : b.point with
  | acquiring port => exact ⟨port, hp⟩
  | returning | releasing next =>
    simp only [request, hp] at h
    split at h <;> cases h
  | _ => simp [request, hp] at h

theorem returns_of_request {b : Bridge} {id : Nat} (h : b.request = .release id) :
    b.Returns ∧ b.lease = some id := by
  cases hp : b.point with
  | returning =>
    simp only [request, hp] at h
    split at h <;> cases h
    exact ⟨.inl hp, ‹_›⟩
  | releasing next =>
    simp only [request, hp] at h
    split at h <;> cases h
    exact ⟨.inr ⟨next, hp⟩, ‹_›⟩
  | _ => simp [request, hp] at h

theorem Wants.on {b : Bridge} (hs : b.Sound) {e : Errand} {out : Option Nat}
    (h : b.Wants e) (ho : b.On out none) : b.On out (some e) := by
  rcases h with ⟨timeout, hq, rfl⟩ | ⟨id, hq, rfl⟩
  · obtain ⟨port, hp⟩ := acquires_of_request hq
    simp only [Sound, hp] at hs
    exact ⟨⟨port, hp⟩, ho.trans hs.2.1⟩
  · obtain ⟨hr, hl⟩ := returns_of_request hq
    exact ⟨hr, ho.trans hl⟩

end Bridge

/-! ## An errand goes on -/

namespace Arbiter

variable {a a' : Arbiter} {e e' : Errand} {expired : Bool}

def out (a : Arbiter) : Option Nat := a.lease.map Lease.id

theorem enter_of_link {l : Link} (h : l.On a.dataSession (some e))
    (he : a.enter expired e = some (a', e')) :
    l.On a'.dataSession (some e') ∧ a'.out = a.out ∧
      (a'.dataSession = true → a.dataSession = true) := by
  cases e with
  | openData params timeout =>
    simp only [enter] at he
    split at he
    · split at he <;> cases he
      exact ⟨.inl h, rfl, id⟩
    · split at he <;> cases he
      · exact ⟨.inl h, rfl, id⟩
      · exact ⟨h, rfl, id⟩
  | closeData timeout =>
    simp only [enter] at he
    split at he
    · cases he
    · split at he
      · rename_i hs
        cases he
        exact ⟨.inr ⟨h, by simpa using hs⟩, rfl, id⟩
      · rename_i hs
        split at he <;> cases he
        · rename_i lease hl
          exact ⟨.inr ⟨h, rfl⟩, by simp [out, hl], by simp⟩
        · exact ⟨⟨h, by simpa using hs⟩, rfl, id⟩
  | acquire timeout | release id => exact h.elim
  | _ => cases he

theorem answer_of_link {l : Link} (h : l.On a.dataSession (some e)) (hm : e.isAtModem = true)
    (x : ModemAnswer) :
    l.On (a.answer e x).1.dataSession (some (a.answer e x).2) ∧ (a.answer e x).1.out = a.out ∧
      ((a.answer e x).1.dataSession = true → a.dataSession = true ∨ l.request = .connect) := by
  cases e with
  | dial params timeout =>
    cases x with
    | failed error => exact ⟨.inl h, rfl, .inl⟩
    | address ip => exact ⟨.inl h, rfl, fun _ => .inr h⟩
    | _ => exact ⟨h, rfl, .inl⟩
  | hangUp timeout =>
    cases x with
    | failed error | done => exact ⟨.inr ⟨h.1, rfl⟩, rfl, nofun⟩
    | _ => exact ⟨h, rfl, .inl⟩
  | openData params timeout | closeData timeout | ended outcome => cases hm
  | _ => exact h.elim

theorem enter_of_bridge {b : Bridge} (h : b.On a.out (some e))
    (he : a.enter expired e = some (a', e')) :
    b.On a'.out (some e') ∧ a'.dataSession = a.dataSession := by
  cases e with
  | acquire timeout =>
    simp only [enter] at he
    split at he
    · split at he <;> cases he
      exact ⟨h, rfl⟩
    · split at he <;> cases he
      · exact ⟨h, rfl⟩
      · exact ⟨h, rfl⟩
  | release id =>
    obtain ⟨hr, ho⟩ := h
    simp only [enter] at he
    split at he
    · cases he
    · split at he
      · rename_i lease hl
        split at he <;> cases he
        · exact ⟨⟨hr, rfl⟩, rfl⟩
        · rename_i hne
          rw [out, hl] at ho
          cases ho
          exact absurd rfl hne
      · rename_i hl
        rw [out, hl] at ho
        cases ho
  | openData params timeout | closeData timeout => exact h.elim
  | _ => cases he

theorem answer_of_bridge {b : Bridge} (h : b.On a.out (some e)) (hm : e.isAtModem = true)
    (x : ModemAnswer) :
    b.On (a.answer e x).1.out (some (a.answer e x).2) ∧
      (a.answer e x).1.dataSession = a.dataSession := by
  cases e with
  | inspect timeout =>
    cases x with
    | failed error => cases error <;> exact ⟨h, rfl⟩
    | mode m =>
      cases m with
      | command => exact ⟨⟨h.1, rfl⟩, rfl⟩
      | ppp => exact ⟨h, rfl⟩
    | _ => exact ⟨h, rfl⟩
  | openForLease timeout =>
    cases x with
    | failed error => cases error <;> exact ⟨h, rfl⟩
    | address ip => exact ⟨⟨h.1, rfl⟩, rfl⟩
    | _ => exact ⟨h, rfl⟩
  | switchForLease timeout =>
    cases x with
    | done => exact ⟨⟨h.1, rfl⟩, rfl⟩
    | _ => exact ⟨h, rfl⟩
  | restore lease | closeAfterLease lease => exact ⟨h, rfl⟩
  | dial params timeout | hangUp timeout => exact h.elim
  | _ => cases hm

end Arbiter

/-! ## What holds of a crew -/

theorem Link.sound_own {l : Link} : l.own.Sound ↔ l.Sound := Iff.rfl

theorem Bridge.sound_own {b : Bridge} : b.own.Sound ↔ b.Sound := Iff.rfl

theorem Link.Advances.sound {l l' : Link} {q : Link.Request} {r : Link.Reply} (h : l.Sound)
    (ha : l.Advances q r l') : l'.Sound := by
  cases ha with
  | heard _ => exact h.heard
  | turned hq ht => exact ht.sound h hq
  | read _ hr => exact hr.sound h

theorem Bridge.Advances.keeps {b b' : Bridge} {q : Bridge.Request} {r : Bridge.Reply}
    (h : b.Sound) (ha : b.Advances q r b') : Bridge.Keeps b q r b' := by
  cases ha with
  | turned ht => exact Bridge.keeps_of_turn h ht
  | took hp ht => exact Bridge.keeps_of_takes h hp ht

theorem Bridge.toList_inj {o o' : Option Nat} (h : o.toList = o'.toList) : o = o' := by
  cases o <;> cases o' <;> simp_all

theorem Bridge.lease_of_keeps {b b' : Bridge} {q : Bridge.Request} {r : Bridge.Reply}
    (h : Bridge.Keeps b q r b') (ha : ∀ timeout, q ≠ .acquire timeout)
    (hr : ∀ id, q ≠ .release id) : b'.lease = b.lease := by
  refine toList_inj (h.held.trans ?_)
  cases q with
  | acquire timeout => exact absurd rfl (ha timeout)
  | release id => exact absurd rfl (hr id)
  | _ => cases r <;> rfl

/-- The errand of the bridge has ended, and with it goes its lease or comes. -/
theorem Bridge.On.ends {b b' : Bridge} {out : Option Nat} {o : Outcome} (hs : b.Sound)
    (h : b.On out (some (.ended o))) (ht : b.Turn b.request (System.bridgeReply (.outcome o)) b') :
    out = b'.lease := by
  have hheld := (Bridge.keeps_of_turn hs ht).held
  cases o with
  | leased id =>
    obtain ⟨⟨port, hp⟩, rfl⟩ := h
    simp only [Sound, hp] at hs
    refine (toList_inj (hheld.trans ?_)).symm
    simp [request, hp, System.bridgeReply, heldAfter, hs.2.1]
  | refused e =>
    obtain ⟨⟨port, hp⟩, rfl⟩ := h
    simp only [Sound, hp] at hs
    refine (toList_inj (hheld.trans ?_)).symm
    simp [request, hp, System.bridgeReply, heldAfter, hs.2.1]
  | released =>
    obtain ⟨hr, rfl⟩ := h
    have hq : b.request = b.giveBack := by
      rcases hr with hp | ⟨next, hp⟩
      · exact request_of_returning hp
      · exact request_of_releasing hp
    refine (toList_inj (hheld.trans ?_)).symm
    rw [hq]
    exact b.heldAfter_giveBack
  | opened ip | closed => exact h.elim

namespace Crew

def session (w : Crew) : Bool := w.arbiter.any (·.dataSession)

def out (w : Crew) : Option Nat := w.arbiter.bind Arbiter.out

structure Sound (w : Crew) : Prop where
  link : ∀ kind l, w.link kind = some l → l.Sound
  bridge : ∀ b, w.bridge = some b → b.Sound
  cellular : ∀ l, w.link .cellular = some l → l.On w.session (w.errand (.link .cellular))
  noCellular : w.link .cellular = none → w.errand (.link .cellular) = none
  lease : ∀ b, w.bridge = some b → b.On w.out (w.errand .bridge)
  noLease : w.bridge = none → w.errand .bridge = none ∧ w.out = none
  away : ∀ task, task ≠ .bridge → task ≠ .link .cellular → w.errand task = none
  idle : w.arbiter = none → ∀ task e, w.errand task = some e → e.isAtModem = false

variable {tidy : Bool} {w w' : Crew} {k k' : Outstanding}

theorem link_setLink (w : Crew) (kind kind' : LinkKind) (l : Link) :
    (w.setLink kind l).link kind' = if kind' = kind then some l.own else w.link kind' :=
  Function.update_apply _ _ _ _

theorem errand_setErrand (w : Crew) (task task' : Task) (e : Option Errand) :
    (w.setErrand task e).errand task' = if task' = task then e else w.errand task' :=
  Function.update_apply _ _ _ _

theorem New.out (h : w.New) : w.out = none := by
  cases ha : w.arbiter with
  | none => simp [Crew.out, ha]
  | some a => simp [Crew.out, ha, h.arbiter a ha, Arbiter.out]

theorem New.session (h : w.New) : w.session = false := by
  cases ha : w.arbiter with
  | none => simp [Crew.session, ha]
  | some a => simp [Crew.session, ha, h.arbiter a ha]

namespace Sound

/-- Someone with an errand is the bridge or the cellular link. -/
theorem cases (h : w.Sound) {task : Task} {e : Errand} (he : w.errand task = some e) :
    (task = .bridge ∧ ∃ b, w.bridge = some b ∧ b.On w.out (some e)) ∨
      (task = .link .cellular ∧ ∃ l, w.link .cellular = some l ∧ l.On w.session (some e)) := by
  by_cases hb : task = .bridge
  · subst hb
    cases hbridge : w.bridge with
    | none => rw [(h.noLease hbridge).1] at he; cases he
    | some b => exact .inl ⟨rfl, b, rfl, he ▸ h.lease b hbridge⟩
  · by_cases hl : task = .link .cellular
    · subst hl
      cases hlink : w.link .cellular with
      | none => rw [h.noCellular hlink] at he; cases he
      | some l => exact .inr ⟨rfl, l, rfl, he ▸ h.cellular l hlink⟩
    · rw [h.away task hb hl] at he
      cases he

theorem setLink (h : w.Sound) {kind : LinkKind} {l : Link} (hl : l.Sound)
    (hon : kind = .cellular → l.On w.session (w.errand (.link .cellular))) :
    (w.setLink kind l).Sound where
  link kind' l' hl' := by
    rw [link_setLink] at hl'
    split at hl'
    · cases hl'
      exact hl
    · exact h.link kind' l' hl'
  bridge := h.bridge
  cellular l' hl' := by
    rw [link_setLink] at hl'
    split at hl'
    · rename_i hk
      cases hl'
      exact hon hk.symm
    · exact h.cellular l' hl'
  noCellular hn := by
    rw [link_setLink] at hn
    split at hn
    · cases hn
    · exact h.noCellular hn
  lease := h.lease
  noLease := h.noLease
  away := h.away
  idle := h.idle

theorem setBridge (h : w.Sound) {b : Bridge} (hb : b.Sound) (hon : b.On w.out (w.errand .bridge)) :
    (w.setBridge b).Sound where
  link := h.link
  bridge := by rintro _ ⟨⟩; exact hb
  cellular := h.cellular
  noCellular := h.noCellular
  lease := by rintro _ ⟨⟩; exact hon
  noLease := nofun
  away := h.away
  idle := h.idle

/-- The errand of the cellular link goes on, and the arbiter with it. -/
theorem setErrand_link (h : w.Sound) {l : Link} (hl : w.link .cellular = some l)
    {e : Option Errand} {arbiter : Option Arbiter}
    (hon : l.On (arbiter.any (·.dataSession)) e) (hout : arbiter.bind Arbiter.out = w.out)
    (hidle : arbiter = none → ∀ e', e = some e' → e'.isAtModem = false)
    (hsome : arbiter = none → w.arbiter = none) :
    Sound { w.setErrand (.link .cellular) e with arbiter } where
  link := h.link
  bridge := h.bridge
  cellular l' hl' := by
    cases hl.symm.trans hl'
    rw [show Crew.errand { w.setErrand (.link .cellular) e with arbiter } (.link .cellular) = e from
      (errand_setErrand w (.link .cellular) _ e).trans (if_pos rfl)]
    exact hon
  noCellular hn := by cases hl.symm.trans hn
  lease b hb := by
    rw [show Crew.out { w.setErrand (.link .cellular) e with arbiter } = w.out from hout]
    exact h.lease b hb
  noLease hb := ⟨(h.noLease hb).1, hout.trans (h.noLease hb).2⟩
  away task hb hc := by
    simp only [errand_setErrand, if_neg hc]
    exact h.away task hb hc
  idle hn task e' he' := by
    simp only [errand_setErrand] at he'
    split at he'
    · exact hidle hn e' he'
    · exact h.idle (hsome hn) task e' he'

theorem setErrand_bridge (h : w.Sound) {b : Bridge} (hb : w.bridge = some b)
    {e : Option Errand} {arbiter : Option Arbiter} (hon : b.On (arbiter.bind Arbiter.out) e)
    (hsession : arbiter.any (·.dataSession) = w.session)
    (hidle : arbiter = none → ∀ e', e = some e' → e'.isAtModem = false)
    (hsome : arbiter = none → w.arbiter = none) :
    Sound { w.setErrand .bridge e with arbiter } where
  link := h.link
  bridge := h.bridge
  cellular l hl := by
    rw [show Crew.session { w.setErrand .bridge e with arbiter } = w.session from hsession]
    exact h.cellular l hl
  noCellular hn := h.noCellular hn
  lease b' hb' := by
    cases hb.symm.trans hb'
    rw [show Crew.errand { w.setErrand .bridge e with arbiter } .bridge = e from
      (errand_setErrand w .bridge _ e).trans (if_pos rfl)]
    exact hon
  noLease hn := by cases hb.symm.trans hn
  away task hb hc := by
    simp only [errand_setErrand, if_neg hb]
    exact h.away task hb hc
  idle hn task e' he' := by
    simp only [errand_setErrand] at he'
    split at he'
    · exact hidle hn e' he'
    · exact h.idle (hsome hn) task e' he'

theorem enter (h : w.Sound) {task : Task} {e e' : Errand} {a a' : Arbiter} {expired : Bool}
    (he : w.errand task = some e) (ha : w.arbiter = some a)
    (henter : a.enter expired e = some (a', e')) :
    ((w.setErrand task (some e')).setArbiter a').Sound := by
  rcases h.cases he with ⟨rfl, b, hb, hon⟩ | ⟨rfl, l, hl, hon⟩
  · simp only [Crew.out, ha, Option.bind_some] at hon
    obtain ⟨hon', hs⟩ := Arbiter.enter_of_bridge hon henter
    exact h.setErrand_bridge hb hon' (by simp [session, ha, hs]) nofun nofun
  · simp only [session, ha, Option.any_some] at hon
    obtain ⟨hon', ho, -⟩ := Arbiter.enter_of_link hon henter
    exact h.setErrand_link hl hon' (by simp [Crew.out, ha, ho]) nofun nofun

theorem answer (h : w.Sound) {task : Task} {e : Errand} {a : Arbiter}
    (he : w.errand task = some e) (ha : w.arbiter = some a) (hm : e.isAtModem = true)
    (x : ModemAnswer) :
    ((w.setErrand task (some (a.answer e x).2)).setArbiter (a.answer e x).1).Sound := by
  rcases h.cases he with ⟨rfl, b, hb, hon⟩ | ⟨rfl, l, hl, hon⟩
  · simp only [Crew.out, ha, Option.bind_some] at hon
    obtain ⟨hon', hs⟩ := Arbiter.answer_of_bridge hon hm x
    exact h.setErrand_bridge hb hon' (by simp [session, ha, hs]) nofun nofun
  · simp only [session, ha, Option.any_some] at hon
    obtain ⟨hon', ho, -⟩ := Arbiter.answer_of_link hon hm x
    exact h.setErrand_link hl hon' (by simp [Crew.out, ha, ho]) nofun nofun

/-- The data session begins with a dial of the cellular link's. -/
theorem session_of_enter (h : w.Sound) {task : Task} {e e' : Errand} {a a' : Arbiter}
    {expired : Bool} (he : w.errand task = some e) (ha : w.arbiter = some a)
    (henter : a.enter expired e = some (a', e')) (hs : a'.dataSession = true) :
    w.session = true := by
  rw [session, ha, Option.any_some]
  rcases h.cases he with ⟨-, b, -, hon⟩ | ⟨-, l, -, hon⟩
  · simp only [Crew.out, ha, Option.bind_some] at hon
    exact (Arbiter.enter_of_bridge hon henter).2 ▸ hs
  · simp only [session, ha, Option.any_some] at hon
    exact (Arbiter.enter_of_link hon henter).2.2 hs

theorem session_of_answer (h : w.Sound) {task : Task} {e : Errand} {a : Arbiter}
    (he : w.errand task = some e) (ha : w.arbiter = some a) (hm : e.isAtModem = true)
    (x : ModemAnswer) (hs : (a.answer e x).1.dataSession = true) :
    w.session = true ∨ ∃ l, w.link .cellular = some l ∧ l.request = .connect := by
  rw [session, ha, Option.any_some]
  rcases h.cases he with ⟨-, b, -, hon⟩ | ⟨-, l, hl, hon⟩
  · simp only [Crew.out, ha, Option.bind_some] at hon
    exact .inl ((Arbiter.answer_of_bridge hon hm x).2 ▸ hs)
  · simp only [session, ha, Option.any_some] at hon
    exact ((Arbiter.answer_of_link hon hm x).2.2 hs).imp_right fun hq => ⟨l, hl, hq⟩

theorem step (h : w.Sound) (hs : Step tidy (w, k) (w', k')) : w'.Sound := by
  cases hs with
  | link hl he ha ht _ =>
    refine h.setLink (ha.sound (Link.sound_own.mp (h.link _ _ hl))) fun hk => ?_
    subst hk
    rw [he]
    trivial
  | bridge hb he ha hacq hrel _ =>
    have hkeeps := ha.keeps (Bridge.sound_own.mp (h.bridge _ hb))
    refine h.setBridge hkeeps.sound ?_
    have hon := h.lease _ hb
    rw [he] at hon ⊢
    exact hon.trans (Bridge.lease_of_keeps hkeeps hacq hrel).symm
  | mqtt _ _ _ =>
    exact ⟨h.link, h.bridge, h.cellular, h.noCellular, h.lease, h.noLease, h.away, h.idle⟩
  | beginLink hl he hw =>
    refine h.setErrand_link hl (Link.Wants.on hw _) rfl (fun _ e' he' => ?_) id
    cases he'
    rcases hw with ⟨_, _, _, rfl⟩ | ⟨_, _, rfl⟩ <;> rfl
  | beginBridge hb he hw =>
    have hon := h.lease _ hb
    rw [he] at hon
    refine h.setErrand_bridge hb (hw.on (h.bridge _ hb) hon) rfl (fun _ e' he' => ?_) id
    cases he'
    rcases hw with ⟨_, _, rfl⟩ | ⟨_, _, rfl⟩ <;> rfl
  | enter he ha henter => exact h.enter he ha henter
  | called he ha hc _ => exact h.answer he ha (Errand.isAtModem_of_call? hc) _
  | skip he ha hm _ => exact h.answer he ha hm .done
  | endLink hl he ha =>
    have hnone : (w.setErrand (.link .cellular) none).Sound :=
      h.setErrand_link hl trivial rfl (fun _ _ => nofun) id
    refine hnone.setLink (ha.sound (Link.sound_own.mp (h.link _ _ hl))) fun _ => ?_
    rw [errand_setErrand, if_pos rfl]
    trivial
  | @endBridge _ _ b b' o hb he ht =>
    have hon := h.lease _ hb
    rw [he] at hon
    have hb' := Bridge.sound_own.mp (h.bridge _ hb)
    have hsound := (Bridge.keeps_of_turn hb' ht).sound
    exact {
      link := h.link
      bridge := by rintro _ ⟨⟩; exact hsound
      cellular := h.cellular
      noCellular := h.noCellular
      lease := by
        rintro _ ⟨⟩
        rw [show ((w.setErrand .bridge none).setBridge b').errand .bridge = none from
          (errand_setErrand w .bridge _ _).trans (if_pos rfl)]
        exact show w.out = b'.lease from Bridge.On.ends hb' hon ht
      noLease := nofun
      away := fun task hb hc => by
        rw [show ((w.setErrand .bridge none).setBridge b').errand task = w.errand task from
          (errand_setErrand w .bridge _ _).trans (if_neg hb)]
        exact h.away task hb hc
      idle := fun hn task e he' => by
        rw [show ((w.setErrand .bridge none).setBridge b').errand task = _ from
          errand_setErrand w .bridge _ _] at he'
        split at he'
        · cases he'
        · exact h.idle hn task e he' }
  | lose wifi modem => exact h

theorem of_reflGen (h : w.Sound) (hs : Relation.ReflGen (Step tidy) (w, k) (w', k')) :
    w'.Sound := by
  cases hs with
  | refl => exact h
  | single hs => exact h.step hs

theorem of_new (h : w.New) : w.Sound where
  link kind l hl := by
    obtain ⟨policy, rfl⟩ := h.link kind l hl
    exact ⟨nofun, rfl⟩
  bridge b hb := by
    obtain ⟨settings, leases, rfl⟩ := h.bridge b hb
    exact ⟨nofun, fun hh => absurd rfl hh.2⟩
  cellular l hl := by
    rw [h.errand]
    trivial
  noCellular _ := h.errand _
  lease b hb := by
    obtain ⟨settings, leases, rfl⟩ := h.bridge b hb
    rw [h.errand]
    exact h.out
  noLease _ := ⟨h.errand _, h.out⟩
  away task _ _ := h.errand task
  idle _ task e he := by
    rw [h.errand] at he
    cases he

end Sound

end Crew

end EdgeGateway
