import EdgeGateway.Proofs.Call
import EdgeGateway.Proofs.Link.Life
import EdgeGateway.Proofs.Modem.Thread

/-!
# EdgeGateway.Proofs.Link.Thread

A link's thread in the gateway lives the link's life: whatever it does on its own, and whatever
it gets for a call or an errand, is a move of `Life`, and it is blocked only in a wait that
nothing has come for.
-/

namespace EdgeGateway

/-- The link moves on, whatever it has asked before. -/
def Link.Onward (l l' : Link) : Prop := ∀ log, ∃ w, Life.Move ⟨l, log⟩ w ∧ w.link = l'

namespace Link

theorem Onward.reply {l : Link} {r : Reply} (h : Fits l.request r) : l.Onward (l.resume r) :=
  fun _ => ⟨_, .reply h, rfl⟩

theorem Onward.read {l : Link} {limit : Option Nat} (hq : l.request = .wait limit)
    (hb : l.pending.bits ≠ 0) :
    l.Onward ({ l with pending := {} }.resume (.commands l.pending)) :=
  fun _ => ⟨_, .read hq hb, rfl⟩

theorem Onward.expire {l : Link} {ms : Nat} (hq : l.request = .wait (some ms))
    (hb : l.pending.bits = 0) : l.Onward (l.resume (.commands .empty)) :=
  fun _ => ⟨_, .expire hq hb, rfl⟩

theorem resume_of_tearDown {l : Link} (h : l.request = .tearDown) (r : Reply) :
    l.resume r = l.resume .done := by
  cases ha : l.announcing with
  | some s => simp [request, ha] at h
  | none =>
    cases hp : l.point with
    | closing => simp [resume, move, ha, hp]
    | idle left | leaving next => simp only [request, ha, hp] at h; split at h <;> cases h
    | _ => simp [request, ha, hp] at h

theorem resume_kind (l : Link) (r : Reply) : (l.resume r).kind = l.kind := by
  have hset (l : Link) (s : Status) : (l.setStatus s).kind = l.kind := by
    unfold setStatus; split <;> rfl
  have hact (cs : Commands) : (l.act cs).kind = l.kind := by
    unfold act; split <;> (try split) <;> rfl
  unfold resume
  split
  · rfl
  · unfold move
    split <;> (repeat' split) <;> simp [giveUp, goto, hset, hact]

end Link

namespace System

@[simp] theorem link?_setLink (s : System) {l : Link} (h : l.kind ≠ .none) :
    (s.setLink l).link? l.kind = some l := by
  unfold setLink link?
  cases hk : l.kind with
  | none => exact absurd hk h
  | _ => rfl

@[simp] theorem link?_setThread (s : System) (t : Thread) (kind : LinkKind) :
    (s.setThread t).link? kind = s.link? kind := by
  cases kind <;> rfl

/-- The thread runs the link. -/
structure RunsLink (s : System) (t : Thread) (l : Link) : Prop where
  role : t.role = .link l.kind
  link : s.link? l.kind = some l

namespace RunsLink

variable {s s' : System} {t : Thread} {l : Link}

theorem kind_ne_none (h : s.RunsLink t l) : l.kind ≠ .none := by
  intro hk
  have := h.link
  rw [hk] at this
  cases this

theorem link_setLink (h : s.RunsLink t l) {k : Link} (hk : k.kind = l.kind)
    (r : Link.Reply) : (s.setLink (k.resume r)).link? l.kind = some (k.resume r) := by
  rw [← hk, ← k.resume_kind r]
  exact link?_setLink s (by rw [k.resume_kind, hk]; exact h.kind_ne_none)

/-- What the thread does on its own. -/
theorem onward_of_proceed (h : s.RunsLink t l) (hi : s.linkIntent t l = .proceed s')
    (hq : l.request ≠ .finished) : ∃ l', s'.link? l.kind = some l' ∧ l.Onward l' := by
  cases hr : l.request with
  | proceed =>
    simp only [linkIntent, hr] at hi
    cases hi
    exact ⟨_, h.link_setLink rfl _, .reply (hr ▸ .proceed)⟩
  | announce status =>
    simp only [linkIntent, hr] at hi
    cases eq_of_announce_proceed hi
    refine ⟨l.resume .done, ?_, .reply (hr ▸ .announce)⟩
    rw [link?_setThread, h.link_setLink rfl]
  | askConnected =>
    simp only [linkIntent, hr] at hi
    split at hi <;> cases hi
    exact ⟨_, h.link_setLink rfl _, .reply (hr ▸ .askConnected)⟩
  | wait limit =>
    simp only [linkIntent, hr] at hi
    split at hi
    · rename_i hb
      cases hi
      exact ⟨_, h.link_setLink (k := { l with pending := .empty }) rfl _, .read hr hb⟩
    · rename_i hb
      split at hi <;> cases hi
      rename_i hl
      exact ⟨_, h.link_setLink rfl _, .expire (hl ▸ hr) (by simpa using hb)⟩
  | connect | disconnect =>
    simp only [linkIntent, hr] at hi
    split at hi <;> cases hi
  | finished => exact absurd hr hq
  | bringUp | askServers | tearDown => simp [linkIntent, hr] at hi

theorem link_complete (h : s.RunsLink t l) (ha : l.announcing = none) (c : Completion) :
    (s.complete t c).link? l.kind = some (l.resume (linkReply c)) := by
  simp only [complete, h.role, h.link, ha, Option.isSome_none, Bool.false_eq_true, if_false]
  exact h.link_setLink rfl _

/-- The answer to a call that is not a listener's. A transport is torn down whatever it answers. -/
theorem fits_of_answer {c : Call} (hi : s.linkIntent t l = .call c) (ha : l.announcing = none)
    {a : Answer} (hb : c.Brings a) :
    l.request = .tearDown ∨ Link.Fits l.request (linkReply (.answer a)) := by
  cases hr : l.request with
  | announce status =>
    cases hp : l.point <;> simp only [Link.request, ha, hp] at hr <;>
      first | cases hr | (split at hr <;> cases hr)
  | bringUp =>
    simp only [linkIntent, hr, Intent.call.injEq] at hi
    rcases hb with hs | ⟨-, f, rfl⟩
    · have : a = .done := by subst hi; split at hs <;> exact hs
      subst this
      exact .inr .bringUp
    · exact .inr .bringUpFailed
  | connect =>
    simp only [linkIntent, hr] at hi
    rcases hb with hs | ⟨-, f, rfl⟩
    · split at hi <;> cases hi <;> obtain ⟨ip, rfl⟩ := hs <;> exact .inr .connect
    · exact .inr .connectFailed
  | disconnect =>
    simp only [linkIntent, hr] at hi
    rcases hb with hs | ⟨-, f, rfl⟩
    · split at hi <;> cases hi <;> cases hs <;> exact .inr .disconnect
    · exact .inr .disconnectFailed
  | askConnected =>
    simp only [linkIntent, hr] at hi
    split at hi <;> cases hi
    rcases hb with ⟨b, rfl⟩ | ⟨hf, -⟩
    · exact .inr .askConnected
    · cases hf
  | askServers =>
    simp only [linkIntent, hr, Intent.call.injEq] at hi
    subst hi
    rcases hb with ⟨dns, rfl⟩ | ⟨hf, -⟩
    · exact .inr .askServers
    · cases hf
  | tearDown => exact .inl rfl
  | wait limit =>
    simp only [linkIntent, hr] at hi
    split at hi
    · cases hi
    · split at hi <;> cases hi
  | proceed | finished => simp [linkIntent, hr] at hi

/-- What the thread does with the answer to a call that is not a listener's. -/
theorem onward_of_answer (h : s.RunsLink t l) {c : Call} (hi : s.linkIntent t l = .call c)
    (ha : l.announcing = none) {a : Answer} (hb : c.Brings a) :
    ∃ l', (s.complete t (.answer a)).link? l.kind = some l' ∧ l.Onward l' := by
  refine ⟨_, h.link_complete ha _, ?_⟩
  rcases fits_of_answer hi ha hb with hr | hf
  · rw [Link.resume_of_tearDown hr]
    exact .reply (hr ▸ .tearDown)
  · exact .reply hf

/-- The end of an errand. -/
theorem fits_of_outcome {e : Errand} (hi : s.linkIntent t l = .errand e) {o : Outcome}
    (hb : e.Yields o) :
    l.announcing = none ∧ Link.Fits l.request (linkReply (.outcome o)) := by
  have quiet {q : Link.Request} (hr : l.request = q) (hq : ∀ status, q ≠ .announce status) :
      l.announcing = none := by
    cases ha : l.announcing with
    | none => rfl
    | some status => exact absurd (by rw [← hr, Link.request, ha]) (hq status)
  cases hr : l.request with
  | connect =>
    simp only [linkIntent, hr] at hi
    split at hi <;> cases hi
    refine ⟨quiet hr (by simp), ?_⟩
    rcases hb with ⟨_ | ip, rfl⟩ | ⟨e, rfl⟩
    · exact .connectFailed
    · exact .connect
    · exact .connectFailed
  | disconnect =>
    simp only [linkIntent, hr] at hi
    split at hi <;> cases hi
    refine ⟨quiet hr (by simp), ?_⟩
    rcases hb with rfl | ⟨e, rfl⟩
    · exact .disconnect
    · exact .disconnectFailed
  | announce status =>
    simp only [linkIntent, hr] at hi
    exact absurd hi (announce_ne_errand e)
  | askConnected =>
    simp only [linkIntent, hr] at hi
    split at hi <;> cases hi
  | wait limit =>
    simp only [linkIntent, hr] at hi
    split at hi
    · cases hi
    · split at hi <;> cases hi
  | proceed | bringUp | askServers | tearDown | finished => simp [linkIntent, hr] at hi

/-- What the thread does at the end of an errand. -/
theorem onward_of_outcome (h : s.RunsLink t l) {e : Errand} (hi : s.linkIntent t l = .errand e)
    {o : Outcome} (hb : e.Yields o) :
    ∃ l', (s.complete t (.outcome o)).link? l.kind = some l' ∧ l.Onward l' := by
  obtain ⟨ha, hf⟩ := fits_of_outcome hi hb
  exact ⟨_, h.link_complete ha _, .reply hf⟩

/-- A blocked thread waits for commands, and none have come. -/
theorem waits (hi : s.linkIntent t l = .wait) :
    ∃ limit, l.request = .wait limit ∧ l.pending.bits = 0 := by
  cases hr : l.request with
  | wait limit =>
    simp only [linkIntent, hr] at hi
    split at hi
    · cases hi
    · rename_i hb
      exact ⟨limit, rfl, by simpa using hb⟩
  | announce status =>
    simp only [linkIntent, hr] at hi
    exact absurd hi announce_ne_wait
  | connect | disconnect | askConnected =>
    simp only [linkIntent, hr] at hi
    split at hi <;> cases hi
  | proceed | bringUp | askServers | tearDown | finished => simp [linkIntent, hr] at hi

end RunsLink

end System

end EdgeGateway
