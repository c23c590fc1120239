import EdgeGateway.Proofs.History
import EdgeGateway.Proofs.Link.Life

/-!
# EdgeGateway.Proofs.Link.Discipline

The order in which a link task calls its transport (`Life.disciplined`).

* `Link.Request.isCall` : the calls that bring a transport up or down, and make or end a connection.
* `Life.asked`          : all that a task has asked, the oldest first, and what it asks now.
* `Life.Permits`        : whether something may be asked, by all that was asked before.
* `Life.Disciplined`    : the order of the calls, as what comes before and after each of them.
-/

namespace EdgeGateway

namespace Link

def Request.isCall : Request → Bool
  | .bringUp | .connect | .disconnect | .tearDown => true
  | _ => false

/-- Where the task makes which call. -/
theorem point_of_isCall {l : Link} (h : l.request.isCall = true) :
    l.point ≠ .finished ∧
      match l.request with
      | .bringUp => l.point = .bringingUp
      | .connect => ∃ n, l.point = .connecting n
      | .tearDown => l.point = .closing ∧ l.ready = true
      | _ => True := by
  cases ha : l.announcing with
  | some s => simp [request, ha, Request.isCall] at h
  | none =>
    simp only [request, ha] at h ⊢
    cases hp : l.point with
    | idle left => cases hl : left.isEmpty <;> simp [hp, hl, Request.isCall] at h
    | leaving next => cases hu : l.isUp <;> simp [hp, hu, Request.isCall] at h
    | closing => cases hr : l.ready <;> simp_all [Request.isCall]
    | _ => simp_all [Request.isCall]

/-- A transport that is up is not brought up. -/
theorem Turn.unready {l l' : Link} {q : Request} {r : Reply} (ht : Turn l q r l')
    (h : l'.point = .bringingUp) : l'.ready = false := by
  cases ht with
  | opened hp => cases hr : l.ready <;> simp_all
  | acted hp _ hacts => cases hacts <;> cases h
  | _ hp => cases h

theorem Reads.not_bringingUp {l l' : Link} {cs : Commands} {limit : Option Nat}
    (hr : Reads l cs limit l') : l'.point ≠ .bringingUp := by
  cases hr with
  | acted hp _ hacts => cases hacts <;> nofun
  | _ hp => nofun

end Link

namespace Life

/-- A request, and the reply unless it is still to come. -/
abbrev Asked := Link.Request × Option Link.Reply

def answered (w : Life) : List Asked := (w.log.map fun e => (e.1, some e.2)).reverse

def asked (w : Life) : List Asked := w.answered ++ [(w.link.request, none)]

/-- A connection has been made, and the transport was not asked to end it since. -/
def Connected (past : List Asked) : Prop :=
  ∃ before ip since, past = before ++ (.connect, some (.address ip)) :: since ∧
    ∀ r, (.disconnect, r) ∉ since

def Permits (past : List Asked) (q : Link.Request) : Prop :=
  (q.isCall = true → ∀ r, (.tearDown, r) ∉ past) ∧
  match q with
  | .bringUp => (.bringUp, some .done) ∉ past
  | .connect => (.bringUp, some .done) ∈ past ∧ ¬ Connected past
  | .tearDown => (.bringUp, some .done) ∈ past
  | _ => True

theorem Connected.of_append_singleton {past : List Asked} {e : Asked}
    (h : Connected (past ++ [e])) :
    (∃ ip, e = (.connect, some (.address ip))) ∨ (Connected past ∧ e.1 ≠ .disconnect) := by
  obtain ⟨before, ip, since, hsplit, hno⟩ := h
  rcases split_of_append_singleton hsplit with ⟨-, rfl, -⟩ | ⟨rest, rfl, rfl⟩
  · exact .inl ⟨ip, rfl⟩
  · refine .inr ⟨⟨before, ip, rest, rfl, fun r hr => hno r (by simp [hr])⟩, fun hq => ?_⟩
    exact hno e.2 (by simp [← hq])

theorem answered_cons (w : Life) (l : Link) (q : Link.Request) (r : Link.Reply) :
    answered ⟨l, (q, r) :: w.log⟩ = w.answered ++ [(q, some r)] := by
  simp [answered]

theorem mem_answered_bringUp (w : Life) :
    (.bringUp, some .done) ∈ w.answered ↔ w.broughtUp = true := by
  simp [answered, broughtUp]

theorem tearDowns_pos {w : Life} {r : Option Link.Reply} (h : (.tearDown, r) ∈ w.answered) :
    0 < w.tearDowns := by
  simp only [answered, List.mem_reverse, List.mem_map, Prod.mk.injEq] at h
  obtain ⟨e, he, hq, -⟩ := h
  exact List.countP_pos_iff.mpr ⟨e, he, by simp [hq]⟩

/-! ## The task asks for nothing else -/

/-- What has been asked, seen from where the task is. -/
structure Ordered (w : Life) : Prop where
  sound : w.Sound
  usesReady : w.link.UsesReady
  unready : w.link.point = .bringingUp → w.link.ready = false
  connected : Connected w.answered → w.link.Holds
  lawful : Abides (fun past e => Permits past e.1) w.answered

namespace Ordered

variable {w w' : Life}

theorem not_tornDown (h : Ordered w) (hp : w.link.point ≠ .finished) (r : Option Link.Reply) :
    (.tearDown, r) ∉ w.answered := by
  intro hr
  have hpos := tearDowns_pos hr
  rw [h.sound.tearDowns, if_neg fun hf => hp hf.1] at hpos
  exact absurd hpos (Nat.lt_irrefl 0)

theorem bringUp_mem_iff (h : Ordered w) :
    (.bringUp, some .done) ∈ w.answered ↔ w.link.ready = true := by
  rw [mem_answered_bringUp, h.sound.broughtUp]

theorem permits (h : Ordered w) : Permits w.answered w.link.request := by
  refine ⟨fun hcall => h.not_tornDown (Link.point_of_isCall hcall).1, ?_⟩
  have hpoint := fun hcall => (Link.point_of_isCall (l := w.link) hcall).2
  have hs := h.sound.link
  have huses := h.usesReady
  cases hq : w.link.request with
  | bringUp =>
    have hp : w.link.point = .bringingUp := by simpa [hq, Link.Request.isCall] using hpoint
    show (Link.Request.bringUp, some Link.Reply.done) ∉ w.answered
    rw [h.bringUp_mem_iff, h.unready hp]
    nofun
  | connect =>
    obtain ⟨n, hp⟩ : ∃ n, w.link.point = .connecting n := by
      simpa [hq, Link.Request.isCall] using hpoint
    simp only [Link.UsesReady, hp] at huses
    simp only [Link.Sound, hp] at hs
    refine ⟨h.bringUp_mem_iff.mpr huses, fun hconn => hs.1.1 ?_⟩
    simpa only [Link.Holds, hp] using h.connected hconn
  | tearDown =>
    have hp : w.link.point = .closing ∧ w.link.ready = true := by
      simpa [hq, Link.Request.isCall] using hpoint
    exact h.bringUp_mem_iff.mpr hp.2
  | _ => trivial

theorem reply (h : Ordered w) {q : Link.Request} {r : Link.Reply} {l' : Link}
    (hq : Permits w.answered q) (hs : Sound ⟨l', (q, r) :: w.log⟩) (hr : l'.UsesReady)
    (hu : l'.point = .bringingUp → l'.ready = false)
    (hc : (∃ ip, q = .connect ∧ r = .address ip) ∨ (w.link.Holds ∧ q ≠ .disconnect) →
      l'.Holds) : Ordered ⟨l', (q, r) :: w.log⟩ where
  sound := hs
  usesReady := hr
  unready := hu
  connected := by
    rw [answered_cons]
    intro hconn
    refine hc (hconn.of_append_singleton.imp ?_ fun h' => ⟨h.connected h'.1, h'.2⟩)
    rintro ⟨ip, he⟩
    cases he
    exact ⟨ip, rfl, rfl⟩
  lawful := by
    rw [answered_cons]
    exact h.lawful.append_singleton hq

theorem reads (h : Ordered w) {l l' : Link} {cs : Commands} {limit : Option Nat}
    (hl : l = w.link ∨ l = w.taken.link) (hr : l.Reads cs limit l')
    (hs : Sound ⟨l', (.wait limit, .commands cs) :: w.log⟩) :
    Ordered ⟨l', (.wait limit, .commands cs) :: w.log⟩ := by
  have huses : l.UsesReady := by rcases hl with rfl | rfl <;> exact h.usesReady
  have hsound : l.Sound := by rcases hl with rfl | rfl <;> exact h.sound.link
  refine h.reply ⟨nofun, trivial⟩ hs (hr.usesReady huses) (fun hp => absurd hp hr.not_bringingUp)
    fun hc => hr.holds hsound ?_
  have hc := (hc.resolve_left (by simp)).1
  rcases hl with rfl | rfl <;> exact hc

theorem move (h : Ordered w) (hm : Move w w') : Ordered w' := by
  have hs := h.sound.move hm
  cases hm.moved with
  | heard ha =>
    exact h.reply ⟨nofun, trivial⟩ hs h.usesReady h.unready
      fun hc => (hc.resolve_left (by simp)).1
  | turned ha hq ht =>
    exact h.reply (hq ▸ h.permits) hs (ht.usesReady h.usesReady) ht.unready
      (ht.holds_of h.sound.link)
  | read _ _ hr => exact h.reads (.inr rfl) hr hs
  | expired _ _ hr => exact h.reads (.inl rfl) hr hs

theorem step (h : Ordered w) (hs : Step w w') : Ordered w' := by
  cases hs with
  | move hm => exact h.move hm
  | post c => exact ⟨h.sound.step (.post c), h.usesReady, h.unready, h.connected, h.lawful⟩

theorem reach (h : w.Reachable) : Ordered w := by
  obtain ⟨kind, policy, h⟩ := h
  induction h with
  | refl =>
    exact ⟨.start kind policy, trivial, nofun, fun ⟨_, _, _, hs, _⟩ => by simp [answered] at hs,
      .nil⟩
  | tail _ hs ih => exact ih.step hs

end Ordered

/-! ## The order of the calls -/

structure Disciplined (asked : List Asked) : Prop where
  connect_after_bringUp : ∀ {past r future}, asked = past ++ (.connect, r) :: future →
    (.bringUp, some .done) ∈ past
  bringUp_until_done : ∀ {past r future}, asked = past ++ (.bringUp, r) :: future →
    (.bringUp, some .done) ∉ past
  tearDown_after_bringUp : ∀ {past r future}, asked = past ++ (.tearDown, r) :: future →
    (.bringUp, some .done) ∈ past
  tearDown_once : asked.countP (·.1 = .tearDown) ≤ 1
  tearDown_last : ∀ {past r future}, asked = past ++ (.tearDown, r) :: future →
    ∀ e ∈ future, e.1.isCall = false
  disconnect_between : ∀ {past ip between r future},
    asked = past ++ (.connect, some (.address ip)) :: (between ++ (.connect, r) :: future) →
    ∃ r', (.disconnect, r') ∈ between

section Lawful

variable {asked : List Asked} (h : Abides (fun past e => Permits past e.1) asked)
include h

theorem no_call_after_tearDown {past : List Asked} {r : Option Link.Reply} {future : List Asked}
    (hsplit : asked = past ++ (.tearDown, r) :: future) : ∀ e ∈ future, e.1.isCall = false := by
  intro e he
  obtain ⟨between, rest, rfl⟩ := List.append_of_mem he
  rw [← List.cons_append, ← List.append_assoc] at hsplit
  rw [Bool.eq_false_iff]
  intro hcall
  exact (h _ e rest hsplit).1 hcall r (by simp)

theorem countP_tearDown_le : asked.countP (·.1 = .tearDown) ≤ 1 := by
  by_cases hmem : ∃ e ∈ asked, e.1 = .tearDown
  · obtain ⟨⟨_, r⟩, he, rfl⟩ := hmem
    obtain ⟨past, future, hsplit⟩ := List.append_of_mem he
    have hpast : past.countP (·.1 = .tearDown) = 0 := by
      rw [List.countP_eq_zero]
      rintro ⟨q, r'⟩ he hq
      obtain rfl : q = .tearDown := by simpa using hq
      exact (h _ _ _ hsplit).1 rfl r' he
    have hfuture : future.countP (·.1 = .tearDown) = 0 := by
      rw [List.countP_eq_zero]
      intro e he hq
      have hcall := no_call_after_tearDown h hsplit e he
      rw [of_decide_eq_true hq] at hcall
      cases hcall
    simp [hsplit, hpast, hfuture]
  · rw [List.countP_eq_zero.mpr fun e he hq => hmem ⟨e, he, of_decide_eq_true hq⟩]
    exact Nat.zero_le 1

theorem Disciplined.of_abides : Disciplined asked where
  connect_after_bringUp hsplit := (h _ _ _ hsplit).2.1
  bringUp_until_done hsplit := (h _ _ _ hsplit).2
  tearDown_after_bringUp hsplit := (h _ _ _ hsplit).2
  tearDown_once := countP_tearDown_le h
  tearDown_last hsplit := no_call_after_tearDown h hsplit
  disconnect_between {past ip between r future} hsplit := by
    rw [← List.cons_append, ← List.append_assoc] at hsplit
    by_contra hno
    simp only [not_exists] at hno
    exact (h _ _ _ hsplit).2.2 ⟨past, ip, between, rfl, hno⟩

end Lawful

theorem disciplined {w : Life} (h : w.Reachable) : Disciplined w.asked :=
  .of_abides ((Ordered.reach h).lawful.append_singleton (Ordered.reach h).permits)

/-- The first try has brought an address of no use. -/
def discarding : Life where
  link := { kind := .wifi, policy := ⟨2, 10⟩, status := .stopping, ready := true,
            announcing := some .stopping, point := .discarding 1 }
  log := [(.connect, .address default), (.proceed, .done), (.bringUp, .done),
    (.announce .starting, .done), (.proceed, .done)]

theorem discarding_reachable : discarding.Reachable := by
  let w₀ : Life := { link := .ofPolicy .wifi ⟨2, 10⟩ }
  let w₁ := w₀.replied .done
  let w₂ := w₁.replied .done
  let w₃ := w₂.replied .done
  let w₄ := w₃.replied .done
  have s₁ : Step w₀ w₁ := .move (.reply .proceed)
  have s₂ : Step w₁ w₂ := .move (.reply .announce)
  have s₃ : Step w₂ w₃ := .move (.reply .bringUp)
  have s₄ : Step w₃ w₄ := .move (.reply .proceed)
  have s₅ : Step w₄ (w₄.replied (.address default)) := .move (.reply .connect)
  exact ⟨_, _, ((((Relation.ReflTransGen.single s₁).tail s₂).tail s₃).tail s₄).tail s₅⟩

/-- The transport cannot end that connection, and the next try is under way. -/
theorem disciplined_after_discarding :
    ∃ w : Life, w.Reachable ∧ w.link.point = .connecting 2 ∧
      (.connect, some (.address default)) ∈ w.asked ∧ Disciplined w.asked := by
  let w₁ := discarding.replied .done
  let w₂ := w₁.replied (.failed .timeout)
  let w₃ := w₂.replied .done
  let w₄ := w₃.replied .done
  let w₅ := w₄.replied (.commands .empty)
  have s₁ : Step discarding w₁ := .move (.reply .announce)
  have s₂ : Step w₁ w₂ := .move (.reply .disconnectFailed)
  have s₃ : Step w₂ w₃ := .move (.reply .announce)
  have s₄ : Step w₃ w₄ := .move (.reply .proceed)
  have s₅ : Step w₄ w₅ := .move (.expire rfl rfl)
  obtain ⟨kind, policy, hs⟩ := discarding_reachable
  have h : w₅.Reachable := ⟨kind, policy, ((((hs.tail s₁).tail s₂).tail s₃).tail s₄).tail s₅⟩
  have hmem : (.connect, some (.address default)) ∈ w₅.asked := by
    simp [w₅, w₄, w₃, w₂, w₁, asked, answered, replied, discarding]
  exact ⟨w₅, h, rfl, hmem, disciplined h⟩

end Life

end EdgeGateway
