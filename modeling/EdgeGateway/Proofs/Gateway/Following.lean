import EdgeGateway.Proofs.Gateway.Deeds
import EdgeGateway.Proofs.Gateway.Manned

/-!
# EdgeGateway.Proofs.Gateway.Following

What the threads of a gateway do is what its crew does.

* `System.crew` : the crew of a gateway.

A task that goes on by itself (`Manned.crew_of_proceed`), gets an answer (`Manned.crew_of_answer`),
has told a client (`Manned.crew_of_pushed`), begins an errand (`Manned.crew_of_begin`) or comes to
the end of one (`Manned.crew_of_outcome`) makes one step of the crew, or none.
-/

namespace EdgeGateway

theorem Outstanding.after_of_aside (k : Outstanding) {c : Call} (h : c.isAside = true)
    (a : Answer) : k.after c a = k := by
  cases c <;> first | rfl | cases h

namespace System

variable {s s' : System} {t : Thread} {errand : Task → Option Errand} {tidy : Bool}
  {k : Outstanding} {l l' : Link} {b b' : Bridge} {task task' : Mqtt} {kind : LinkKind}
  {c : Call} {a : Answer}

/-- The tasks as they are, and the errands of their threads. -/
def crew (s : System) (errand : Task → Option Errand) : Crew where
  link kind := (s.link? kind).map Link.own
  bridge := s.bridge.map Bridge.own
  mqtt := s.mqtt.map Mqtt.own
  arbiter := s.arbiter
  errand := errand

theorem crew_of_spares (hs : s.Spares none s') (ha : s'.arbiter = s.arbiter) :
    s'.crew errand = s.crew errand := by
  have hlink (kind : LinkKind) : (s'.link? kind).map Link.own = _ := hs.link kind nofun
  simp only [crew, hlink, hs.bridge nofun, hs.mqtt nofun, ha]

theorem crew_of_link (hs : s.Spares (some (.link kind)) s') (ha : s'.arbiter = s.arbiter)
    (hl : s'.link? kind = some l') : s'.crew errand = (s.crew errand).setLink kind l' := by
  have hlink : (fun kind => (s'.link? kind).map Link.own) =
      Function.update (fun kind => (s.link? kind).map Link.own) kind (some l'.own) := by
    funext kind'
    rw [Function.update_apply]
    split
    · rename_i heq
      rw [heq, hl]
      rfl
    · rename_i hne
      exact hs.link kind' fun heq => hne (by cases heq; rfl)
  simp only [crew, Crew.setLink, hlink, hs.bridge nofun, hs.mqtt nofun, ha]

theorem crew_of_bridge (hs : s.Spares (some .bridge) s') (ha : s'.arbiter = s.arbiter)
    (hb : s'.bridge = some b') : s'.crew errand = (s.crew errand).setBridge b' := by
  have hlink (kind : LinkKind) : (s'.link? kind).map Link.own = _ := hs.link kind nofun
  simp only [crew, Crew.setBridge, hlink, hs.mqtt nofun, ha, hb, Option.map_some]

theorem crew_of_mqtt (hs : s.Spares (some .mqtt) s') (ha : s'.arbiter = s.arbiter)
    (hm : s'.mqtt = some task') : s'.crew errand = (s.crew errand).setMqtt task' := by
  have hlink (kind : LinkKind) : (s'.link? kind).map Link.own = _ := hs.link kind nofun
  simp only [crew, Crew.setMqtt, hlink, hs.bridge nofun, ha, hm, Option.map_some]

/-! ## Steps that ask for nothing outside

What a task has been given it reads first, so the step may begin at another task than the one that
is there. They differ in what has been delivered only. -/

theorem crew_link_inner (hs : s.Spares (some (.link kind)) s') (ha : s'.arbiter = s.arbiter)
    (hl : s.link? kind = some l) (hl' : s'.link? kind = some l')
    (hfree : errand (.link kind) = none) {l₀ : Link} (hown : l₀.own = l.own) {q : Link.Request}
    {r : Link.Reply} (hadv : l₀.Advances q r l') (hq : q.isOuter = false)
    (hask : q = .askConnected → r = .flag (s.arbiter.any (·.dataSession))) :
    Crew.Step tidy (s.crew errand, k) (s'.crew errand, k) := by
  have hne {q' : Link.Request} (ho : q'.isOuter = true) : q ≠ q' := by
    rintro rfl
    rw [hq] at ho
    cases ho
  have hstep : Crew.Step tidy (s.crew errand, k) _ :=
    .link (by simp only [crew, hl, Option.map_some, hown]) hfree hadv
      (fun _ => ⟨hne rfl, hne rfl, hask⟩) fun _ hd => absurd hd (hne rfl)
  rwa [k.afterLink_of_inner kind hq r, ← crew_of_link hs ha hl'] at hstep

theorem crew_bridge_inner (hs : s.Spares (some .bridge) s') (ha : s'.arbiter = s.arbiter)
    (hb : s.bridge = some b) (hb' : s'.bridge = some b') (hfree : errand .bridge = none)
    {b₀ : Bridge} (hown : b₀.own = b.own) {q : Bridge.Request} {r : Bridge.Reply}
    (hadv : b₀.Advances q r b') (hq : q.isInner = true) :
    Crew.Step tidy (s.crew errand, k) (s'.crew errand, k) := by
  have hne {q' : Bridge.Request} (ho : q'.isInner = false) : q ≠ q' := by
    rintro rfl
    rw [hq] at ho
    cases ho
  have hstep : Crew.Step tidy (s.crew errand, k) _ :=
    .bridge (by simp only [crew, hb, Option.map_some, hown]) hfree hadv (fun _ => hne rfl)
      (fun _ => hne rfl) fun _ _ hd => absurd hd (hne rfl)
  rwa [k.afterBridge_of_inner hq r, ← crew_of_bridge hs ha hb'] at hstep

theorem crew_mqtt_inner (hs : s.Spares (some .mqtt) s') (ha : s'.arbiter = s.arbiter)
    (hm : s.mqtt = some task) (hm' : s'.mqtt = some task') {task₀ : Mqtt}
    (hown : task₀.own = task.own) {q : Mqtt.Request} {r : Mqtt.Reply}
    (hadv : task₀.Advances q r task') (hq : q.call? = none) :
    Crew.Step tidy (s.crew errand, k) (s'.crew errand, k) := by
  have hstep : Crew.Step tidy (s.crew errand, k) _ :=
    .mqtt (by simp only [crew, hm, Option.map_some, hown]) hadv fun _ hd => by
      rcases hd with rfl | rfl | rfl <;> cases hq
  rwa [k.afterMqtt_of_inner hq r, ← crew_of_mqtt hs ha hm'] at hstep

/-! ## A task goes on by itself -/

theorem crew_of_link_proceed (hr : s.RunsLink t l) (hi : s.linkIntent t l = .proceed s')
    (hs : s.Spares (some (.link l.kind)) s') (ha : s'.arbiter = s.arbiter)
    (hfree : errand (.link l.kind) = none) :
    Relation.ReflGen (Crew.Step tidy) (s.crew errand, k) (s'.crew errand, k) := by
  by_cases hq : l.request = .finished
  · simp only [linkIntent, hq] at hi
    cases hi
    exact .refl
  · obtain ⟨l₀, r, l', hown, hl', hadv, hinner, hask⟩ := hr.advances hi hq
    exact .single (crew_link_inner hs ha hr.link hl' hfree hown hadv hinner hask)

theorem crew_of_bridge_proceed (hb : s.bridge = some b) (hi : s.bridgeIntent t b = .proceed s')
    (hs : s.Spares (some .bridge) s') (ha : s'.arbiter = s.arbiter)
    (hfree : errand .bridge = none) :
    Relation.ReflGen (Crew.Step tidy) (s.crew errand, k) (s'.crew errand, k) := by
  by_cases hq : b.request = .finished
  · simp only [bridgeIntent, hq] at hi
    cases hi
    simp only [crew, hb]
    exact .refl
  · obtain ⟨b₀, r, b', hown, hb', hadv, hinner⟩ := bridge_advances hi hq
    exact .single (crew_bridge_inner hs ha hb hb' hfree hown hadv hinner)

theorem crew_of_mqtt_proceed (hm : s.mqtt = some task) (hi : s.mqttIntent t task = .proceed s')
    (hs : s.Spares (some .mqtt) s') (ha : s'.arbiter = s.arbiter) :
    Relation.ReflGen (Crew.Step tidy) (s.crew errand, k) (s'.crew errand, k) := by
  by_cases hq : task.request = .finished
  · simp only [mqttIntent, hq] at hi
    cases hi
    simp only [crew, hm]
    exact .refl
  · obtain ⟨task₀, r, task', hown, hm', hadv, hinner⟩ := mqtt_advances hi hq
    exact .single (crew_mqtt_inner hs ha hm hm' hown hadv hinner)

/-! ## A call is answered

`hdone` says what the surroundings owe: a call that undoes something has not failed. -/

theorem crew_of_link_answer (hr : s.RunsLink t l) (hw : s.plainWifi = false)
    (hi : s.linkIntent t l = .call c) (hb : c.Brings a)
    (hdone : c.undoes = true → tidy = true → a = .done)
    (hs : s.Spares (some (.link l.kind)) (s.complete t (.answer a)))
    (ha : (s.complete t (.answer a)).arbiter = s.arbiter) (hfree : errand (.link l.kind) = none) :
    Relation.ReflGen (Crew.Step tidy) (s.crew errand, k)
      ((s.complete t (.answer a)).crew errand, k.after c a) := by
  cases hno : l.announcing with
  | some status =>
    have hq : l.request = .announce status := by simp only [Link.request, hno]
    simp only [linkIntent, hq] at hi
    cases eq_of_announce_call hi
    simp only [complete, hr.role, hr.link, hno]
    exact .refl
  | none =>
    rw [crew_of_link hs ha (hr.link_complete hno _), after_of_link hw hi hno hb]
    have hcrew : (s.crew errand).link l.kind = some l.own := by
      simp only [crew, hr.link, Option.map_some]
    have hthrough (r : Link.Reply) : (s.crew errand).Through l.kind l.request r := by
      intro hk
      obtain ⟨hc, hd, hask⟩ := through_of_call hi hk
      exact ⟨hc, hd, fun hq => absurd hq hask⟩
    rcases RunsLink.fits_of_answer hi hno hb with hq | hf
    · -- a transport is torn down whatever it answers
      have hreply : k.afterLink l.kind l.request (linkReply (.answer a)) =
          k.afterLink l.kind l.request .done := by
        rw [hq]
        cases l.kind <;> rfl
      rw [hreply, Link.resume_of_tearDown hq]
      exact .single (.link hcrew hfree (Link.advances_of_fits (hq ▸ .tearDown)) (hthrough _)
        fun _ _ => rfl)
    · refine .single (.link hcrew hfree (Link.advances_of_fits hf) (hthrough _) fun htidy hq => ?_)
      rw [hdone (undoes_of_link hi hq) htidy]
      rfl

theorem crew_of_bridge_answer (hrole : t.role = .bridge) (hb : s.bridge = some b)
    (hi : s.bridgeIntent t b = .call c) (hc : c.Brings a)
    (hdone : c.undoes = true → tidy = true → a = .done)
    (hs : s.Spares (some .bridge) (s.complete t (.answer a)))
    (ha : (s.complete t (.answer a)).arbiter = s.arbiter) (hfree : errand .bridge = none) :
    Relation.ReflGen (Crew.Step tidy) (s.crew errand, k)
      ((s.complete t (.answer a)).crew errand, k.after c a) := by
  have hb' : (s.complete t (.answer a)).bridge = some (b.resume (bridgeReply (.answer a))) := by
    simp only [complete, hrole, hb, Option.map_some]
  obtain ⟨hf, -⟩ := RunsBridge.fits_of_answer hi hc
  rw [crew_of_bridge hs ha hb', after_of_bridge hi hc]
  refine .single (.bridge (by simp only [crew, hb, Option.map_some]) hfree
    (.turned (Bridge.turn_of_fits hf)) (fun timeout hq => ?_) (fun id hq => ?_)
    fun htidy h hq => ?_)
  · simp [bridgeIntent, hq] at hi
  · simp [bridgeIntent, hq] at hi
  · rw [hdone (undoes_of_bridge hi hq) htidy]
    rfl

theorem crew_of_mqtt_answer (hrole : t.role = .mqtt) (hm : s.mqtt = some task)
    (hi : s.mqttIntent t task = .call c) (hb : c.Brings a)
    (hdone : c.undoes = true → tidy = true → a = .done)
    (hs : s.Spares (some .mqtt) (s.complete t (.answer a)))
    (ha : (s.complete t (.answer a)).arbiter = s.arbiter) :
    Relation.ReflGen (Crew.Step tidy) (s.crew errand, k)
      ((s.complete t (.answer a)).crew errand, k.after c a) := by
  cases hno : task.announcing with
  | some status =>
    have hq : task.request = .announce status := by simp only [Mqtt.request, hno]
    simp only [mqttIntent, hq] at hi
    cases eq_of_announce_call hi
    simp only [complete, hrole, hm, hno]
    exact .refl
  | none =>
    have hm' : (s.complete t (.answer a)).mqtt = some (task.resume (mqttReply (.answer a))) := by
      simp only [complete, hrole, hm, hno, Option.isSome_none, Bool.false_eq_true, if_false]
      split <;> rfl
    rw [crew_of_mqtt hs ha hm', after_of_mqtt hi hno hb]
    refine .single (.mqtt (by simp only [crew, hm, Option.map_some])
      (Mqtt.advances_of_fits (mqtt_fits_of_answer hi hno hb)) fun htidy hq => ?_)
    rw [hdone (undoes_of_mqtt hi hq) htidy]
    rfl

/-! ## A client is told, an errand ends -/

theorem crew_of_bridge_pushed (hrole : t.role = .bridge) (hb : s.bridge = some b)
    {handle : UInt16} {value : Bytes} (hi : s.bridgeIntent t b = .push handle value) (sent : Bool)
    (hs : s.Spares (some .bridge) (s.complete t (.pushed sent)))
    (ha : (s.complete t (.pushed sent)).arbiter = s.arbiter) (hfree : errand .bridge = none) :
    Crew.Step tidy (s.crew errand, k) ((s.complete t (.pushed sent)).crew errand, k) := by
  have hb' : (s.complete t (.pushed sent)).bridge = some (b.resume (.flag sent)) := by
    simp only [complete, hrole, hb, Option.map_some, bridgeReply]
  have hq := RunsBridge.request_of_push hi
  have hf : Bridge.Fits b.request (.flag sent) := hq ▸ .push
  have hinner : b.request.isInner = true := by
    rw [hq]
    rfl
  exact crew_bridge_inner hs ha hb hb' hfree rfl (.turned (Bridge.turn_of_fits hf)) hinner

theorem crew_of_link_outcome (hr : s.RunsLink t l) {e : Errand} {o : Outcome}
    (hi : s.linkIntent t l = .errand e) (hy : e.Yields o)
    (hs : s.Spares (some (.link l.kind)) (s.complete t (.outcome o)))
    (ha : (s.complete t (.outcome o)).arbiter = s.arbiter) (hfree : errand (.link l.kind) = none) :
    Crew.Step tidy (s.crew (Function.update errand (.link l.kind) (some (.ended o))), k)
      ((s.complete t (.outcome o)).crew errand, k) := by
  obtain ⟨hno, hf⟩ := RunsLink.fits_of_outcome hi hy
  have hl := hr.link
  have hl' := hr.link_complete hno (.outcome o)
  have hc := cellular_of_errand hi
  rw [hc] at hl hl' hs hfree ⊢
  have hback : Function.update errand (.link .cellular) none = errand := by
    rw [← hfree, Function.update_eq_self]
  have hon : (s.crew (Function.update errand (.link .cellular) (some (.ended o)))).errand
      (.link .cellular) = some (.ended o) := by simp only [crew, Function.update_self]
  have hstep : Crew.Step tidy (s.crew (Function.update errand _ (some (.ended o))), k) _ :=
    .endLink (by simp only [crew, hl, Option.map_some]) hon (Link.advances_of_fits hf)
  rw [crew_of_link hs ha hl']
  simpa only [crew, Crew.setErrand, Crew.setLink, Function.update_idem, hback] using hstep

theorem crew_of_bridge_outcome (hrole : t.role = .bridge) (hb : s.bridge = some b) {e : Errand}
    {o : Outcome} (hi : s.bridgeIntent t b = .errand e) (hy : e.Yields o)
    (hs : s.Spares (some .bridge) (s.complete t (.outcome o)))
    (ha : (s.complete t (.outcome o)).arbiter = s.arbiter) (hfree : errand .bridge = none) :
    Crew.Step tidy (s.crew (Function.update errand .bridge (some (.ended o))), k)
      ((s.complete t (.outcome o)).crew errand, k) := by
  have hb' : (s.complete t (.outcome o)).bridge = some (b.resume (bridgeReply (.outcome o))) := by
    simp only [complete, hrole, hb, Option.map_some]
  obtain ⟨hf, -⟩ := RunsBridge.fits_of_outcome hi hy
  have hback : Function.update errand .bridge none = errand := by
    rw [← hfree, Function.update_eq_self]
  have hon : (s.crew (Function.update errand .bridge (some (.ended o)))).errand .bridge =
      some (.ended o) := by simp only [crew, Function.update_self]
  have hstep : Crew.Step tidy (s.crew (Function.update errand .bridge (some (.ended o))), k) _ :=
    .endBridge (by simp only [crew, hb, Option.map_some]) hon (Bridge.turn_of_fits hf)
  rw [crew_of_bridge hs ha hb']
  simpa only [crew, Crew.setErrand, Crew.setBridge, Function.update_idem, hback] using hstep

/-! ## Whatever the thread runs -/

namespace Manned

variable (h : s.Manned errand) (ht : s.thread? t.id = some t) (he : t.errand = none)
include h ht he

theorem crew_of_proceed (hi : s.intent t = .proceed s') :
    Relation.ReflGen (Crew.Step tidy) (s.crew errand, k) (s'.crew errand, k) := by
  have hs := (shifts_intent h.kinded ht (h.own _ t ht) hi).spares
  have ha := (undisturbed_intent ht he hi).arbiter
  have hfree {j : Task} (hj : t.role.task? = some j) : errand j = none :=
    (h.errands _ t j ht hj).trans he
  unfold intent at hi
  cases hr : t.role with
  | link kind =>
    simp only [hr, Role.task?] at hi hs hfree
    split at hi
    · rename_i l hl
      cases h.kinded kind l hl
      exact crew_of_link_proceed ⟨hr, hl⟩ hi hs ha (hfree rfl)
    · cases hi
  | bridge =>
    simp only [hr, Role.task?] at hi hs hfree
    split at hi
    · exact crew_of_bridge_proceed ‹_› hi hs ha (hfree rfl)
    · cases hi
  | mqtt =>
    simp only [hr, Role.task?] at hi hs
    split at hi
    · exact crew_of_mqtt_proceed ‹_› hi hs ha
    · cases hi
  | _ =>
    rw [hr] at hs
    rw [crew_of_spares hs ha]

/-- What a thread without a task gets is nothing to the crew. -/
theorem crew_of_aside (hn : t.role.task? = none) (x : Completion) :
    (s.complete t x).crew errand = s.crew errand := by
  have hs := (shifts_complete h.kinded h.fresh ht (h.own _ t ht) x).spares
  rw [hn] at hs
  exact crew_of_spares hs (undisturbed_complete ht he x).arbiter

theorem crew_of_answer (hi : s.intent t = .call c) (hb : c.Brings a)
    (hu : tidy = true → c.undoes = true → a.succeeded = true) :
    Relation.ReflGen (Crew.Step tidy) (s.crew errand, k)
      ((s.complete t (.answer a)).crew errand, k.after c a) := by
  have hdone (hq : c.undoes = true) (htidy : tidy = true) : a = .done :=
    hb.eq_done hq (hu htidy hq)
  have hs := (shifts_complete h.kinded h.fresh ht (h.own _ t ht) (.answer a)).spares
  have ha := (undisturbed_complete ht he (.answer a)).arbiter
  have hfree {j : Task} (hj : t.role.task? = some j) : errand j = none :=
    (h.errands _ t j ht hj).trans he
  have hasked : (s.intent t).asked? = some (.call c) := by
    rw [hi]
    rfl
  unfold intent at hi
  cases hr : t.role with
  | link kind =>
    simp only [hr, Role.task?] at hi hs hfree
    split at hi
    · rename_i l hl
      cases h.kinded kind l hl
      exact crew_of_link_answer ⟨hr, hl⟩ h.wifi hi hb hdone hs ha (hfree rfl)
    · cases hi
  | bridge =>
    simp only [hr, Role.task?] at hi hs hfree
    split at hi
    · exact crew_of_bridge_answer hr ‹_› hi hb hdone hs ha (hfree rfl)
    · cases hi
  | mqtt =>
    simp only [hr, Role.task?] at hi hs
    split at hi
    · exact crew_of_mqtt_answer hr ‹_› hi hb hdone hs ha
    · cases hi
  | _ =>
    have hnone : t.role.task? = none := by rw [hr]; rfl
    obtain ⟨_, hc, haside⟩ := aside_of_intent (h.own _ t ht) hnone hasked
    cases hc
    rw [h.crew_of_aside ht he hnone, k.after_of_aside haside]

/-- A value has been stored that a task asked to push, and the client told of it, or not. -/
theorem crew_of_pushed {handle : UInt16} {value : Bytes} (hi : s.intent t = .push handle value)
    (sent : Bool) : Relation.ReflGen (Crew.Step tidy) (s.crew errand, k)
      ((s.complete t (.pushed sent)).crew errand, k) := by
  have hs := (shifts_complete h.kinded h.fresh ht (h.own _ t ht) (.pushed sent)).spares
  have ha := (undisturbed_complete ht he (.pushed sent)).arbiter
  have hfree {j : Task} (hj : t.role.task? = some j) : errand j = none :=
    (h.errands _ t j ht hj).trans he
  have hasked : (s.intent t).asked? = some (.push handle value) := by
    rw [hi]
    rfl
  unfold intent at hi
  cases hr : t.role with
  | link kind =>
    simp only [hr] at hi
    split at hi
    · rename_i l hl
      obtain ⟨status, hno⟩ := announcing_of_link_push hi
      simp only [complete, hr, hl, hno]
      exact .refl
    · cases hi
  | bridge =>
    simp only [hr, Role.task?] at hi hs hfree
    split at hi
    · exact .single (crew_of_bridge_pushed hr ‹_› hi sent hs ha (hfree rfl))
    · cases hi
  | mqtt =>
    simp only [hr] at hi
    split at hi
    · rename_i task hm
      obtain ⟨status, hno⟩ := announcing_of_mqtt_push hi
      simp only [complete, hr, hm, hno]
      exact .refl
    · cases hi
  | _ =>
    have hnone : t.role.task? = none := by rw [hr]; rfl
    obtain ⟨_, hc, -⟩ := aside_of_intent (h.own _ t ht) hnone hasked
    cases hc

theorem crew_of_outcome {e : Errand} {o : Outcome} (hi : s.intent t = .errand e)
    (hy : e.Yields o) {j : Task} (hj : t.role.task? = some j) :
    Crew.Step tidy (s.crew (Function.update errand j (some (.ended o))), k)
      ((s.complete t (.outcome o)).crew errand, k) := by
  have hs := (shifts_complete h.kinded h.fresh ht (h.own _ t ht) (.outcome o)).spares
  have ha := (undisturbed_complete ht he (.outcome o)).arbiter
  have hfree : errand j = none := (h.errands _ t j ht hj).trans he
  unfold intent at hi
  cases hr : t.role with
  | link kind =>
    rw [hr] at hj
    cases hj
    simp only [hr, Role.task?] at hi hs
    split at hi
    · rename_i l hl
      cases h.kinded kind l hl
      exact crew_of_link_outcome ⟨hr, hl⟩ hi hy hs ha hfree
    · cases hi
  | bridge =>
    rw [hr] at hj
    cases hj
    simp only [hr, Role.task?] at hi hs
    split at hi
    · exact crew_of_bridge_outcome hr ‹_› hi hy hs ha hfree
    · cases hi
  | mqtt =>
    simp only [hr] at hi
    split at hi
    · exact absurd hi (mqttIntent_ne_errand e)
    · cases hi
  | _ =>
    rw [hr] at hj
    cases hj

theorem crew_of_begin {e : Errand} (hi : s.intent t = .errand e) {j : Task}
    (hj : t.role.task? = some j) : Crew.Step tidy (s.crew errand, k)
      (s.crew (Function.update errand j (some e)), k) := by
  have hfree : errand j = none := (h.errands _ t j ht hj).trans he
  unfold intent at hi
  cases hr : t.role with
  | link kind =>
    rw [hr] at hj
    cases hj
    simp only [hr] at hi
    split at hi
    · rename_i l hl
      have hc : kind = .cellular := (h.kinded kind l hl).symm.trans (cellular_of_errand hi)
      subst hc
      exact .beginLink (by simp only [crew, hl, Option.map_some]) hfree (wants_of_link hi)
    · cases hi
  | bridge =>
    rw [hr] at hj
    cases hj
    simp only [hr] at hi
    split at hi
    · rename_i b hb
      exact .beginBridge (by simp only [crew, hb, Option.map_some]) hfree (wants_of_bridge hi)
    · cases hi
  | mqtt =>
    simp only [hr] at hi
    split at hi
    · exact absurd hi (mqttIntent_ne_errand e)
    · cases hi
  | _ =>
    rw [hr] at hj
    cases hj

end Manned

end System

end EdgeGateway
