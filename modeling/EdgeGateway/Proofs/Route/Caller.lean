import EdgeGateway.Proofs.Route.Thread

/-!
# EdgeGateway.Proofs.Route.Caller

What a thread of the gateway shows of a change of the default route, and what it does.

* `System.stepSigns`, `System.answerSigns`, `System.asks` : the signs of a thread that goes on by
  itself, of one that gets an answer, and of a command.
* `System.Conducts` : a move that shows some signs is a step of the callers, and touches the default
  link and the application only when a change takes effect.

Every move of a thread is one (`conducts_step`, `conducts_start`, `conducts_answer`).
-/

namespace EdgeGateway

open Routing (Sign Log)

def Answer.refusal? : Answer → Option String
  | .failed f => some f.reason
  | _ => none

/-- What a change of the route shows when it goes on by itself. -/
def Reroute.stepSigns : Reroute → List Sign
  | .resolving kind _ [] => [.switched kind]
  | .ended result => [.ended result]
  | _ => []

namespace System

/-- The servers a link publishes. -/
def published (s : System) (kind : LinkKind) : List IpAddress :=
  ((s.link? kind).map (·.addressing.dns)).getD []

def stepSigns (s : System) (t : Thread) : Log :=
  (((t.reroute? s.console).map Reroute.stepSigns).getD []).map (some t.id, ·)

/-- A command to change the default link. What is refused at once is over before there is a
caller. -/
def asks (s : System) (who : Nat) : ControlCommand → Log
  | .makeDefault kind =>
    match s.startReroute kind with
    | .ended result => [(none, .asked kind), (none, .ended result)]
    | _ => [(some who, .asked kind)]
  | _ => []

/-- The command that the key at the console stands for. -/
def pressed? (s : System) (t : Thread) : Option ControlCommand :=
  match t.role, s.console with
  | .console, some ⟨menu, .handling key⟩ => (menu.press s.view key).action
  | _, _ => none

/-- The call of a thread returns. -/
def answerSigns (s : System) (t : Thread) (c : Call) (a : Answer) : Log :=
  match c with
  | .setRoute kind => [(some t.id, .routed kind a.refusal? (s.published kind))]
  | .setServer index ip => [(some t.id, .served index ip a.succeeded)]
  | .notify _ => []
  | _ =>
    match s.pressed? t with
    | some command => s.asks t.id command
    | none => []

/-- A change that takes effect sets the default link and has the application restarted. Nothing
else that a caller does has to do with either. -/
def Effect (s s' : System) (signs : Log) : Prop :=
  (∃ who kind, signs = [(who, .switched kind)] ∧ s'.defaultLink = kind ∧
    s'.mqtt = s.mqtt.map (·.notify .restart)) ∨
  ((∀ who kind, (who, .switched kind) ∉ signs) ∧ s'.defaultLink = s.defaultLink ∧
    (signs ≠ [] ∨ s'.rerouting? ≠ s.rerouting? → s'.mqtt = s.mqtt))

structure Conducts (s : System) (signs : Log) (s' : System) : Prop where
  steady : s'.Steady
  routing : s.routing.Step signs s'.routing ∨ signs = [] ∧ s'.routing = s.routing
  effect : s.Effect s' signs

variable {s s₀ s' : System} {t u : Thread} {r : Reroute} {c : Call} {a : Answer}

theorem conducts_of_routing (h : s'.Steady ∧ s'.routing = s.routing) : s.Conducts [] s' where
  steady := h.1
  routing := .inr ⟨rfl, h.2⟩
  effect := by
    refine .inr ⟨fun _ _ hmem => ?_, congrArg Routing.current h.2, fun hcase => ?_⟩
    · cases hmem
    · rcases hcase with hne | hne
      · exact absurd rfl hne
      · exact absurd (congrArg Routing.caller h.2) hne

theorem Aside.conducts (h : s.Aside s') (hs : s.Steady) : s.Conducts [] s' :=
  conducts_of_routing ⟨h.steady hs, h.routing⟩

theorem rerouting?_of_thread (ht : s.thread? t.id = some t) :
    s.rerouting? t.id = (t.reroute? s.console).map (·, t.stage.isNet) := by
  rw [rerouting?, ht, Option.bind_some]

/-! ## One caller -/

/-- Whoever can enter a call of the stack's finds no other there. -/
theorem free_of_locked (hs : s.Steady) (hl : s.locked t (some .net) = false) :
    s.routing.Free t.id := by
  intro j p hne hj
  obtain ⟨v, hv, hp⟩ := Option.bind_eq_some_iff.mp hj
  obtain ⟨r', hr', rfl⟩ := Option.map_eq_some_iff.mp hp
  have hid : v.id = j := by simpa using List.find?_some hv
  have hnot : s.holds v .net = false := by
    have hall := List.any_eq_false.mp hl v (List.mem_of_find?_eq_some hv)
    simpa [hid, hne] using hall
  obtain ⟨hcall, hkeeps⟩ := Bool.or_eq_false_iff.mp hnot
  cases r' with
  | ended result => rfl
  | routing kind =>
    rcases (hs.threads j v hv).busy _ hr' with hstage | ⟨c, hc, hstage⟩
    · rw [hstage]
      rfl
    · rw [hstage] at hcall ⊢
      exact hcall
  | resolving kind index servers =>
    exfalso
    revert hkeeps
    unfold Thread.reroute? at hr'
    split at hr'
    · rename_i hrole
      cases hr'
      simp [keeps, hrole]
    · rename_i hrole
      obtain ⟨con, hcon, hpoint⟩ := Option.bind_eq_some_iff.mp hr'
      obtain ⟨menu, point⟩ := con
      cases point <;> cases hpoint
      simp [keeps, hrole, hcon]
    · cases hr'

theorem caller_of_reroute? (ht : s.thread? t.id = some t) (hr : t.reroute? s.console = some r) :
    s.routing.caller t.id = some (r, t.stage.isNet) := by
  refine (rerouting?_of_thread ht).trans ?_
  rw [hr]
  rfl

section Caller

variable {x : Option Thread} (hs : s.Steady) (ht : s.thread? t.id = some t)
include hs ht

theorem Replaces.routing_eq (h : Replaces t x s s') : s'.routing =
    { s.routing.set t.id (x.bind fun v => (v.reroute? s'.console).map (·, v.stage.isNet)) with
      current := s'.defaultLink } := by
  rw [routing, h.rerouting? ht fun _ => hs]
  rfl

/-- A caller shows something other than that a change takes effect. -/
theorem Replaces.conducts (h : Replaces t x s s') {signs : Log}
    (hx : ∀ v, x = some v → v.Steady s'.console)
    (hstep : s.routing.Step signs (s.routing.set t.id
      (x.bind fun v => (v.reroute? s'.console).map (·, v.stage.isNet))))
    (hswitch : ∀ who kind, (who, .switched kind) ∉ signs)
    (hdefault : s'.defaultLink = s.defaultLink) (hmqtt : s'.mqtt = s.mqtt) :
    s.Conducts signs s' where
  steady := h.steady ht hs hx
  routing := by
    rw [h.routing_eq hs ht, hdefault]
    exact .inl hstep
  effect := .inr ⟨hswitch, hdefault, fun _ => hmqtt⟩

/-- A thread goes on that is about no change, before and after. -/
theorem Replaces.idle (h : Replaces t x s s') (hx : ∀ v, x = some v → v.Steady s'.console)
    (hr : t.reroute? s.console = none) (hnone : ∀ v, x = some v → v.reroute? s'.console = none)
    (hdefault : s'.defaultLink = s.defaultLink) : s'.Steady ∧ s'.routing = s.routing := by
  have hview : (x.bind fun v => (v.reroute? s'.console).map (·, v.stage.isNet)) =
      s.rerouting? t.id := by
    rw [rerouting?_of_thread ht, hr]
    cases x with
    | none => rfl
    | some v =>
      rw [Option.bind_some, hnone v rfl]
      rfl
  refine ⟨h.steady ht hs hx, ?_⟩
  rw [routing, routing, hdefault, h.rerouting? ht fun _ => hs, hview, Function.update_eq_self]

theorem Replaces.conducts_ask (h : Replaces t (some u) s s') {kind : LinkKind} (registered : Bool)
    (hr : t.reroute? s.console = none)
    (hu : u.reroute? s'.console = some (Reroute.start kind registered)) (hus : u.stage = .free)
    (hue : u.errand = none) (hdefault : s'.defaultLink = s.defaultLink) (hmqtt : s'.mqtt = s.mqtt) :
    s.Conducts [(some t.id, .asked kind)] s' := by
  have hnone : s.routing.caller t.id = none := by
    refine (rerouting?_of_thread ht).trans ?_
    rw [hr]
    rfl
  refine h.conducts hs ht ?_ ?_ (by simp) hdefault hmqtt
  · rintro v ⟨⟩
    exact .of_free hus hue _
  · rw [Option.bind_some, hu, hus]
    exact .ask hnone

variable (hr : t.reroute? s.console = some r)
include hr

theorem conducts_enter (hfree : t.stage = .free) (he : t.errand = none) (hc : r.call? = some c)
    (hl : s.locked t (some .net) = false) : s.Conducts [] (s.enterCall t c) := by
  have hnet : (Stage.inside c).isNet = true ∧
      s.enterCall t c = s.setThread { t with stage := .inside c } := by
    cases r with
    | routing kind =>
      cases hc
      exact ⟨rfl, rfl⟩
    | resolving kind index servers =>
      cases servers <;> cases hc
      exact ⟨rfl, rfl⟩
    | ended result => cases hc
  rw [hnet.2]
  have hrep : Replaces t (some { t with stage := .inside c }) s
      (s.setThread { t with stage := .inside c }) := by
    refine .setThread ht rfl rfl (fun _ => rfl) rfl fun hcon => ⟨hcon, hs.manned _ t ht hcon⟩
  refine hrep.conducts hs ht ?_ ?_ (by simp) rfl rfl
  · rintro v ⟨⟩
    refine ⟨fun hnone => ?_, fun r' hr' => .inr ⟨c, ?_, rfl⟩, fun _ => he⟩
    · exact absurd (hr.symm.trans hnone) (by simp)
    · cases hr.symm.trans hr'
      exact hc
  · have hcaller := caller_of_reroute? ht hr
    rw [hfree] at hcaller
    have hview : (Thread.reroute? { t with stage := .inside c }
        (s.setThread { t with stage := .inside c }).console).map
        (·, (Stage.inside c).isNet) = some (r, true) := by
      rw [hnet.1]
      exact congrArg (Option.map (·, true)) hr
    rw [Option.bind_some, hview]
    exact .enter hcaller hc (free_of_locked hs hl)

theorem Replaces.conducts_switch (h : Replaces t (some u) s s') {kind : LinkKind} {index : Nat}
    (hend : r = .resolving kind index []) (hfree : t.stage = .free)
    (hu : u.reroute? s'.console = some (.ended (.ok ()))) (hus : u.stage = .free)
    (hue : u.errand = none) (hdefault : s'.defaultLink = kind)
    (hmqtt : s'.mqtt = s.mqtt.map (·.notify .restart)) :
    s.Conducts [(some t.id, .switched kind)] s' where
  steady := by
    refine h.steady ht hs ?_
    rintro v ⟨⟩
    exact .of_free hus hue _
  routing := by
    have hcaller := caller_of_reroute? ht hr
    rw [hfree, hend] at hcaller
    rw [h.routing_eq hs ht, hdefault, Option.bind_some, hu, hus]
    exact .inl (.switch hcaller)
  effect := .inl ⟨_, kind, rfl, hdefault, hmqtt⟩

theorem Replaces.conducts_finish (h : Replaces t x s s') {result : Except ControlError Unit}
    (hend : r = .ended result) (hfree : t.stage = .free)
    (hx : ∀ v, x = some v → v.Steady s'.console ∧ v.reroute? s'.console = none)
    (hdefault : s'.defaultLink = s.defaultLink) (hmqtt : s'.mqtt = s.mqtt) :
    s.Conducts [(some t.id, .ended result)] s' := by
  refine h.conducts hs ht (fun v hv => (hx v hv).1) ?_ (by simp) hdefault hmqtt
  have hview : (x.bind fun v => (v.reroute? s'.console).map (·, v.stage.isNet)) = none := by
    cases x with
    | none => rfl
    | some v =>
      rw [Option.bind_some, (hx v rfl).2]
      rfl
  have hcaller := caller_of_reroute? ht hr
  rw [hfree, hend] at hcaller
  rw [hview]
  exact .finish hcaller

theorem Replaces.conducts_answer (h : Replaces t (some u) s s') (hstage : t.stage = .inside c)
    (hc : r.call? = some c)
    (hu : u.reroute? s'.console = some (s.rerouteReply a r)) (hus : u.stage = .free)
    (hue : u.errand = none) (hdefault : s'.defaultLink = s.defaultLink) (hmqtt : s'.mqtt = s.mqtt) :
    s.Conducts (s.answerSigns t c a) s' := by
  have hcaller := caller_of_reroute? ht hr
  rw [hstage] at hcaller
  have hsteady : ∀ v, some u = some v → v.Steady s'.console := by
    rintro v ⟨⟩
    exact .of_free hus hue _
  cases r with
  | routing kind =>
    cases hc
    refine h.conducts hs ht hsteady ?_ (by simp [answerSigns]) hdefault hmqtt
    rw [Option.bind_some, hu, hus]
    exact .route hcaller
  | resolving kind index servers =>
    cases servers with
    | nil => cases hc
    | cons ip rest =>
      cases hc
      refine h.conducts hs ht hsteady ?_ (by simp [answerSigns]) hdefault hmqtt
      rw [Option.bind_some, hu, hus]
      exact .serve hcaller
  | ended result => cases hc

end Caller

/-! ## Threads that carry out a change -/

theorem stepSigns_of_reroute? (hr : t.reroute? s.console = some r) :
    s.stepSigns t = r.stepSigns.map (some t.id, ·) := by
  rw [stepSigns, hr]
  rfl

theorem next_of_free (hf : t.stage = .free) (he : t.errand = none) : s.next t =
    match s.intent t with
    | .proceed s => .step s
    | .call c => s.tryCall t c
    | .errand e => .step (s.setThread { t with errand := some e })
    | .push handle value => s.pushMove t handle value
    | .wait => .blocked := by
  obtain ⟨id, actor, role, stage, told, errand⟩ := t
  cases hf
  cases he
  rfl

theorem tryCall_ne_step (s : System) (t : Thread) (c : Call) (s' : System) :
    s.tryCall t c ≠ .step s' := by
  unfold tryCall
  split <;> exact nofun

theorem next_of_inside (hf : t.stage = .inside c) : s.next t = .inside c := by
  simp only [next, hf]

theorem free_of_step (hm : s.next t = .step s') : t.stage = .free := by
  cases hstage : t.stage with
  | free => rfl
  | calling c =>
    simp only [next, hstage] at hm
    exact absurd hm (tryCall_ne_step _ _ _ _)
  | inside c =>
    rw [next_of_inside hstage] at hm
    cases hm

theorem answer_of_change (he : t.errand = none) (hr : r.call? = some c) (a : Answer) :
    s.answer t c a =
      (s.setThread { t with stage := .free }).complete { t with stage := .free } (.answer a) := by
  cases r with
  | routing kind =>
    cases hr
    simp only [answer, he]
  | resolving kind index servers =>
    cases servers <;> cases hr
    simp only [answer, he]
  | ended result => cases hr

/-- A change that is a chore goes on with the answer. -/
theorem answer_of_chore {written : Bool} (hrole : t.role = .chore (.reroute r written))
    (he : t.errand = none) (hc : r.call? = some c) (a : Answer) :
    s.answer t c a = s.setThread
      { t with stage := .free, role := .chore (.reroute (s.rerouteReply a r) written) } := by
  rw [answer_of_change he hc]
  simp only [complete, hrole]
  exact setThread_setThread s _ rfl

section Moves

variable (hs : s.Steady) (ht : s.thread? t.id = some t)
include hs ht

/-- A call is entered only where a change asks for it. -/
theorem conducts_tryCall (hr : t.reroute? s.console = some r) (hfree : t.stage = .free)
    (he : t.errand = none) (hc : r.call? = some c) {c' : Call}
    (hm : s.tryCall t c = .start c' s') : s.Conducts [] s' := by
  have hnet : c.lock? = some .net := by
    cases r with
    | routing kind =>
      cases hc
      rfl
    | resolving kind index servers =>
      cases servers <;> cases hc
      rfl
    | ended result => cases hc
  unfold tryCall at hm
  split at hm
  · cases hm
  · rename_i hl
    cases hm
    rw [hnet] at hl
    exact conducts_enter hs ht hr hfree he hc (by simpa using hl)

variable {written : Bool} (hrole : t.role = .chore (.reroute r written))
include hrole

theorem conducts_chore_step (hm : s.next t = .step s') : s.Conducts (s.stepSigns t) s' := by
  have hr : t.reroute? s.console = some r := by rw [Thread.reroute?, hrole]
  have hncon : t.role ≠ .console := by rw [hrole]; exact nofun
  have he : t.errand = none := (hs.threads _ t ht).errand (by rw [hrole]; rfl)
  have hfree := free_of_step hm
  have hi : s.intent t = s.choreIntent t (.reroute r written) := by simp only [intent, hrole]
  rw [next_of_free hfree he, hi] at hm
  rw [stepSigns_of_reroute? hr]
  cases r with
  | routing kind => exact absurd hm (tryCall_ne_step _ _ _ _)
  | resolving kind index servers =>
    cases servers with
    | cons ip rest => exact absurd hm (tryCall_ne_step _ _ _ _)
    | nil =>
      cases hm
      have hrep : Replaces t (some { t with role := .chore (.reroute (.ended (.ok ())) written) }) s
          ((s.reroute kind).setThread
            { t with role := .chore (.reroute (.ended (.ok ())) written) }) :=
        .setThread ht rfl rfl (fun _ => rfl) rfl nofun
      exact hrep.conducts_switch hs ht hr rfl hfree rfl hfree he rfl rfl
  | ended result =>
    cases hm
    have hrep (x : ChoreResult) :
        Replaces t none s (({ s with choreResult := some x } : System).endThread t) :=
      .endThread rfl rfl fun _ => rfl
    refine (hrep _).conducts_finish hs ht hr rfl hfree (fun v hv => ?_) rfl rfl
    cases hv

theorem conducts_chore_start {c' : Call} (hm : s.next t = .start c' s') : s.Conducts [] s' := by
  have hr : t.reroute? s.console = some r := by rw [Thread.reroute?, hrole]
  have he : t.errand = none := (hs.threads _ t ht).errand (by rw [hrole]; rfl)
  have hfree : t.stage = .free := by
    rcases (hs.threads _ t ht).busy r hr with hfree | ⟨c, -, hstage⟩
    · exact hfree
    · rw [next_of_inside hstage] at hm
      cases hm
  have hi : s.intent t = s.choreIntent t (.reroute r written) := by simp only [intent, hrole]
  rw [next_of_free hfree he, hi] at hm
  cases r with
  | routing kind => exact conducts_tryCall hs ht hr hfree he rfl hm
  | resolving kind index servers =>
    cases servers with
    | cons ip rest => exact conducts_tryCall hs ht hr hfree he rfl hm
    | nil => cases hm
  | ended result => cases hm

theorem conducts_chore_answer (hm : s.next t = .inside c) (a : Answer) :
    s.Conducts (s.answerSigns t c a) (s.answer t c a) := by
  have hr : t.reroute? s.console = some r := by rw [Thread.reroute?, hrole]
  have hncon : t.role ≠ .console := by rw [hrole]; exact nofun
  have he : t.errand = none := (hs.threads _ t ht).errand (by rw [hrole]; rfl)
  have hstage := stage_of_inside hm
  have hc := (hs.threads _ t ht).call?_of_inside hr hstage
  rw [answer_of_chore hrole he hc]
  have hrep : Replaces t (some { t with
      stage := .free, role := .chore (.reroute (s.rerouteReply a r) written) }) s
      (s.setThread { t with
        stage := .free, role := .chore (.reroute (s.rerouteReply a r) written) }) :=
    .setThread ht rfl rfl (fun _ => rfl) rfl nofun
  exact hrep.conducts_answer hs ht hr hstage hc rfl rfl he rfl rfl

end Moves

/-! ## The console -/

theorem Replaces.setConsole (s₀ : System) (hrole : t.role = .console)
    (hthreads : ∀ i, s₀.thread? i = if i = t.id then some u else s.thread? i)
    (hnext : s₀.nextThread = s.nextThread) (menu : Menu) (point : ConsolePoint) :
    Replaces t (some u) s (s₀.setConsole menu point) :=
  ⟨hthreads, hnext, fun hne => absurd hrole hne, fun _ _ _ => ⟨hrole, rfl⟩⟩

theorem complete_console (hrole : t.role = .console) {con : Console} (hcon : s.console = some con)
    (a : Answer) : s.complete t (.answer a) = s.consoleComplete con a := by
  simp only [complete, hrole, hcon]

/-- The console pushes nothing to clients. -/
theorem complete_pushed (hrole : t.role = .console) (sent : Bool) :
    s.complete t (.pushed sent) = s := by
  simp only [complete, hrole]
  cases s.console <;> rfl

/-- The console has come back from a call, and then goes on. -/
theorem answer_console (hrole : t.role = .console) {con : Console} (hcon : s.console = some con)
    (he : t.errand = none) (hn : ∀ n, c ≠ .notify n) (a : Answer) :
    s.answer t c a = (s.setThread { t with stage := .free }).consoleComplete con a := by
  have hcon' : (s.setThread { t with stage := .free }).console = some con := hcon
  have hrole' : ({ t with stage := .free } : Thread).role = .console := hrole
  rw [← complete_console hrole' hcon']
  simp only [answer, he]

theorem answerSigns_of_lock? (hc : c.lock? ≠ some .net) (hn : ∀ n, c ≠ .notify n) (t : Thread)
    (a : Answer) : s.answerSigns t c a = ((s.pressed? t).map (s.asks t.id)).getD [] := by
  unfold answerSigns
  split
  · exact absurd rfl hc
  · exact absurd rfl hc
  · exact absurd rfl (hn _)
  · cases s.pressed? t <;> rfl

theorem reroute?_of_console (hrole : t.role = .console) {con : Console}
    (hcon : s.console = some con) : t.reroute? s.console = con.reroute? := by
  rw [Thread.reroute?, hrole, hcon]
  rfl

theorem pressed?_handling (hrole : t.role = .console) {menu : Menu} {key : Char}
    (hcon : s.console = some ⟨menu, .handling key⟩) :
    s.pressed? t = (menu.press s.view key).action := by
  simp only [pressed?, hrole, hcon]

theorem pressed?_eq_none (hrole : t.role = .console) {con : Console} (hcon : s.console = some con)
    (hne : ∀ key, con.point ≠ .handling key) : s.pressed? t = none := by
  obtain ⟨menu, point⟩ := con
  simp only [pressed?, hrole, hcon]
  cases point with
  | handling key => exact absurd rfl (hne key)
  | _ => rfl

section Console

variable (hs : s.Steady) (ht : s.thread? t.id = some t) (hrole : t.role = .console) {con : Console}
  (hcon : s.console = some con)
include hs ht hrole hcon

theorem conducts_console_step (hm : s.next t = .step s') : s.Conducts (s.stepSigns t) s' := by
  have he : t.errand = none := (hs.threads _ t ht).errand (by rw [hrole]; rfl)
  have hr := reroute?_of_console hrole hcon
  have hi : s.intent t = s.consoleIntent t con := by simp only [intent, hrole, hcon]
  have hfree := free_of_step hm
  rw [next_of_free hfree he, hi] at hm
  have hself : ∀ i, s.thread? i = if i = t.id then some t else s.thread? i := by
    intro i
    by_cases heq : i = t.id
    · rw [if_pos heq, heq, ht]
    · rw [if_neg heq]
  have hrep := Replaces.setConsole s hrole hself rfl
  obtain ⟨menu, point⟩ := con
  cases point with
  | drawing => exact absurd hm (tryCall_ne_step _ _ _ _)
  | reading => exact absurd hm (tryCall_ne_step _ _ _ _)
  | handling key => exact absurd hm (tryCall_ne_step _ _ _ _)
  | rerouting r =>
    rw [stepSigns_of_reroute? hr]
    cases r with
    | routing kind => exact absurd hm (tryCall_ne_step _ _ _ _)
    | resolving kind index servers =>
      cases servers with
      | cons ip rest => exact absurd hm (tryCall_ne_step _ _ _ _)
      | nil =>
        cases hm
        have hset := Replaces.setConsole (s.reroute kind) hrole hself rfl menu
          (.rerouting (.ended (.ok ())))
        refine hset.conducts_switch hs ht hr rfl hfree ?_ hfree he rfl rfl
        rw [Thread.reroute?, hrole]
        rfl
    | ended result =>
      cases hm
      refine (hrep _ _).conducts_finish hs ht hr rfl hfree ?_ rfl rfl
      rintro v ⟨⟩
      refine ⟨.of_free hfree he _, ?_⟩
      rw [Thread.reroute?, hrole]
      rfl
  | answering result =>
    have hnone : s.stepSigns t = [] := by
      rw [stepSigns, hr]
      rfl
    rw [hnone]
    cases result with
    | error e => exact absurd hm (tryCall_ne_step _ _ _ _)
    | ok x =>
      cases hm
      refine conducts_of_routing
        ((hrep menu .drawing).idle hs ht (fun v hv => ?_) hr (fun v hv => ?_) rfl)
      · cases hv
        exact .of_free hfree he _
      · cases hv
        rw [Thread.reroute?, hrole]
        rfl
  | finished =>
    have hnone : s.stepSigns t = [] := by
      rw [stepSigns, hr]
      rfl
    rw [hnone]
    cases hm
    have hend : Replaces t none s (s.endThread t) := .endThread rfl rfl fun _ => rfl
    refine conducts_of_routing (hend.idle hs ht (fun v hv => ?_) hr (fun v hv => ?_) rfl)
    · cases hv
    · cases hv

/-- Away from the stack a call leaves the console where it is. -/
theorem conducts_console_enter (hnone : con.reroute? = none) (hc : c.lock? ≠ some .net) :
    s.Conducts [] (s.enterCall t c) := by
  have he : t.errand = none := (hs.threads _ t ht).errand (by rw [hrole]; rfl)
  have hr := (reroute?_of_console hrole hcon).trans hnone
  have hset : Replaces t (some { t with stage := .inside c }) s
      (s.setThread { t with stage := .inside c }) :=
    .setThread ht rfl rfl (fun _ => rfl) rfl fun _ => ⟨hrole, by rw [hcon]; rfl⟩
  have hin : Replaces t (some { t with stage := .inside c }) s (s.enterCall t c) ∧
      (s.enterCall t c).defaultLink = s.defaultLink ∧
      (s.enterCall t c).console = s.console := by
    unfold enterCall
    dsimp only
    split <;> exact ⟨⟨hset.threads, hset.nextThread, hset.console, hset.role⟩, rfl, rfl⟩
  have hview : Thread.reroute? { t with stage := .inside c } s.console = none := hr
  refine conducts_of_routing
    (hin.1.idle hs ht (fun v hv => ?_) hr (fun v hv => ?_) hin.2.1)
  · cases hv
    rw [hin.2.2]
    refine ⟨fun _ => decide_eq_false hc, fun r hr' => ?_, fun _ => he⟩
    rw [hview] at hr'
    cases hr'
  · cases hv
    rw [hin.2.2]
    exact hview

theorem conducts_console_start {c' : Call} (hm : s.next t = .start c' s') :
    s.Conducts [] s' := by
  obtain ⟨hquiet, hbusy, herrand⟩ := hs.threads _ t ht
  have he : t.errand = none := herrand (by rw [hrole]; rfl)
  have hr := reroute?_of_console hrole hcon
  have enters {d : Call} (hnone : con.reroute? = none) (hd : d.lock? ≠ some .net)
      (hm : s.tryCall t d = .start c' s') : s.Conducts [] s' := by
    unfold tryCall at hm
    split at hm <;> cases hm
    exact conducts_console_enter hs ht hrole hcon hnone hd
  cases hstage : t.stage with
  | inside c =>
    rw [next_of_inside hstage] at hm
    cases hm
  | calling d =>
    simp only [next, hstage] at hm
    have hnone : con.reroute? = none := by
      cases hcr : con.reroute? with
      | none => rfl
      | some r =>
        rcases hbusy r (hr.trans hcr) with hfree | ⟨c, -, hin⟩
        · rw [hstage] at hfree
          cases hfree
        · rw [hstage] at hin
          cases hin
    have hnet := hquiet (hr.trans hnone)
    rw [hstage] at hnet
    exact enters hnone (of_decide_eq_false hnet) hm
  | free =>
    have hi : s.intent t = s.consoleIntent t con := by simp only [intent, hrole, hcon]
    rw [next_of_free hstage he, hi] at hm
    obtain ⟨menu, point⟩ := con
    cases point with
    | drawing => exact enters rfl (by simp [Call.lock?]) hm
    | reading => exact enters rfl (by simp [Call.lock?]) hm
    | handling key => exact enters rfl (by simp [Call.lock?]) hm
    | rerouting r =>
      cases r with
      | routing kind => exact conducts_tryCall hs ht hr hstage he rfl hm
      | resolving kind index servers =>
        cases servers with
        | cons ip rest => exact conducts_tryCall hs ht hr hstage he rfl hm
        | nil => cases hm
      | ended result => cases hm
    | answering result =>
      cases result with
      | error e => exact enters rfl (by simp [Call.lock?]) hm
      | ok x => cases hm
    | finished => cases hm

omit hs in
/-- The console's thread, back from a call, with the console somewhere else. -/
theorem replaces_console (h : (s.setThread { t with stage := .free }).Unmoved s₀) (menu : Menu)
    (point : ConsolePoint) :
    Replaces t (some { t with stage := .free }) s (s₀.setConsole menu point) := by
  have hset : Replaces t (some { t with stage := .free }) s
      (s.setThread { t with stage := .free }) :=
    .setThread ht rfl rfl (fun _ => rfl) rfl fun _ => ⟨hrole, by rw [hcon]; rfl⟩
  exact .setConsole s₀ hrole (fun i => (h.thread? i).trans (hset.threads i))
    (h.nextThread.trans hset.nextThread) menu point

omit hs ht hcon in
theorem reroute?_console (menu : Menu) (point : ConsolePoint) :
    Thread.reroute? { t with stage := .free } (some ⟨menu, point⟩) =
      Console.reroute? ⟨menu, point⟩ := by
  rw [Thread.reroute?, hrole]
  rfl

theorem console_idle (he : t.errand = none) (hnone : con.reroute? = none)
    (h : (s.setThread { t with stage := .free }).Unmoved s₀) (menu : Menu) (point : ConsolePoint)
    (hpoint : Console.reroute? ⟨menu, point⟩ = none) :
    (s₀.setConsole menu point).Steady ∧ (s₀.setConsole menu point).routing = s.routing := by
  have hr := (reroute?_of_console hrole hcon).trans hnone
  refine (replaces_console ht hrole hcon h menu point).idle hs ht ?_ hr ?_ h.defaultLink
  · rintro v ⟨⟩
    have hfree : ({ t with stage := .free } : Thread).stage = .free := rfl
    exact .of_free hfree he _
  · rintro v ⟨⟩
    exact (reroute?_console hrole menu point).trans hpoint

/-- A key that stands for a command. -/
theorem conducts_dispatch (he : t.errand = none) (hnone : con.reroute? = none) (menu : Menu)
    (command : ControlCommand) {s₁ : System} (h₁ : s₁ = s.setThread { t with stage := .free }) :
    s.Conducts (s.asks t.id command)
      ((s₁.dispatch command).1.afterCommand menu (s₁.dispatch command).2) := by
  subst h₁
  have same {s₀ : System} (h : (s.setThread { t with stage := .free }).Unmoved s₀)
      (result : Except ControlError Unit) :
      (s₀.setConsole menu (.answering result)).Steady ∧
        (s₀.setConsole menu (.answering result)).routing = s.routing :=
    console_idle hs ht hrole hcon he hnone h menu _ rfl
  cases command with
  | link kind command =>
    have h := (Commanded.notifyLink (s.setThread { t with stage := .free }) kind command).unmoved
    exact conducts_of_routing (same h _)
  | app command =>
    have h := (Commanded.notifyApp (s.setThread { t with stage := .free }) command).unmoved
    exact conducts_of_routing (same h _)
  | makeDefault kind =>
    have hr := (reroute?_of_console hrole hcon).trans hnone
    have hstart : (s.setThread { t with stage := .free }).startReroute kind =
        Reroute.start kind (s.link? kind).isSome := rfl
    rcases Routing.start_cases kind (s.link? kind).isSome with hp | ⟨e, hp⟩
    · have hasks : s.asks t.id (.makeDefault kind) = [(some t.id, .asked kind)] := by
        simp only [asks, startReroute, hp]
      simp only [dispatch, hstart, hp, hasks]
      have hrep := replaces_console ht hrole hcon (.refl _) menu (.rerouting (.routing kind))
      refine hrep.conducts_ask hs ht (s.link? kind).isSome hr ?_ rfl he rfl rfl
      rw [hp]
      exact reroute?_console hrole menu _
    · have hasks : s.asks t.id (.makeDefault kind) =
          [(none, .asked kind), (none, .ended (.error e))] := by
        simp only [asks, startReroute, hp]
      simp only [dispatch, hstart, hp, hasks]
      have hsame := same (.refl _) (.error e)
      refine ⟨hsame.1, .inl ?_, .inr ⟨by simp, rfl, fun _ => rfl⟩⟩
      rw [afterCommand, hsame.2]
      exact .refuse hp

/-- The stack has answered the console. -/
theorem conducts_rerouting_answer (hstage : t.stage = .inside c) (hcr : con.reroute? = some r)
    (a : Answer) : s.Conducts (s.answerSigns t c a) (s.answer t c a) := by
  have he : t.errand = none := (hs.threads _ t ht).errand (by rw [hrole]; rfl)
  have hr := (reroute?_of_console hrole hcon).trans hcr
  have hc := (hs.threads _ t ht).call?_of_inside hr hstage
  have hne : ∀ n, c ≠ .notify n := by
    rintro n rfl
    cases r with
    | resolving kind index servers => cases servers <;> cases hc
    | _ => cases hc
  obtain ⟨menu, point⟩ := con
  cases point <;> cases hcr
  have hdone : (s.setThread { t with stage := .free }).consoleComplete
      ⟨menu, .rerouting r⟩ a = (s.setThread { t with stage := .free }).setConsole menu
        (.rerouting (s.rerouteReply a r)) := by
    cases r <;> rfl
  have hrep := replaces_console ht hrole hcon (.refl _) menu (.rerouting (s.rerouteReply a r))
  rw [answer_console hrole hcon he hne, hdone]
  exact hrep.conducts_answer hs ht hr hstage hc (reroute?_console hrole _ _) rfl he rfl rfl

/-- Any other call of the console's returns. It may have been the text that goes with a command. -/
theorem conducts_other_answer (hstage : t.stage = .inside c) (hcr : con.reroute? = none)
    (a : Answer) : s.Conducts (s.answerSigns t c a) (s.answer t c a) := by
  obtain ⟨hquiet, -, herrand⟩ := hs.threads _ t ht
  have he : t.errand = none := herrand (by rw [hrole]; rfl)
  have hnet : c.lock? ≠ some .net := by
    have hr := (reroute?_of_console hrole hcon).trans hcr
    have hnet := hquiet hr
    rw [hstage] at hnet
    exact of_decide_eq_false hnet
  have idle (menu : Menu) (point : ConsolePoint)
      (hpoint : Console.reroute? ⟨menu, point⟩ = none) :
      s.Conducts [] ((s.setThread { t with stage := .free }).setConsole menu point) :=
    conducts_of_routing (console_idle hs ht hrole hcon he hcr (.refl _) menu point hpoint)
  have stays : s.Conducts [] (s.setThread { t with stage := .free }) := by
    have hset := idle con.menu con.point hcr
    have hback : (s.setThread { t with stage := .free }).setConsole con.menu con.point =
        s.setThread { t with stage := .free } := by
      have hcon' : (s.setThread { t with stage := .free }).console = some con := hcon
      rw [setConsole, ← hcon']
    rwa [hback] at hset
  by_cases hnotify : ∃ n, c = .notify n
  · obtain ⟨n, rfl⟩ := hnotify
    have hdone : s.answer t (.notify n) a = (s.setThread { t with stage := .free }).complete
        { t with stage := .free } (.pushed a.succeeded) := by
      simp only [answer, he]
    have hsame := complete_pushed (s := s.setThread { t with stage := .free })
      (t := { t with stage := .free }) hrole a.succeeded
    rw [hdone, hsame]
    exact stays
  · have hne : ∀ n, c ≠ .notify n := fun n heq => hnotify ⟨n, heq⟩
    rw [answer_console hrole hcon he hne, answerSigns_of_lock? hnet hne]
    obtain ⟨menu, point⟩ := con
    have silent (hne : ∀ key, point ≠ .handling key) :
        ((s.pressed? t).map (s.asks t.id)).getD [] = [] := by
      rw [pressed?_eq_none hrole hcon hne]
      rfl
    cases point with
    | drawing =>
      rw [silent (by simp)]
      exact idle _ _ rfl
    | reading =>
      rw [silent (by simp)]
      unfold consoleComplete
      dsimp only
      split <;> first | exact idle _ _ rfl | contradiction
    | handling key =>
      have hview : (s.setThread { t with stage := .free }).view = s.view := rfl
      rw [pressed?_handling hrole hcon]
      simp only [consoleComplete, hview]
      cases (menu.press s.view key).action with
      | none => exact idle _ _ rfl
      | some command =>
        exact conducts_dispatch hs ht hrole hcon he hcr (menu.press s.view key).menu command rfl
    | rerouting r => cases hcr
    | answering result =>
      rw [silent (by simp)]
      exact idle _ _ rfl
    | finished =>
      rw [silent (by simp)]
      exact stays

theorem conducts_console_answer (hm : s.next t = .inside c) (a : Answer) :
    s.Conducts (s.answerSigns t c a) (s.answer t c a) := by
  have hstage := stage_of_inside hm
  cases hcr : con.reroute? with
  | some r => exact conducts_rerouting_answer hs ht hrole hcon hstage hcr a
  | none => exact conducts_other_answer hs ht hrole hcon hstage hcr a

end Console

/-! ## All threads -/

section Threads

variable (hs : s.Steady) (ht : s.thread? t.id = some t)
include hs ht

theorem conducts_step (hm : s.next t = .step s') : s.Conducts (s.stepSigns t) s' := by
  cases hr : t.role.reroutes with
  | false =>
    have hnone : s.stepSigns t = [] := by
      rw [stepSigns, Thread.reroute?_eq_none hr]
      rfl
    have haside := aside_step ht hr hm
    rw [hnone]
    exact haside.conducts hs
  | true =>
    rcases t.role.reroutes_cases hr with hrole | ⟨r, written, hrole⟩
    · obtain ⟨con, hcon⟩ := Option.isSome_iff_exists.mp (hs.manned _ t ht hrole)
      exact conducts_console_step hs ht hrole hcon hm
    · exact conducts_chore_step hs ht hrole hm

theorem conducts_start (hm : s.next t = .start c s') : s.Conducts [] s' := by
  cases hr : t.role.reroutes with
  | false =>
    have hquiet := (hs.threads _ t ht).quiet (Thread.reroute?_eq_none hr _)
    have haside := aside_start ht hr hquiet hm
    exact haside.conducts hs
  | true =>
    rcases t.role.reroutes_cases hr with hrole | ⟨r, written, hrole⟩
    · obtain ⟨con, hcon⟩ := Option.isSome_iff_exists.mp (hs.manned _ t ht hrole)
      exact conducts_console_start hs ht hrole hcon hm
    · exact conducts_chore_start hs ht hrole hm

theorem conducts_answer (hm : s.next t = .inside c) (a : Answer) :
    s.Conducts (s.answerSigns t c a) (s.answer t c a) := by
  cases hr : t.role.reroutes with
  | false =>
    have hquiet := (hs.threads _ t ht).quiet (Thread.reroute?_eq_none hr _)
    rw [stage_of_inside hm] at hquiet
    have hpressed : s.pressed? t = none := by
      unfold pressed?
      split
      · rename_i hrole _
        exact absurd hrole (console_of_reroutes hr)
      · rfl
    have hnone : s.answerSigns t c a = [] := by
      by_cases hn : ∃ n, c = .notify n
      · obtain ⟨n, rfl⟩ := hn
        rfl
      · rw [answerSigns_of_lock? (of_decide_eq_false hquiet) (fun n heq => hn ⟨n, heq⟩), hpressed]
        rfl
    have haside := aside_answer ht hr c a
    rw [hnone]
    exact haside.conducts hs
  | true =>
    rcases t.role.reroutes_cases hr with hrole | ⟨r, written, hrole⟩
    · obtain ⟨con, hcon⟩ := Option.isSome_iff_exists.mp (hs.manned _ t ht hrole)
      exact conducts_console_answer hs ht hrole hcon hm a
    · exact conducts_chore_answer hs ht hrole hm a

end Threads

end System

end EdgeGateway
