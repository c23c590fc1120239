import EdgeGateway.Proofs.Cues
import EdgeGateway.Proofs.Gateway.Booted
import EdgeGateway.Proofs.Route.Caller
import EdgeGateway.Proofs.Route.Resolver

/-!
# EdgeGateway.Proofs.Route.Gateway

The default route of a running gateway.

* `System.RouteStep` : a step of the gateway, and what it shows of changes of the default link. They
  are asked for directly, by bytes for the control point, by a client's write or at the console.
* `System.RouteRun`  : a run from any state without a change on its way, as after boot
  (`System.unrouted_of_boot`). It is a run of the callers (`System.RouteRun.routing`).
* `System.FollowsStack` : the default link is what the stack accepted last. It holds of every run
  (`System.follows_stack`).

The resolver follows only as far as `System.resolver_follows_iff` says.
-/

namespace EdgeGateway.System

open Routing (Sign Log Conducted)

variable {s s₀ s' : System} {log signs : Log}

/-! ## Steps -/

/-- What a command did not decide at once is left to the main thread. -/
def carryOut {α : Type} (written : Bool) : System × (α ⊕ Reroute) → System
  | (s, .inl _) => s
  | (s, .inr r) => s.startChore (.reroute r written)

def controlSigns (s : System) (bytes : Bytes) : Log :=
  ((ControlCommand.ofBytes? bytes).map (s.asks s.nextThread)).getD []

/-- What a client does shows something if it is a write that reaches the control point. -/
def eventSigns (s : System) (e : GattEvent) : Log :=
  match s.gatt with
  | none => []
  | some g =>
    match (g.handle e).2 with
    | .control bytes => if s.controlled then s.controlSigns bytes else []
    | _ => []

/-- A step of the gateway: a thread goes on or gets an answer, no matter which, or something comes
from outside. -/
inductive RouteStep (s : System) : Log → System → Prop where
  | step {t : Thread} {s' : System} : s.thread? t.id = some t → s.next t = .step s' →
      RouteStep s (s.stepSigns t) s'
  | start {t : Thread} {c : Call} {s' : System} : s.thread? t.id = some t →
      s.next t = .start c s' → RouteStep s [] s'
  | answer {t : Thread} {c : Call} (a : Answer) : s.thread? t.id = some t →
      s.next t = .inside c → RouteStep s (s.answerSigns t c a) (s.answer t c a)
  | makeDefault (kind : LinkKind) : RouteStep s [(some s.nextThread, .asked kind)]
      (s.startChore (.reroute (s.startReroute kind) false))
  | control (bytes : Bytes) :
      RouteStep s (s.controlSigns bytes) (carryOut false (s.control bytes))
  | client (e : GattEvent) : RouteStep s (s.eventSigns e) (carryOut true (s.handleEvent e))
  | console : s.console = none → RouteStep s [] s.startConsole
  | chore (c : Chore) : (∀ r written, c ≠ .reroute r written) → RouteStep s [] (s.startChore c)
  | notifyLink (kind : LinkKind) (c : Command) : RouteStep s [] (s.notifyLink kind c).1
  | notifyApp (c : Command) : RouteStep s [] (s.notifyApp c).1
  | ipLost (kind : LinkKind) : RouteStep s [] (s.ipLost kind).1
  | brokerLost : RouteStep s [] s.brokerLost
  | brokerMessage (payload : Bytes) : RouteStep s [] (s.brokerMessage payload)
  | post {m : BridgeMessage} {s' : System} : s.postToBridge m = some s' → RouteStep s [] s'
  | shutdown : RouteStep s [] s.startShutdown
  | job (e : Errand) : RouteStep s [] (s.startJob e)
  | linkLimit {l : Link} {ms : Nat} : s.link? l.kind = some l → l.request = .wait (some ms) →
      l.pending.bits = 0 → RouteStep s [] (s.setLink (l.resume (.commands .empty)))
  | mqttLimit {t : Mqtt} {ms : Nat} : s.mqtt = some t → t.request = .wait (some ms) →
      t.pending.bits = 0 → RouteStep s [] { s with mqtt := some (t.resume (.commands .empty)) }
  | patience {t : Thread} {e e' : Errand} {a a' : Arbiter} : s.thread? t.id = some t →
      t.errand = some e → s.arbiter = some a → a.enter true e = some (a', e') →
      RouteStep s [] ({ s with arbiter := some a' }.setThread { t with errand := some e' })

/-- A run, and what it shows. -/
inductive RouteRun (s : System) : Log → System → Prop where
  | start : RouteRun s [] s
  | step {log signs : Log} {s' s'' : System} : RouteRun s log s' → s'.RouteStep signs s'' →
      RouteRun s (log ++ signs) s''

/-! ## New callers -/

theorem rerouting?_spawn (hs : s.Steady) (actor : Actor) (role : Role) :
    (s.spawn actor role none).rerouting? = Function.update s.rerouting? s.nextThread
      ((({ id := s.nextThread, actor, role } : Thread).reroute? s.console).map (·, false)) := by
  funext i
  rw [rerouting?, thread?_spawn]
  by_cases hi : i = s.nextThread
  · subst hi
    rw [Function.update_self, hs.fresh _ (Nat.le_refl _), if_pos rfl]
    rfl
  · rw [Function.update_of_ne hi, if_neg fun heq => hi heq.symm, Option.or_none]
    rfl

theorem rerouting?_nextThread (hs : s.Steady) : s.rerouting? s.nextThread = none := by
  rw [rerouting?, hs.fresh _ (Nat.le_refl _)]
  rfl

theorem routing_spawn (hs : s.Steady) (actor : Actor) (role : Role) :
    (s.spawn actor role none).routing = s.routing.set s.nextThread
      ((({ id := s.nextThread, actor, role } : Thread).reroute? s.console).map (·, false)) := by
  rw [routing, rerouting?_spawn hs]
  rfl

/-- A change of the default link in a thread of its own. -/
theorem conducts_startChore (hs : s.Steady) (h : s.Unmoved s₀) (hmqtt : s₀.mqtt = s.mqtt)
    (kind : LinkKind) (registered written : Bool) : s.Conducts [(some s.nextThread, .asked kind)]
      (s₀.startChore (.reroute (Reroute.start kind registered) written)) := by
  have hplain : s.Unmoved { s₀ with choreResult := none } := h.trans ⟨rfl, rfl, rfl, rfl⟩
  have hsteady := hplain.aside.steady hs
  have hrouting : (s₀.startChore (.reroute (Reroute.start kind registered) written)).routing =
      s.routing.set s.nextThread (some (Reroute.start kind registered, false)) := by
    rw [startChore, routing_spawn hsteady, hplain.aside.routing]
    exact congrArg (s.routing.set · _) h.nextThread
  refine ⟨steady_spawn hsteady .main nofun fun _ => rfl, .inl ?_, .inr ⟨by simp, h.defaultLink, ?_⟩⟩
  · rw [hrouting]
    exact .ask (rerouting?_nextThread hs)
  · exact fun _ => hmqtt

/-- Nobody is at the console before it starts. -/
theorem conducts_startConsole (hs : s.Steady) (hnone : s.console = none) :
    s.Conducts [] s.startConsole := by
  have hback {t : Thread} : t.reroute? (some {}) = t.reroute? s.console := by
    rw [hnone]
    unfold Thread.reroute?
    split <;> rfl
  have hempty : ∀ i t, s.thread? i = some t → t.role ≠ .console := by
    intro i t ht hrole
    have hsome := hs.manned i t ht hrole
    rw [hnone] at hsome
    cases hsome
  have hs₁ : ({ s with console := some {} } : System).Steady :=
    ⟨hs.fresh, fun i t ht => (hs.threads i t ht).congr hback, hs.single, fun _ _ _ _ => rfl⟩
  have hsame : ({ s with console := some {} } : System).rerouting? = s.rerouting? := by
    funext i
    exact congrArg _ (funext fun t => congrArg _ hback)
  refine conducts_of_routing
    ⟨steady_spawn hs₁ .console (fun _ => ⟨rfl, hempty⟩) fun _ => rfl, ?_⟩
  rw [startConsole, routing_spawn hs₁, routing, hsame]
  exact congrArg _ (Function.update_eq_self_iff.mpr (rerouting?_nextThread hs).symm)

/-- A command in bytes, which finds the attribute server as `g`. -/
theorem conducts_control (hs : s.Steady) (g : Option Gatt) (bytes : Bytes) (written : Bool) :
    s.Conducts (s.controlSigns bytes) (carryOut written (control { s with gatt := g } bytes)) := by
  have hg : s.Unmoved { s with gatt := g } := ⟨rfl, rfl, rfl, rfl⟩
  have idle {s₀ : System} (h : ({ s with gatt := g } : System).Unmoved s₀) : s.Conducts [] s₀ :=
    (hg.trans h).aside.conducts hs
  unfold controlSigns control
  cases ControlCommand.ofBytes? bytes with
  | none => exact idle (.refl _)
  | some command =>
    cases command with
    | link kind c => exact idle (Commanded.notifyLink _ kind c).unmoved
    | app c => exact idle (Commanded.notifyApp _ c).unmoved
    | makeDefault kind =>
      have hstart : ({ s with gatt := g } : System).startReroute kind =
          Reroute.start kind (s.link? kind).isSome := rfl
      have hstart' : s.startReroute kind = Reroute.start kind (s.link? kind).isSome := rfl
      rcases Routing.start_cases kind (s.link? kind).isSome with hp | ⟨e, hp⟩
      · have hnew := conducts_startChore hs hg rfl kind (s.link? kind).isSome written
        rw [hp] at hnew
        simp only [dispatch, asks, hstart, hstart', hp, Option.map_some, Option.getD_some]
        exact hnew
      · simp only [dispatch, asks, hstart, hstart', hp, Option.map_some, Option.getD_some]
        refine ⟨hg.aside.steady hs, .inl ?_, .inr ⟨by simp, rfl, fun _ => rfl⟩⟩
        rw [carryOut, hg.aside.routing]
        exact .refuse hp

theorem conducts_client (hs : s.Steady) (e : GattEvent) :
    s.Conducts (s.eventSigns e) (carryOut true (s.handleEvent e)) := by
  have idle {s₀ : System} (h : s.Unmoved s₀) : s.Conducts [] s₀ := h.aside.conducts hs
  unfold eventSigns handleEvent
  cases hgatt : s.gatt with
  | none => exact idle (.refl s)
  | some g =>
    have hg : s.Unmoved { s with gatt := some (g.handle e).1 } := ⟨rfl, rfl, rfl, rfl⟩
    dsimp only [Option.map_some]
    cases (g.handle e).2 with
    | answer r => exact idle hg
    | forward m r =>
      dsimp only
      split
      · exact idle (hg.trans (Commanded.postToBridge ‹_›).unmoved)
      · exact idle hg
    | control bytes =>
      dsimp only
      split
      · have hdone := conducts_control hs (some (g.handle e).1) bytes true
        -- how the client is answered is not a matter of the route
        split <;> rename_i heq <;> rw [heq] at hdone <;> exact hdone
      · exact idle hg

/-! ## Runs -/

theorem RouteStep.conducts (hs : s.Steady) (h : s.RouteStep signs s') : s.Conducts signs s' := by
  have aside {s' : System} (h : s.Aside s') : s.Conducts [] s' := h.conducts hs
  have still {s' : System} (h : s.Unmoved s') : s.Conducts [] s' := aside h.aside
  cases h with
  | step ht hm => exact conducts_step hs ht hm
  | start ht hm => exact conducts_start hs ht hm
  | answer a ht hm => exact conducts_answer hs ht hm a
  | makeDefault kind => exact conducts_startChore hs (.refl s) rfl kind _ false
  | control bytes => exact conducts_control hs s.gatt bytes false
  | client e => exact conducts_client hs e
  | console hnone => exact conducts_startConsole hs hnone
  | chore c hc =>
    have hr : (Role.chore c).reroutes = false := by
      cases c with
      | reroute r written => exact absurd rfl (hc r written)
      | _ => rfl
    have hplain : s.Unmoved { s with choreResult := none } := ⟨rfl, rfl, rfl, rfl⟩
    exact aside (hplain.aside.trans (aside_spawn _ .main hr none))
  | notifyLink kind c => exact still (Commanded.notifyLink s kind c).unmoved
  | notifyApp c => exact still (Commanded.notifyApp s c).unmoved
  | ipLost kind => exact still (Commanded.ipLost s kind).unmoved
  | brokerLost => exact still ⟨rfl, rfl, rfl, rfl⟩
  | brokerMessage payload => exact still ⟨rfl, rfl, rfl, rfl⟩
  | post hp => exact still (Commanded.postToBridge hp).unmoved
  | shutdown => exact aside (aside_spawn s _ rfl _)
  | job e => exact aside (aside_spawn s _ rfl _)
  | linkLimit _ _ _ => exact still (Commanded.setLink s _).unmoved
  | mqttLimit _ _ _ => exact still ⟨rfl, rfl, rfl, rfl⟩
  | @patience t e e' a a' ht he ha henter =>
    have hr : t.role.reroutes = false := by
      by_contra hr
      have hnone := (hs.threads _ t ht).errand (by simpa using hr)
      rw [hnone] at he
      cases he
    have hu : s.Unmoved { s with arbiter := some a' } := ⟨rfl, rfl, rfl, rfl⟩
    exact aside (hu.setThread ht hr rfl hr (.inl rfl))

/-- No change of the default link is on its way. -/
structure Unrouted (s : System) : Prop where
  steady : s.Steady
  idle : ∀ i, s.rerouting? i = none

theorem RouteRun.routing (h₀ : s₀.Steady) (h : s₀.RouteRun log s) :
    s.Steady ∧ s₀.routing.Run log s.routing := by
  induction h with
  | start => exact ⟨h₀, .start⟩
  | step _ hs ih =>
    obtain ⟨hsteady, hrun⟩ := ih
    obtain ⟨hsteady', hstep, -⟩ := hs.conducts hsteady
    refine ⟨hsteady', ?_⟩
    rcases hstep with hstep | ⟨rfl, hsame⟩
    · exact hrun.step hstep
    · rw [List.append_nil, hsame]
      exact hrun

/-- No thread has moved yet, and none is there to change the default link. -/
theorem unrouted_of_free (hfresh : s.Fresh)
    (hfree : ∀ i t, s.thread? i = some t → t.stage = .free ∧ t.role.reroutes = false) :
    s.Unrouted where
  steady := by
    have hcon : ∀ i t, s.thread? i = some t → t.role ≠ .console :=
      fun i t ht => console_of_reroutes (hfree i t ht).2
    refine ⟨hfresh, fun i t ht => .of_role (hfree i t ht).2 ?_, fun i _ t _ ht _ htr => ?_,
      fun i t ht htr => ?_⟩
    · rw [(hfree i t ht).1]
      rfl
    · exact absurd htr (hcon i t ht)
    · exact absurd htr (hcon i t ht)
  idle i := by
    rw [rerouting?]
    cases ht : s.thread? i with
    | none => rfl
    | some t =>
      rw [Option.bind_some, Thread.reroute?_eq_none (hfree i t ht).2]
      rfl

/-- A gateway that has been booted has the default link of its settings, and changes nothing yet. -/
theorem unrouted_of_boot {settings : Settings} {suffix : String} {p : Provided}
    (h : boot settings suffix p = .ok s) :
    s.Unrouted ∧ s.defaultLink = settings.defaultLink := by
  refine ⟨?_, (taken_of_boot h).2.2⟩
  have hb := booted h
  refine unrouted_of_free hb.manned.fresh fun i t ht => ?_
  obtain ⟨hfree, htask⟩ := hb.idle i t ht
  refine ⟨hfree, ?_⟩
  cases hrole : t.role <;> rw [hrole] at htask <;> first | rfl | cases htask

/-! ## The default link -/

/-- The default link follows the network stack. `boot` is the default before anything in `log`. -/
structure FollowsStack (s : System) (boot : LinkKind) (log : Log) : Prop where
  /-- between changes the default link is the one the stack accepted last -/
  settled : (∀ kind, ¬ s.routing.Pending kind) →
    s.defaultLink = (log.accepted.getLast?.map Prod.fst).getD boot
  /-- from the stack's answer until the change takes effect it is the one before -/
  pending : ∀ kind, s.routing.Pending kind → ∃ earlier servers,
    log.accepted = earlier ++ [(kind, servers)] ∧
      s.defaultLink = (earlier.getLast?.map Prod.fst).getD boot
  calls : ∀ who : Option Nat, Conducted ((who.bind s.rerouting?).map Prod.fst) (log.of who)
  effect : ∀ signs s', s.RouteStep signs s' → s.Effect s' signs

/-- In every run the default link follows the stack, and every call to change it is one that is
refused, one that the stack rejects, or one that sets the link's servers and then switches. -/
theorem follows_stack (h₀ : s₀.Unrouted) (h : s₀.RouteRun log s) :
    s.FollowsStack s₀.defaultLink log := by
  obtain ⟨hs, hrun⟩ := h.routing h₀.steady
  have hidle : s₀.routing.Idle := h₀.idle
  have hkept := Routing.kept_of_run hidle hrun
  have hcurrent : s.defaultLink = log.switches.getLast?.getD s₀.defaultLink := hkept.current
  refine ⟨fun hnone => ?_, fun kind hk => ?_, hkept.calls, fun signs s' hstep => ?_⟩
  · rw [hcurrent, ← hkept.settled hnone, List.getLast?_map]
  · obtain ⟨earlier, last, haccepted, hearlier, hlast⟩ :=
      List.map_eq_append_iff.mp (hkept.pending kind hk)
    obtain ⟨⟨kind', servers⟩, rfl, rfl⟩ := List.map_eq_singleton_iff.mp hlast
    refine ⟨earlier, servers, haccepted, ?_⟩
    rw [hcurrent, ← hearlier, List.getLast?_map]
  · exact (hstep.conducts hs).effect

/-! ### Runs by cue -/

/-- What happens next, of what a change of the default link is about. -/
inductive Cue where
  | makeDefault (kind : LinkKind)
  | control (bytes : Bytes)
  | move (i : Nat)
  | answer (i : Nat) (a : Answer)

/-- A cue, with what it shows of changes of the default link. -/
def follow (s : System) : Cue → Option (Log × System)
  | .makeDefault kind => some ([(some s.nextThread, .asked kind)],
      s.startChore (.reroute (s.startReroute kind) false))
  | .control bytes => some (s.controlSigns bytes, carryOut false (s.control bytes))
  | .move i => (s.go? i).map fun (t, c, s') => (if c.isNone then s.stepSigns t else [], s')
  | .answer i a => (s.inCall? i).map fun (t, c) => (s.answerSigns t c a, s.answer t c a)

theorem routeStep_of_follow {cue : Cue} (h : s.follow cue = some (signs, s')) :
    RouteStep s signs s' := by
  cases cue with
  | makeDefault kind =>
    cases h
    exact .makeDefault kind
  | control bytes =>
    cases h
    exact .control bytes
  | move i =>
    obtain ⟨⟨t, c, s'⟩, hgo, heq⟩ := Option.map_eq_some_iff.mp h
    obtain ⟨-, ht, hgoes⟩ := goesOn_of_go? hgo
    cases heq
    cases hgoes with
    | step hm => exact .step ht hm
    | start hm => exact .start ht hm
  | answer i a =>
    obtain ⟨⟨t, c⟩, hin, heq⟩ := Option.map_eq_some_iff.mp h
    obtain ⟨-, ht, hm⟩ := inside_of_inCall? hin
    cases heq
    exact .answer a ht hm

theorem RouteRun.play (h : s₀.RouteRun log s) (cues : List Cue) :
    s₀.RouteRun (play (logged follow) (log, s) cues).1 (play (logged follow) (log, s) cues).2 :=
  run_of_play_logged follow (fun _ _ _ _ _ h hfollow => h.step (routeStep_of_follow hfollow)) h cues

/-- A link that is up and publishes `dns`. -/
def upLink (kind : LinkKind) (ip : IpAddress) (dns : List IpAddress) : Link where
  kind
  policy := default
  status := .started
  addressing := ⟨some ip, dns⟩

/-- Wi-Fi has one server and the cellular link two. -/
def twoLinks : System where
  settings := {}
  wifi := some (upLink .wifi (.v4 192 168 1 20) [.v4 192 168 1 1])
  cellular := some (upLink .cellular (.v4 10 64 0 20) [.v4 10 64 0 1, .v4 10 64 0 9])
  mqtt := some { policy := default, operations := { depth := 8 } }
  defaultLink := .wifi

theorem unrouted_twoLinks : twoLinks.Unrouted := by
  have hnone : ∀ i, twoLinks.thread? i = none := fun _ => rfl
  refine unrouted_of_free (fun i _ => hnone i) fun i t ht => ?_
  rw [hnone] at ht
  cases ht

/-- A second change waits until the first has taken effect although a server was not accepted, and
is rejected then; a third is refused. -/
def contended : List Cue :=
  [.makeDefault .cellular, .move 0, .control [0x01, 4], .move 1,
    .answer 0 .done, .move 1, .move 0, .answer 0 (.failed (.other "busy")), .move 0,
    .answer 0 .done, .move 0, .move 1, .answer 1 (.failed (.other "gone")), .move 1, .move 0,
    .makeDefault .none, .move 2]

def contendedLog : Log :=
  [(some 0, .asked .cellular), (some 1, .asked .wifi),
    (some 0, .routed .cellular none [.v4 10 64 0 1, .v4 10 64 0 9]),
    (some 0, .served 0 (.v4 10 64 0 1) false), (some 0, .served 1 (.v4 10 64 0 9) true),
    (some 0, .switched .cellular),
    (some 1, .routed .wifi (some "gone") [.v4 192 168 1 1]),
    (some 1, .ended (.error (.netStack "gone"))),
    (some 0, .ended (.ok ())),
    (some 2, .asked .none), (some 2, .ended (.error (.invalidDefault .none)))]

theorem follows_stack_contended :
    (play (logged follow) ([], twoLinks) contended).1 = contendedLog ∧
    (play (logged follow) ([], twoLinks) contended).2.FollowsStack .wifi contendedLog ∧
    (play (logged follow) ([], twoLinks) contended).2.defaultLink = .cellular := by
  have hlog : (play (logged follow) ([], twoLinks) contended).1 = contendedLog := rfl
  have hrun := RouteRun.play (.start : twoLinks.RouteRun [] twoLinks) contended
  rw [hlog] at hrun
  exact ⟨hlog, follows_stack unrouted_twoLinks hrun, rfl⟩

/-! ## The resolver -/

/-- After a change on a stack that takes every server, the resolver holds just those of the new
default link exactly if no link that was made the default before had more of them. -/
theorem resolver_follows_iff (h₀ : s₀.Unrouted) (h : s₀.RouteRun log s) (hacc : log.Accepting)
    (hnone : ∀ kind, ¬ s.routing.Pending kind) {earlier : List (LinkKind × List IpAddress)}
    {kind : LinkKind} {servers : List IpAddress}
    (hlast : log.accepted = earlier ++ [(kind, servers)]) :
    s.defaultLink = kind ∧ ((∀ i, log.resolver i = servers[i]?) ↔
      ∀ link ∈ earlier, link.2.length ≤ servers.length) := by
  have hidle : s₀.routing.Idle := h₀.idle
  exact Routing.resolver_eq_iff hidle (h.routing h₀.steady).2 hacc hnone hlast

/-- Thread `i` carries out a change to a link with `count` servers, all of them accepted. -/
def Cue.change (i : Nat) (kind : LinkKind) (count : Nat) : List Cue :=
  .makeDefault kind :: .move i :: .answer i .done ::
    ((List.replicate count [.move i, .answer i .done]).flatten ++ [.move i, .move i])

/-- The default link becomes Wi-Fi, and then the cellular link. -/
def toCellular : Log × System :=
  play (logged follow) ([], twoLinks) (Cue.change 0 .wifi 1 ++ Cue.change 1 .cellular 2)

theorem resolver_follows_to_cellular : toCellular.2.defaultLink = .cellular ∧
    ∀ i, toCellular.1.resolver i = [IpAddress.v4 10 64 0 1, .v4 10 64 0 9][i]? := by
  have hrun := RouteRun.play (.start : twoLinks.RouteRun [] twoLinks)
    (Cue.change 0 .wifi 1 ++ Cue.change 1 .cellular 2)
  have hlog : toCellular.1 = [(some 0, .asked .wifi),
      (some 0, .routed .wifi none [.v4 192 168 1 1]), (some 0, .served 0 (.v4 192 168 1 1) true),
      (some 0, .switched .wifi), (some 0, .ended (.ok ())), (some 1, .asked .cellular),
      (some 1, .routed .cellular none [.v4 10 64 0 1, .v4 10 64 0 9]),
      (some 1, .served 0 (.v4 10 64 0 1) true), (some 1, .served 1 (.v4 10 64 0 9) true),
      (some 1, .switched .cellular), (some 1, .ended (.ok ()))] := rfl
  have hacc : toCellular.1.Accepting := by
    intro who index ip
    rw [hlog]
    simp
  have hnone : ∀ kind, ¬ toCellular.2.routing.Pending kind := by
    rintro kind ⟨i, p, hi, -⟩
    cases hi
  have hlast : toCellular.1.accepted = [(.wifi, [.v4 192 168 1 1])] ++
      [(.cellular, [.v4 10 64 0 1, .v4 10 64 0 9])] := rfl
  obtain ⟨hdefault, hiff⟩ := resolver_follows_iff unrouted_twoLinks hrun hacc hnone hlast
  refine ⟨hdefault, hiff.mpr fun link hlink => ?_⟩
  rw [List.mem_singleton.mp hlink]
  decide

/-- The other way round the cellular link's second server stays. -/
def toWifi : Log × System :=
  play (logged follow) ([], twoLinks) (Cue.change 0 .cellular 2 ++ Cue.change 1 .wifi 1)

def toWifiLog : Log :=
  [(some 0, .asked .cellular), (some 0, .routed .cellular none [.v4 10 64 0 1, .v4 10 64 0 9]),
    (some 0, .served 0 (.v4 10 64 0 1) true), (some 0, .served 1 (.v4 10 64 0 9) true),
    (some 0, .switched .cellular), (some 0, .ended (.ok ())), (some 1, .asked .wifi),
    (some 1, .routed .wifi none [.v4 192 168 1 1]), (some 1, .served 0 (.v4 192 168 1 1) true),
    (some 1, .switched .wifi), (some 1, .ended (.ok ()))]

theorem resolver_keeps_server :
    twoLinks.Unrouted ∧ twoLinks.RouteRun toWifiLog toWifi.2 ∧
    (∀ l ∈ toWifi.2.links, l.isUp = true) ∧ toWifiLog.Accepting ∧
    (∀ i, toWifi.2.rerouting? i = none) ∧ toWifi.2.defaultLink = .wifi ∧
    toWifi.2.published .wifi = [.v4 192 168 1 1] ∧
    toWifiLog.resolver 1 = some (.v4 10 64 0 9) := by
  have hrun := RouteRun.play (.start : twoLinks.RouteRun [] twoLinks)
    (Cue.change 0 .cellular 2 ++ Cue.change 1 .wifi 1)
  refine ⟨unrouted_twoLinks, hrun, ?_, ?_, fun _ => rfl, rfl, rfl, rfl⟩
  · decide
  · intro who index ip
    simp [toWifiLog]

end EdgeGateway.System
