import EdgeGateway.Proofs.Modem.Thread
import EdgeGateway.Proofs.Route.Routing

/-!
# EdgeGateway.Proofs.Route.Thread

The threads of the gateway as callers that change the default route.

* `System.routing` : the default link, and how far each thread is with a change of it.
* `System.Steady`  : threads are at the network stack only for a change of the route, and in the
  call it asks for; there is one console.
* `System.Aside`   : nothing of this has changed. So it is after every move of a thread that is
  neither the console nor carries out a change (`System.aside_step`, `aside_start`,
  `aside_answer`).
-/

namespace EdgeGateway

/-- It carries out a change of the default route, or may come to it. -/
def Role.reroutes : Role → Bool
  | .console | .chore (.reroute _ _) => true
  | _ => false

theorem Role.reroutes_cases (role : Role) (h : role.reroutes = true) :
    role = .console ∨ ∃ r written, role = .chore (.reroute r written) := by
  cases role with
  | console => exact .inl rfl
  | chore c =>
    cases c with
    | reroute r written => exact .inr ⟨r, written, rfl⟩
    | _ => cases h
  | _ => cases h

def Console.reroute? (c : Console) : Option Reroute :=
  match c.point with
  | .rerouting r => some r
  | _ => none

/-- The change of the default route that a thread is about. -/
def Thread.reroute? (t : Thread) (console : Option Console) : Option Reroute :=
  match t.role with
  | .chore (.reroute r _) => some r
  | .console => console.bind Console.reroute?
  | _ => none

/-- At a call of the network stack's. -/
def Stage.isNet : Stage → Bool
  | .free => false
  | .calling c | .inside c => c.lock? = some .net

theorem Thread.reroute?_eq_none {t : Thread} (h : t.role.reroutes = false)
    (console : Option Console) : t.reroute? console = none := by
  unfold reroute?
  split <;> simp_all [Role.reroutes]

theorem Thread.reroute?_of_ne {t : Thread} (h : t.role ≠ .console)
    (console console' : Option Console) : t.reroute? console = t.reroute? console' := by
  unfold reroute?
  split
  · rfl
  · exact absurd ‹_› h
  · rfl

structure Thread.Steady (console : Option Console) (t : Thread) : Prop where
  quiet : t.reroute? console = none → t.stage.isNet = false
  busy : ∀ r, t.reroute? console = some r →
    t.stage = .free ∨ ∃ c, r.call? = some c ∧ t.stage = .inside c
  errand : t.role.reroutes = true → t.errand = none

/-- A thread that has nothing to do with the route only has to keep away from the stack. -/
theorem Thread.Steady.of_role {t : Thread} {console : Option Console}
    (hr : t.role.reroutes = false) (hs : t.stage.isNet = false) : t.Steady console where
  quiet _ := hs
  busy r h := by
    rw [Thread.reroute?_eq_none hr] at h
    cases h
  errand h := by
    rw [hr] at h
    cases h

theorem Thread.Steady.of_free {t : Thread} (hs : t.stage = .free) (he : t.errand = none)
    (console : Option Console) : t.Steady console where
  quiet _ := by
    rw [hs]
    rfl
  busy _ _ := .inl hs
  errand _ := he

theorem Thread.Steady.congr {t : Thread} {console console' : Option Console}
    (h : t.Steady console) (heq : t.reroute? console' = t.reroute? console) :
    t.Steady console' where
  quiet hnone := h.quiet (heq ▸ hnone)
  busy r hr := h.busy r (heq ▸ hr)
  errand := h.errand

/-- A change is in the call it asks for. -/
theorem Thread.Steady.call?_of_inside {t : Thread} {console : Option Console}
    (h : t.Steady console) {r : Reroute} (hr : t.reroute? console = some r) {c : Call}
    (hstage : t.stage = .inside c) : r.call? = some c := by
  rcases h.busy r hr with hfree | ⟨c', hc, hstage'⟩
  · rw [hstage] at hfree
    cases hfree
  · cases hstage.symm.trans hstage'
    exact hc

namespace System

def rerouting? (s : System) (i : Nat) : Option (Reroute × Bool) :=
  (s.thread? i).bind fun t => (t.reroute? s.console).map (·, t.stage.isNet)

def routing (s : System) : Routing := ⟨s.defaultLink, s.rerouting?⟩

structure Steady (s : System) : Prop where
  fresh : ∀ i, s.nextThread ≤ i → s.thread? i = none
  threads : ∀ i t, s.thread? i = some t → t.Steady s.console
  single : ∀ i j t u, s.thread? i = some t → s.thread? j = some u → t.role = .console →
    u.role = .console → i = j
  manned : ∀ i t, s.thread? i = some t → t.role = .console → s.console.isSome = true

/-- Nothing has changed about the default route. -/
structure Aside (s s' : System) : Prop where
  routing : s'.routing = s.routing
  steady : s.Steady → s'.Steady

/-- The same threads, console and default link. -/
structure Unmoved (s s' : System) : Prop where
  threads : s'.threads = s.threads
  nextThread : s'.nextThread = s.nextThread
  console : s'.console = s.console
  defaultLink : s'.defaultLink = s.defaultLink

variable {s s₀ s' : System} {t u : Thread}

theorem Aside.trans (h : s.Aside s₀) (h' : s₀.Aside s') : s.Aside s' where
  routing := h'.routing.trans h.routing
  steady hs := h'.steady (h.steady hs)

theorem Commanded.unmoved (h : s.Commanded s') : s.Unmoved s' :=
  ⟨h.threads, h.nextThread, h.console, h.defaultLink⟩

theorem console_of_reroutes {t : Thread} (h : t.role.reroutes = false) : t.role ≠ .console := by
  intro heq
  rw [heq] at h
  cases h

namespace Unmoved

theorem refl (s : System) : s.Unmoved s := ⟨rfl, rfl, rfl, rfl⟩

theorem trans (h : s.Unmoved s₀) (h' : s₀.Unmoved s') : s.Unmoved s' :=
  ⟨h'.threads.trans h.threads, h'.nextThread.trans h.nextThread, h'.console.trans h.console,
    h'.defaultLink.trans h.defaultLink⟩

theorem thread? (h : s.Unmoved s') (i : Nat) : s'.thread? i = s.thread? i := by
  rw [System.thread?, System.thread?, h.threads]

theorem rerouting? (h : s.Unmoved s') (i : Nat) : s'.rerouting? i = s.rerouting? i := by
  rw [System.rerouting?, System.rerouting?, h.thread?, h.console]

theorem aside (h : s.Unmoved s') : s.Aside s' where
  routing := by
    rw [System.routing, System.routing, h.defaultLink, funext h.rerouting?]
  steady hs := by
    refine ⟨fun i hi => ?_, fun i t ht => ?_, fun i j t u ht hu => ?_, fun i t ht => ?_⟩
    · rw [h.thread?]
      exact hs.fresh i (h.nextThread ▸ hi)
    · rw [h.thread?] at ht
      rw [h.console]
      exact hs.threads i t ht
    · rw [h.thread?] at ht hu
      exact hs.single i j t u ht hu
    · rw [h.thread?] at ht
      rw [h.console]
      exact hs.manned i t ht

end Unmoved

/-! ## One thread changes -/

/-- In the place of `t` there is `u` now, or nobody. Only the console's thread changes the
console. -/
structure Replaces (t : Thread) (u : Option Thread) (s s' : System) : Prop where
  threads : ∀ i, s'.thread? i = if i = t.id then u else s.thread? i
  nextThread : s'.nextThread = s.nextThread
  console : t.role ≠ .console → s'.console = s.console
  role : ∀ v, u = some v → v.role = .console → t.role = .console ∧ s'.console.isSome = true

namespace Replaces

variable {x : Option Thread}

theorem setThread (ht : s.thread? t.id = some t) (hthreads : s₀.threads = s.threads)
    (hnext : s₀.nextThread = s.nextThread) (hcon : t.role ≠ .console → s₀.console = s.console)
    (hid : u.id = t.id)
    (hrole : u.role = .console → t.role = .console ∧ s₀.console.isSome = true) :
    Replaces t (some u) s (s₀.setThread u) := by
  refine ⟨fun i => ?_, hnext, hcon, fun v hv => ?_⟩
  · have heq : s₀.thread? i = s.thread? i := by rw [System.thread?, System.thread?, hthreads]
    rw [thread?_setThread, hid, heq]
    split
    · rename_i hi
      rw [hi, ht]
      rfl
    · rfl
  · cases hv
    exact hrole

theorem endThread (hthreads : s₀.threads = s.threads) (hnext : s₀.nextThread = s.nextThread)
    (hcon : t.role ≠ .console → s₀.console = s.console) :
    Replaces t none s (s₀.endThread t) := by
  refine ⟨fun i => ?_, hnext, hcon, fun v hv => by cases hv⟩
  have heq : s₀.thread? i = s.thread? i := by rw [System.thread?, System.thread?, hthreads]
  rw [thread?_endThread, heq]

variable (h : Replaces t x s s') (ht : s.thread? t.id = some t)
include h ht

/-- What another thread is about does not change. -/
theorem reroute?_eq (hs : t.role = .console → s.Steady) {i : Nat} {v : Thread} (hne : i ≠ t.id)
    (hv : s.thread? i = some v) : v.reroute? s'.console = v.reroute? s.console := by
  by_cases hc : t.role = .console
  · refine Thread.reroute?_of_ne ?_ _ _
    intro hvc
    exact hne ((hs hc).single i t.id v t hv ht hvc hc)
  · rw [h.console hc]

theorem rerouting? (hs : t.role = .console → s.Steady) : s'.rerouting? =
    Function.update s.rerouting? t.id
      (x.bind fun v => (v.reroute? s'.console).map (·, v.stage.isNet)) := by
  funext i
  rw [System.rerouting?, h.threads]
  by_cases hi : i = t.id
  · rw [if_pos hi, hi, Function.update_self]
  · rw [if_neg hi, Function.update_of_ne hi, System.rerouting?]
    cases hv : s.thread? i with
    | none => rfl
    | some v => rw [Option.bind_some, Option.bind_some, h.reroute?_eq ht hs hi hv]

theorem steady (hs : s.Steady) (hx : ∀ v, x = some v → v.Steady s'.console) : s'.Steady := by
  have hcase : ∀ i v, s'.thread? i = some v → i = t.id ∧ x = some v ∨
      i ≠ t.id ∧ s.thread? i = some v := by
    intro i v hv
    rw [h.threads] at hv
    split at hv
    · exact .inl ⟨‹_›, hv⟩
    · exact .inr ⟨‹_›, hv⟩
  refine ⟨fun i hi => ?_, fun i v hv => ?_, fun i j v w hv hw hvr hwr => ?_, fun i v hv hvr => ?_⟩
  · have hnone := hs.fresh i (h.nextThread ▸ hi)
    rw [h.threads, if_neg, hnone]
    rintro rfl
    rw [ht] at hnone
    cases hnone
  · rcases hcase i v hv with ⟨-, hv⟩ | ⟨hne, hv⟩
    · exact hx v hv
    · exact (hs.threads i v hv).congr (h.reroute?_eq ht (fun _ => hs) hne hv)
  · rcases hcase i v hv with ⟨hi, hv⟩ | ⟨hi, hv⟩ <;> rcases hcase j w hw with ⟨hj, hw⟩ | ⟨hj, hw⟩
    · rw [hi, hj]
    · exact absurd (hs.single j t.id w t hw ht hwr (h.role v hv hvr).1) hj
    · exact absurd (hs.single i t.id v t hv ht hvr (h.role w hw hwr).1) hi
    · exact hs.single i j v w hv hw hvr hwr
  · rcases hcase i v hv with ⟨-, hv⟩ | ⟨hne, hv⟩
    · exact (h.role v hv hvr).2
    · by_cases hc : t.role = .console
      · exact absurd (hs.single i t.id v t hv ht hvr hc) hne
      · rw [h.console hc]
        exact hs.manned i v hv hvr

/-- The thread was about no change of the route and is about none now. -/
theorem aside (hc : t.role ≠ .console) (hdefault : s'.defaultLink = s.defaultLink)
    (hr : t.reroute? s.console = none)
    (hx : ∀ v, x = some v → v.role.reroutes = false ∧
      (v.stage = t.stage ∨ v.stage.isNet = false)) : s.Aside s' := by
  constructor
  · have hnone : (x.bind fun v => (v.reroute? s'.console).map (·, v.stage.isNet)) = none := by
      cases x with
      | none => rfl
      | some v =>
        rw [Option.bind_some, Thread.reroute?_eq_none (hx v rfl).1]
        rfl
    have hself : s.rerouting? t.id = none := by
      rw [System.rerouting?, ht, Option.bind_some, hr]
      rfl
    rw [System.routing, System.routing, hdefault, h.rerouting? ht fun heq => absurd heq hc, hnone,
      ← hself, Function.update_eq_self]
  · intro hs
    refine h.steady ht hs fun v hv => ?_
    obtain ⟨hrole, hstage⟩ := hx v hv
    refine .of_role hrole ?_
    rcases hstage with hstage | hstage
    · rw [hstage]
      exact (hs.threads _ t ht).quiet hr
    · exact hstage

end Replaces

namespace Unmoved

/-- A thread that has nothing to do with the route changes. -/
theorem setThread (h : s.Unmoved s₀) (ht : s.thread? t.id = some t)
    (hr : t.role.reroutes = false) (hid : u.id = t.id) (hur : u.role.reroutes = false)
    (hus : u.stage = t.stage ∨ u.stage.isNet = false) : s.Aside (s₀.setThread u) := by
  have hrep : Replaces t (some u) s (s₀.setThread u) :=
    .setThread ht h.threads h.nextThread (fun _ => h.console) hid fun hc =>
      absurd hc (console_of_reroutes hur)
  refine hrep.aside ht (console_of_reroutes hr) h.defaultLink (Thread.reroute?_eq_none hr _) ?_
  rintro v ⟨⟩
  exact ⟨hur, hus⟩

theorem endThread (h : s.Unmoved s₀) (ht : s.thread? t.id = some t)
    (hr : t.role.reroutes = false) : s.Aside (s₀.endThread t) := by
  have hrep : Replaces t none s (s₀.endThread t) :=
    .endThread h.threads h.nextThread fun _ => h.console
  refine hrep.aside ht (console_of_reroutes hr) h.defaultLink (Thread.reroute?_eq_none hr _) ?_
  intro v hv
  cases hv

end Unmoved

/-- There is one thread more, and one console still. -/
theorem steady_spawn (hs : s.Steady) (actor : Actor) {role : Role} {e : Option Errand}
    (hr : role = .console → s.console.isSome = true ∧
      ∀ i t, s.thread? i = some t → t.role ≠ .console)
    (he : role.reroutes = true → e = none) : (s.spawn actor role e).Steady := by
  have hcase : ∀ i t, (s.spawn actor role e).thread? i = some t → s.thread? i = some t ∨
      s.nextThread = i ∧ t.role = role ∧ t.stage = .free ∧ t.errand = e := by
    intro i t ht
    rw [thread?_spawn, Option.or_eq_some_iff] at ht
    rcases ht with ht | ⟨-, ht⟩
    · exact .inl ht
    · split at ht <;> cases ht
      exact .inr ⟨‹_›, rfl, rfl, rfl⟩
  refine ⟨fun i hi => ?_, fun i t ht => ?_, fun i j t u ht hu htr hur => ?_,
    fun i t ht htr => ?_⟩
  · have hi : s.nextThread + 1 ≤ i := hi
    rw [thread?_spawn, hs.fresh i (by omega), if_neg (by omega)]
    rfl
  · rcases hcase i t ht with ht | ⟨-, hrole, hfree, herr⟩
    · exact hs.threads i t ht
    · refine ⟨fun _ => by rw [hfree]; rfl, fun _ _ => .inl hfree, fun hre => ?_⟩
      rw [herr]
      exact he (hrole ▸ hre)
  · rcases hcase i t ht with ht | ⟨hi, htrole, -⟩ <;>
      rcases hcase j u hu with hu | ⟨hj, hurole, -⟩
    · exact hs.single i j t u ht hu htr hur
    · exact absurd htr ((hr (hurole ▸ hur)).2 i t ht)
    · exact absurd hur ((hr (htrole ▸ htr)).2 j u hu)
    · rw [← hi, hj]
  · rcases hcase i t ht with ht | ⟨-, htrole, -⟩
    · exact hs.manned i t ht htr
    · exact (hr (htrole ▸ htr)).1

theorem aside_spawn (s : System) (actor : Actor) {role : Role} (hr : role.reroutes = false)
    (e : Option Errand) : s.Aside (s.spawn actor role e) := by
  constructor
  · have hsame (i : Nat) : (s.spawn actor role e).rerouting? i = s.rerouting? i := by
      rw [rerouting?, rerouting?, thread?_spawn]
      cases hi : s.thread? i with
      | some w => rfl
      | none =>
        rw [Option.none_or]
        split
        · rw [Option.bind_some, Thread.reroute?_eq_none hr]
          rfl
        · rfl
    rw [routing, routing, funext hsame]
    rfl
  · intro hs
    refine steady_spawn hs actor (fun hcon => ?_) (fun hre => ?_)
    · rw [hcon] at hr
      cases hr
    · rw [hr] at hre
      cases hre

/-! ## Threads that have nothing to do with the route -/

end System

/-- What comes of an intent leaves the default route alone. -/
def Intent.IsAside (s : System) : Intent → Prop
  | .proceed s' => s.Aside s'
  | .call c => c.lock? ≠ some .net
  | _ => True

namespace System

variable {s s₀ s' : System} {t : Thread}

section Others

variable (h : s.thread? t.id = some t) (hr : t.role.reroutes = false)
include h hr

theorem Unmoved.isAside_announce (ha : s.Unmoved s₀) (r : Reporter) (status : Status) :
    (s.announce t r status s₀).IsAside s := by
  rcases s.announce_cases t r status s₀ with ⟨_, hc⟩ | hc | hc <;> rw [hc]
  · trivial
  · exact nofun
  · exact ha.setThread h hr rfl hr (.inl rfl)

omit h hr in
theorem lock?_askServers (m : Medium) (n : Nat) : (Call.askServers m n).lock? ≠ some .net := by
  cases m <;> exact nofun

theorem isAside_linkIntent (l : Link) : (s.linkIntent t l).IsAside s := by
  have go (l : Link) : (Intent.proceed (s.setLink l)).IsAside s :=
    (Commanded.setLink s l).unmoved.aside
  unfold linkIntent
  split
  · exact go _
  · exact (Commanded.setLink s _).unmoved.isAside_announce h hr _ _
  all_goals dsimp only
  all_goals repeat' split
  all_goals first
    | exact go _
    | exact (Unmoved.refl s).endThread h hr
    | trivial
    | exact lock?_askServers _ _
    | (intro hnet; cases hnet)

theorem isAside_mqttIntent (task : Mqtt) : (s.mqttIntent t task).IsAside s := by
  unfold mqttIntent
  split
  · exact Unmoved.aside ⟨rfl, rfl, rfl, rfl⟩
  · refine Unmoved.isAside_announce h hr ?_ _ _
    exact ⟨rfl, rfl, rfl, rfl⟩
  all_goals dsimp only
  all_goals repeat' split
  all_goals first
    | exact Unmoved.aside ⟨rfl, rfl, rfl, rfl⟩
    | exact Unmoved.endThread ⟨rfl, rfl, rfl, rfl⟩ h hr
    | trivial
    | (intro hnet; cases hnet)

theorem isAside_subscriberIntent (b : Subscriber) : (s.subscriberIntent t b).IsAside s := by
  unfold subscriberIntent
  dsimp only
  repeat' split
  all_goals first
    | exact Unmoved.aside ⟨rfl, rfl, rfl, rfl⟩
    | exact Unmoved.endThread ⟨rfl, rfl, rfl, rfl⟩ h hr
    | trivial
    | (intro hnet; cases hnet)

theorem isAside_bridgeIntent (b : Bridge) : (s.bridgeIntent t b).IsAside s := by
  unfold bridgeIntent
  dsimp only
  repeat' split
  all_goals first
    | exact Unmoved.aside ⟨rfl, rfl, rfl, rfl⟩
    | exact Unmoved.endThread ⟨rfl, rfl, rfl, rfl⟩ h hr
    | trivial
    | (intro hnet; cases hnet)

theorem aside_endChore (r : ChoreResult) : s.Aside (s.endChore t r) :=
  ((Unmoved.refl s).endThread h hr).trans (Unmoved.aside ⟨rfl, rfl, rfl, rfl⟩)

theorem isAside_choreIntent {c : Chore} (hc : t.role = .chore c) :
    (s.choreIntent t c).IsAside s := by
  cases c with
  | reroute r written =>
    rw [hc] at hr
    cases hr
  | _ =>
    simp only [choreIntent]
    repeat' split
    all_goals first
      | exact aside_endChore h hr _
      | trivial
      | (intro hnet; cases hnet)

theorem isAside_shutdownIntent (p : ShutdownPoint) : (s.shutdownIntent t p).IsAside s := by
  have goOn {s₀ : System} (ha : s.Unmoved s₀) (p : ShutdownPoint) :
      s.Aside (s₀.setThread { t with role := .shutdown p }) :=
    ha.setThread h hr rfl rfl (.inl rfl)
  cases p with
  | notifying =>
    have hall : s.Unmoved s.notifyAll := ⟨rfl, rfl, rfl, rfl⟩
    exact goOn hall _
  | tellingBridge =>
    simp only [shutdownIntent]
    split
    · exact goOn (.refl s) _
    · split
      · exact goOn (Commanded.postToBridge ‹_›).unmoved _
      · trivial
  | joining =>
    simp only [shutdownIntent]
    split
    · trivial
    · exact (Unmoved.refl s).endThread h hr

theorem isAside_intent : (s.intent t).IsAside s := by
  unfold intent
  split
  · split
    · exact isAside_linkIntent h hr _
    · trivial
  · split
    · exact isAside_mqttIntent h hr _
    · trivial
  · split
    · exact isAside_subscriberIntent h hr _
    · trivial
  · split
    · exact isAside_bridgeIntent h hr _
    · trivial
  · rename_i hrole
    exact absurd hrole (console_of_reroutes hr)
  · exact isAside_choreIntent h hr ‹_›
  · exact isAside_shutdownIntent h hr _
  · trivial

theorem aside_complete (c : Completion) : s.Aside (s.complete t c) := by
  have told : s.Aside (s.setThread { t with told := t.told + 1 }) :=
    (Unmoved.refl s).setThread h hr rfl hr (.inl rfl)
  have plain {s₀ : System} (hs : s.Unmoved s₀) : s.Aside s₀ := hs.aside
  unfold complete
  split
  · split
    · split
      · exact told
      · exact plain (Commanded.setLink s _).unmoved
    · exact plain (.refl s)
  · split
    · split
      · exact told
      · dsimp only
        split
        · exact plain ⟨rfl, rfl, rfl, rfl⟩
        · refine (plain ?_).trans (aside_spawn _ _ rfl _)
          exact ⟨rfl, rfl, rfl, rfl⟩
        · exact plain ⟨rfl, rfl, rfl, rfl⟩
    · exact plain (.refl s)
  · exact plain ⟨rfl, rfl, rfl, rfl⟩
  · exact plain ⟨rfl, rfl, rfl, rfl⟩
  · rename_i hrole
    exact absurd hrole (console_of_reroutes hr)
  · rename_i chore hrole
    unfold choreComplete
    split
    · rw [hrole] at hr
      cases hr
    · exact aside_endChore h hr _
    · split
      · exact aside_endChore h hr _
      · exact (Unmoved.refl s).setThread h hr rfl rfl (.inl rfl)
    all_goals exact aside_endChore h hr _
  · split
    · refine ((Unmoved.refl s).endThread h hr).trans (Unmoved.aside ?_)
      exact ⟨rfl, rfl, rfl, rfl⟩
    · exact plain (.refl s)
  · exact plain (.refl s)

theorem aside_enterCall {c : Call} (hc : c.lock? ≠ some .net) : s.Aside (s.enterCall t c) := by
  have hstage : (Stage.inside c).isNet = false := decide_eq_false hc
  have hin : s.Aside (s.setThread { t with stage := .inside c }) :=
    (Unmoved.refl s).setThread h hr rfl hr (.inr hstage)
  unfold enterCall
  dsimp only
  split
  · exact hin.trans (Unmoved.aside ⟨rfl, rfl, rfl, rfl⟩)
  · exact hin.trans (Unmoved.aside ⟨rfl, rfl, rfl, rfl⟩)
  · exact hin

theorem aside_errandMove {e : Errand} : (∀ s', s.errandMove t e = .step s' → s.Aside s') ∧
    ∀ c s', s.errandMove t e = .start c s' → s.Aside s' := by
  have set {s₀ : System} {u : Thread} (hid : u.id = t.id) (hrole : u.role = t.role)
      (hst : u.stage = t.stage) (ha : s.Unmoved s₀) : s.Aside (s₀.setThread u) :=
    ha.setThread h hr hid (hrole ▸ hr) (.inl hst)
  cases harb : s.arbiter with
  | none => simp [errandMove, harb]
  | some a =>
    have hcases := errandMove_cases (t := t) harb e
    constructor
    · intro s' hm
      rw [hm] at hcases
      cases hcases with
      | ended he =>
        have ht' : (s.setThread { t with errand := none }).thread? t.id =
            some { t with errand := none } := thread?_setThread_self h rfl
        exact (set (u := { t with errand := none }) rfl rfl rfl (.refl s)).trans
          (aside_complete (t := { t with errand := none }) ht' hr _)
      | skip _ _ => exact set rfl rfl rfl ⟨rfl, rfl, rfl, rfl⟩
      | enter _ => exact set rfl rfl rfl ⟨rfl, rfl, rfl, rfl⟩
    · intro c s' hm
      rw [hm] at hcases
      cases hcases with
      | call hc => exact aside_enterCall h hr nofun

theorem aside_pushMove {handle : UInt16} {value : Bytes}
    (hm : s.pushMove t handle value = .step s') : s.Aside s' := by
  unfold pushMove at hm
  split at hm
  · cases hm
    exact aside_complete h hr _
  · split at hm <;> cases hm
    · rename_i g _
      have hg : ({ s with gatt := some g } : System).thread? t.id = some t := h
      refine (Unmoved.aside ?_).trans (aside_complete hg hr (.pushed false))
      exact ⟨rfl, rfl, rfl, rfl⟩
    · refine Unmoved.setThread ?_ h hr rfl hr (.inr rfl)
      exact ⟨rfl, rfl, rfl, rfl⟩

theorem aside_step (hm : s.next t = .step s') : s.Aside s' := by
  unfold next at hm
  split at hm
  · cases hm
  · unfold tryCall at hm
    split at hm <;> cases hm
  · split at hm
    · exact (aside_errandMove h hr).1 s' hm
    · have hi := isAside_intent h hr
      split at hm
      · rename_i heq
        cases hm
        rwa [heq] at hi
      · unfold tryCall at hm
        split at hm <;> cases hm
      · cases hm
        exact (Unmoved.refl s).setThread h hr rfl hr (.inl rfl)
      · exact aside_pushMove h hr hm
      · cases hm

theorem aside_start (hq : t.stage.isNet = false) {c : Call} (hm : s.next t = .start c s') :
    s.Aside s' := by
  have enters {c' : Call} (hc : c'.lock? ≠ some .net) (hm : s.tryCall t c' = .start c s') :
      s.Aside s' := by
    unfold tryCall at hm
    split at hm <;> cases hm
    exact aside_enterCall h hr hc
  unfold next at hm
  split at hm
  · cases hm
  · rename_i hstage
    rw [hstage] at hq
    exact enters (of_decide_eq_false hq) hm
  · split at hm
    · exact (aside_errandMove h hr).2 c s' hm
    · have hi := isAside_intent h hr
      split at hm
      · cases hm
      · rename_i heq
        rw [heq] at hi
        exact enters hi hm
      · cases hm
      · unfold pushMove at hm
        split at hm
        · cases hm
        · split at hm <;> cases hm
      · cases hm

theorem aside_answer (c : Call) (a : Answer) : s.Aside (s.answer t c a) := by
  have hfree : s.Aside (s.setThread { t with stage := .free }) :=
    (Unmoved.refl s).setThread h hr rfl hr (.inr rfl)
  have ht' : (s.setThread { t with stage := .free }).thread? t.id =
      some { t with stage := .free } := thread?_setThread_self h rfl
  have done (x : Completion) : s.Aside ((s.setThread { t with stage := .free }).complete
      { t with stage := .free } x) :=
    hfree.trans (aside_complete (t := { t with stage := .free }) ht' hr x)
  unfold answer
  dsimp only
  split
  · split
    · refine hfree.trans (Unmoved.setThread ?_ (t := { t with stage := .free }) ht' hr rfl hr
        (.inl rfl))
      exact ⟨rfl, rfl, rfl, rfl⟩
    · exact hfree
  · split <;> exact done _

end Others

end System

end EdgeGateway
