import EdgeGateway.Proofs.Modem.Traffic
import EdgeGateway.System.Step

/-!
# EdgeGateway.Proofs.Threads

What the threads of the gateway leave alone.

* `System.thread?`     : the thread of a number.
* `System.engagement?` : its errand, and how far it is with the errand's call.
* `Intent.IsProper`    : what a task may ask for, and every task keeps to (`isProper_intent`).
* `System.Commanded`   : what no command and no event of the radio stack touches.
* `System.Undisturbed` : the arbiter and all errands are as they were. So it is after every move of
  a thread that has no errand and begins none.
-/

namespace EdgeGateway

def Thread.engagement (t : Thread) : Option (Errand × Stage) := t.errand.map (·, t.stage)

theorem Thread.engagement_eq_none {t : Thread} (h : t.errand = none) : t.engagement = none := by
  rw [engagement, h]
  rfl

/-- The thread is at a call of the modem's. -/
def Stage.isModem : Stage → Bool
  | .calling (.modem _) | .inside (.modem _) => true
  | _ => false

/-- What a task may ask for: it calls the modem through errands only, and they begin as requests.
Clients are told by pushes only. -/
def Intent.IsProper : Intent → Prop
  | .call (.modem _) | .call (.notify _) => False
  | .errand e => e.IsRequest (·.ppp = true)
  | _ => True

namespace System

def thread? (s : System) (i : Nat) : Option Thread := s.threads.find? (·.id = i)

def engagement? (s : System) (i : Nat) : Option (Errand × Stage) :=
  (s.thread? i).bind Thread.engagement

/-- The numbers of threads to come are new, and only errands take threads to the modem. -/
structure Orderly (s : System) : Prop where
  fresh : ∀ i, s.nextThread ≤ i → s.thread? i = none
  calm : ∀ i t, s.thread? i = some t → t.errand = none → t.stage.isModem = false

section Threads

variable {s : System} {t u : Thread}

theorem id_of_thread? {i : Nat} (h : s.thread? i = some t) : t.id = i := by
  simpa using List.find?_some h

@[simp] theorem setThread_arbiter (s : System) (t : Thread) :
    (s.setThread t).arbiter = s.arbiter := rfl

theorem thread?_setThread (s : System) (u : Thread) (i : Nat) :
    (s.setThread u).thread? i =
      if i = u.id then (s.thread? i).map fun _ => u else s.thread? i := by
  simp only [thread?, setThread]
  induction s.threads with
  | nil => simp
  | cons v ts ih =>
    simp only [List.map_cons, List.find?_cons, ih]
    by_cases hv : v.id = u.id
    · by_cases hi : i = u.id
      · simp [hv, hi]
      · have : ¬ u.id = i := fun h => hi h.symm
        simp [hv, hi, this]
    · by_cases hi : i = u.id <;> simp [hv, hi]

theorem thread?_endThread (s : System) (t : Thread) (i : Nat) :
    (s.endThread t).thread? i = if i = t.id then none else s.thread? i := by
  simp only [thread?, endThread]
  induction s.threads with
  | nil => simp
  | cons v ts ih =>
    by_cases hv : v.id = t.id
    · have hskip : (v :: ts).filter (·.id ≠ t.id) = ts.filter (·.id ≠ t.id) := by simp [hv]
      rw [hskip, ih]
      by_cases hi : i = t.id
      · simp [hi]
      · have : ¬ t.id = i := fun h => hi h.symm
        simp [hv, hi, this]
    · have hkeep : (v :: ts).filter (·.id ≠ t.id) = v :: ts.filter (·.id ≠ t.id) := by simp [hv]
      rw [hkeep, List.find?_cons, ih]
      by_cases hi : i = t.id
      · simp [hv, hi]
      · simp [hi, List.find?_cons]

theorem thread?_spawn (s : System) (actor : Actor) (role : Role) (e : Option Errand) (i : Nat) :
    (s.spawn actor role e).thread? i = (s.thread? i).or
      (if s.nextThread = i then some { id := s.nextThread, actor, role, errand := e }
       else none) := by
  simp only [thread?, spawn, List.find?_append, List.find?_cons, List.find?_nil]
  by_cases hn : s.nextThread = i <;> simp [hn]

theorem engagement?_of_thread? (h : s.thread? t.id = some t) :
    s.engagement? t.id = t.engagement := by
  rw [engagement?, h]
  rfl

/-- A thread takes the place of the one with its number. -/
theorem engagement?_setThread (h : s.thread? t.id = some t) (hu : u.id = t.id) :
    (s.setThread u).engagement? = Function.update s.engagement? t.id u.engagement := by
  funext i
  rw [engagement?, thread?_setThread, hu]
  by_cases hi : i = t.id
  · subst hi
    simp [h]
  · rw [if_neg hi, Function.update_of_ne hi, engagement?]

theorem engagement?_endThread :
    (s.endThread t).engagement? = Function.update s.engagement? t.id none := by
  funext i
  rw [engagement?, thread?_endThread]
  by_cases hi : i = t.id
  · subst hi
    simp
  · rw [if_neg hi, Function.update_of_ne hi, engagement?]

theorem engagement?_spawn (h : s.Orderly) (actor : Actor) (role : Role) (e : Option Errand) :
    (s.spawn actor role e).engagement? =
      Function.update s.engagement? s.nextThread (e.map (·, .free)) := by
  funext i
  rw [engagement?, thread?_spawn]
  by_cases hi : i = s.nextThread
  · subst hi
    simp [h.fresh _ (Nat.le_refl _), Thread.engagement]
  · have : ¬ s.nextThread = i := fun h => hi h.symm
    rw [if_neg this, Option.or_none, Function.update_of_ne hi, engagement?]

theorem engagement?_spawn_none (s : System) (actor : Actor) (role : Role) :
    (s.spawn actor role none).engagement? = s.engagement? := by
  funext i
  rw [engagement?, engagement?, thread?_spawn]
  cases s.thread? i with
  | some u => rfl
  | none => by_cases hn : s.nextThread = i <;> simp [hn, Thread.engagement]

theorem setThread_setThread (s : System) (t : Thread) {u : Thread} (hu : u.id = t.id) :
    (s.setThread t).setThread u = s.setThread u := by
  have h : (fun v : Thread => if v.id = u.id then u else v) ∘
      (fun v : Thread => if v.id = t.id then t else v) =
      fun v : Thread => if v.id = u.id then u else v := by
    funext v
    by_cases hv : v.id = t.id <;> simp [hv, hu]
  simp only [setThread, List.map_map, h]

theorem thread?_setThread_self (h : s.thread? t.id = some t) (hu : u.id = t.id) :
    (s.setThread u).thread? u.id = some u := by
  rw [thread?_setThread, if_pos rfl, hu, h]
  rfl

namespace Orderly

theorem of_eq {s' : System} (h : s.Orderly) (ht : s'.threads = s.threads)
    (hn : s'.nextThread = s.nextThread) : s'.Orderly where
  fresh i hi := by
    rw [thread?, ht]
    exact h.fresh i (hn ▸ hi)
  calm i t hi := h.calm i t (by rwa [thread?, ← ht])

theorem setThread (h : s.Orderly) (hu : u.errand = none → u.stage.isModem = false) :
    (s.setThread u).Orderly where
  fresh i hi := by
    rw [thread?_setThread, h.fresh i hi]
    split <;> rfl
  calm i v hv := by
    rw [thread?_setThread] at hv
    split at hv
    · obtain ⟨-, -, rfl⟩ := Option.map_eq_some_iff.mp hv
      exact hu
    · exact h.calm i v hv

theorem endThread (h : s.Orderly) (t : Thread) : (s.endThread t).Orderly where
  fresh i hi := by
    rw [thread?_endThread, h.fresh i hi]
    split <;> rfl
  calm i v hv := by
    rw [thread?_endThread] at hv
    split at hv
    · cases hv
    · exact h.calm i v hv

theorem spawn (h : s.Orderly) (actor : Actor) (role : Role) (e : Option Errand) :
    (s.spawn actor role e).Orderly where
  fresh i hi := by
    have hi : s.nextThread + 1 ≤ i := hi
    rw [thread?_spawn, h.fresh i (by omega), if_neg (by omega)]
    rfl
  calm i v hv := by
    rw [thread?_spawn] at hv
    cases ht : s.thread? i with
    | some u =>
      rw [ht] at hv
      cases hv
      exact h.calm i _ ht
    | none =>
      rw [ht, Option.none_or] at hv
      split at hv <;> cases hv
      exact fun _ => rfl

end Orderly

end Threads

/-- The same threads at the same arbiter. -/
structure Alike (s s' : System) : Prop where
  threads : s'.threads = s.threads
  arbiter : s'.arbiter = s.arbiter
  nextThread : s'.nextThread = s.nextThread

structure Undisturbed (s s' : System) : Prop where
  arbiter : s'.arbiter = s.arbiter
  engagement : s'.engagement? = s.engagement?
  orderly : s.Orderly → s'.Orderly

namespace Alike

variable {s s' : System}

theorem thread? (h : s.Alike s') (i : Nat) : s'.thread? i = s.thread? i := by
  rw [System.thread?, System.thread?, h.threads]

theorem undisturbed (h : s.Alike s') : s.Undisturbed s' where
  arbiter := h.arbiter
  engagement := by
    funext i
    rw [engagement?, engagement?, h.thread?]
  orderly ho := ho.of_eq h.threads h.nextThread

end Alike

/-- What no command and no event of the radio stack touches. -/
structure Commanded (s s' : System) : Prop where
  threads : s'.threads = s.threads
  nextThread : s'.nextThread = s.nextThread
  arbiter : s'.arbiter = s.arbiter
  subscriber : s'.subscriber = s.subscriber
  console : s'.console = s.console
  defaultLink : s'.defaultLink = s.defaultLink
  switch : s'.switch = s.switch

namespace Commanded

variable {s s₀ s' : System}

theorem refl (s : System) : s.Commanded s := ⟨rfl, rfl, rfl, rfl, rfl, rfl, rfl⟩

theorem trans (h : s.Commanded s₀) (h' : s₀.Commanded s') : s.Commanded s' :=
  ⟨h'.threads.trans h.threads, h'.nextThread.trans h.nextThread, h'.arbiter.trans h.arbiter,
    h'.subscriber.trans h.subscriber, h'.console.trans h.console,
    h'.defaultLink.trans h.defaultLink, h'.switch.trans h.switch⟩

theorem alike (h : s.Commanded s') : s.Alike s' := ⟨h.threads, h.arbiter, h.nextThread⟩

theorem setLink (s : System) (l : Link) : s.Commanded (s.setLink l) := by
  unfold System.setLink
  split <;> exact ⟨rfl, rfl, rfl, rfl, rfl, rfl, rfl⟩

theorem notifyLink (s : System) (kind : LinkKind) (c : Command) :
    s.Commanded (s.notifyLink kind c).1 := by
  unfold System.notifyLink
  split
  · exact setLink s _
  · exact .refl s

theorem notifyApp (s : System) (c : Command) : s.Commanded (s.notifyApp c).1 := by
  unfold System.notifyApp
  split <;> exact ⟨rfl, rfl, rfl, rfl, rfl, rfl, rfl⟩

theorem ipLost (s : System) (kind : LinkKind) : s.Commanded (s.ipLost kind).1 := by
  unfold System.ipLost
  split
  · exact setLink s _
  · exact .refl s

theorem dispatch (s : System) (c : ControlCommand) : s.Commanded (s.dispatch c).1 := by
  cases c with
  | link kind c => exact notifyLink s kind c
  | app c => exact notifyApp s c
  | makeDefault kind =>
    simp only [System.dispatch]
    split <;> exact .refl s

theorem control (s : System) (bytes : Bytes) : s.Commanded (s.control bytes).1 := by
  unfold System.control
  split
  · exact dispatch s _
  · exact .refl s

theorem postToBridge {m : BridgeMessage} (h : s.postToBridge m = some s') : s.Commanded s' := by
  unfold System.postToBridge at h
  split at h
  · cases h
    exact .refl s
  · obtain ⟨inbox, -, rfl⟩ := Option.map_eq_some_iff.mp h
    exact ⟨rfl, rfl, rfl, rfl, rfl, rfl, rfl⟩

theorem handleEvent (s : System) (e : GattEvent) : s.Commanded (s.handleEvent e).1 := by
  unfold System.handleEvent
  split
  · exact .refl s
  · rename_i g _
    have hg (g : Gatt) : s.Commanded { s with gatt := some g } :=
      ⟨rfl, rfl, rfl, rfl, rfl, rfl, rfl⟩
    dsimp only
    split
    · exact hg _
    · split
      · rename_i hpost
        exact (hg _).trans (postToBridge hpost)
      · exact hg _
    · split
      · have hc := control { s with gatt := some (g.handle e).1 } ‹_›
        split
        all_goals
          rename_i heq
          exact (hg _).trans (by rw [heq] at hc; exact hc)
      · exact hg _

end Commanded

namespace Alike

variable {s s' : System}

theorem consoleComplete (s : System) (c : Console) (a : Answer) :
    s.Alike (s.consoleComplete c a) := by
  unfold System.consoleComplete
  split
  case h_4 key _ =>
    dsimp only
    split
    · exact ⟨rfl, rfl, rfl⟩
    · rename_i command _
      obtain ⟨ht, ha, hn⟩ := (Commanded.dispatch s command).alike
      unfold afterCommand
      split <;> exact ⟨ht, ha, hn⟩
  all_goals exact ⟨rfl, rfl, rfl⟩

end Alike

section Announce

variable {s s' heard : System} {t : Thread} {r : Reporter} {status : Status}

/-- Listeners are told one by one, the status characteristic first. -/
theorem announce_cases (s : System) (t : Thread) (r : Reporter) (status : Status)
    (heard : System) :
    (∃ value, s.announce t r status heard = .push Handle.statusValue value) ∨
      s.announce t r status heard = .call (.status r status) ∨
      s.announce t r status heard = .proceed (heard.setThread { t with told := 0 }) := by
  unfold announce
  dsimp only
  split
  · exact .inl ⟨_, rfl⟩
  · exact .inr (.inl rfl)
  · exact .inr (.inr rfl)

theorem eq_of_announce_proceed (h : s.announce t r status heard = .proceed s') :
    s' = heard.setThread { t with told := 0 } := by
  rcases s.announce_cases t r status heard with ⟨_, hc⟩ | hc | hc <;> rw [hc] at h <;> cases h
  rfl

theorem eq_of_announce_call {c : Call} (h : s.announce t r status heard = .call c) :
    c = .status r status := by
  rcases s.announce_cases t r status heard with ⟨_, hc⟩ | hc | hc <;> rw [hc] at h <;> cases h
  rfl

theorem announce_ne_errand (e : Errand) : s.announce t r status heard ≠ .errand e := by
  intro h
  rcases s.announce_cases t r status heard with ⟨_, hc⟩ | hc | hc <;> rw [hc] at h <;> cases h

theorem announce_ne_wait : s.announce t r status heard ≠ .wait := by
  intro h
  rcases s.announce_cases t r status heard with ⟨_, hc⟩ | hc | hc <;> rw [hc] at h <;> cases h

end Announce

namespace Undisturbed

variable {s s₀ s' : System}

theorem trans (h : s.Undisturbed s₀) (h' : s₀.Undisturbed s') : s.Undisturbed s' where
  arbiter := h'.arbiter.trans h.arbiter
  engagement := h'.engagement.trans h.engagement
  orderly ho := h'.orderly (h.orderly ho)

theorem alike (h : s.Undisturbed s₀) (ha : s₀.Alike s') : s.Undisturbed s' :=
  h.trans ha.undisturbed

theorem spawn (h : s.Undisturbed s₀) (actor : Actor) (role : Role) :
    s.Undisturbed (s₀.spawn actor role none) where
  arbiter := h.arbiter
  engagement := (engagement?_spawn_none s₀ actor role).trans h.engagement
  orderly ho := (h.orderly ho).spawn actor role none

end Undisturbed

/-! ## What tasks ask for -/

section Intents

variable (s : System) (t : Thread)

theorem isProper_announce (r : Reporter) (status : Status) (heard : System) :
    (s.announce t r status heard).IsProper := by
  rcases s.announce_cases t r status heard with ⟨_, h⟩ | h | h <;> rw [h] <;> trivial

theorem isProper_linkIntent (l : Link) : (s.linkIntent t l).IsProper := by
  unfold linkIntent
  dsimp only
  split
  case h_2 => exact s.isProper_announce t _ _ _
  all_goals
    repeat' split
    all_goals trivial

theorem isProper_mqttIntent (task : Mqtt) : (s.mqttIntent t task).IsProper := by
  unfold mqttIntent
  dsimp only
  split
  case h_2 => exact s.isProper_announce t _ _ _
  all_goals
    repeat' split
    all_goals trivial

theorem isProper_subscriberIntent (b : Subscriber) : (s.subscriberIntent t b).IsProper := by
  unfold subscriberIntent
  dsimp only
  repeat' split
  all_goals trivial

theorem isProper_bridgeIntent (b : Bridge) : (s.bridgeIntent t b).IsProper := by
  unfold bridgeIntent
  dsimp only
  repeat' split
  all_goals trivial

theorem isProper_rerouteIntent (set : System → Reroute → System) (r : Reroute) :
    (s.rerouteIntent set r).IsProper := by
  unfold rerouteIntent
  split <;> trivial

theorem isProper_consoleIntent (c : Console) : (s.consoleIntent t c).IsProper := by
  unfold consoleIntent
  repeat' split
  all_goals first
    | trivial
    | exact s.isProper_rerouteIntent _ _

theorem isProper_choreIntent (c : Chore) : (s.choreIntent t c).IsProper := by
  unfold choreIntent
  repeat' split
  all_goals first
    | trivial
    | exact s.isProper_rerouteIntent _ _

theorem isProper_shutdownIntent (point : ShutdownPoint) :
    (s.shutdownIntent t point).IsProper := by
  unfold shutdownIntent
  dsimp only
  repeat' split
  all_goals trivial

theorem isProper_intent : (s.intent t).IsProper := by
  unfold intent
  repeat' split
  · exact s.isProper_linkIntent t _
  · trivial
  · exact s.isProper_mqttIntent t _
  · trivial
  · exact s.isProper_subscriberIntent t _
  · trivial
  · exact s.isProper_bridgeIntent t _
  · trivial
  · exact s.isProper_consoleIntent t _
  · trivial
  · exact s.isProper_choreIntent t _
  · exact s.isProper_shutdownIntent t _
  · trivial

end Intents

/-! ## A thread without an errand -/

section Free

variable {s s₀ s' : System} {t : Thread} (h : s.thread? t.id = some t) (he : t.errand = none)
include h he

theorem Alike.setThread (ha : s.Alike s₀) {u : Thread} (hu : u.id = t.id)
    (hue : u.errand = none) (hus : u.stage = t.stage ∨ u.stage.isModem = false) :
    s.Undisturbed (s₀.setThread u) := by
  have h₀ : s₀.thread? t.id = some t := (ha.thread? _).trans h
  obtain ⟨harb, heng, hord⟩ := ha.undisturbed
  refine ⟨harb, ?_, fun ho => (hord ho).setThread fun _ => ?_⟩
  rotate_left
  · exact hus.elim (fun hs => hs ▸ ho.calm _ t h he) id
  rw [engagement?_setThread h₀ hu, Thread.engagement_eq_none hue, heng,
    ← Thread.engagement_eq_none he, ← engagement?_of_thread? h, Function.update_eq_self]

theorem Alike.endThread (ha : s.Alike s₀) : s.Undisturbed (s₀.endThread t) := by
  obtain ⟨harb, heng, hord⟩ := ha.undisturbed
  refine ⟨harb, ?_, fun ho => (hord ho).endThread t⟩
  rw [engagement?_endThread, heng, ← Thread.engagement_eq_none he, ← engagement?_of_thread? h,
    Function.update_eq_self]

theorem undisturbed_announce {r : Reporter} {status : Status} (ha : s.Alike s₀)
    (hi : s.announce t r status s₀ = .proceed s') : s.Undisturbed s' := by
  cases eq_of_announce_proceed hi
  exact ha.setThread h he rfl he (.inl rfl)

theorem undisturbed_linkIntent {l : Link} (hi : s.linkIntent t l = .proceed s') :
    s.Undisturbed s' := by
  have go (l : Link) : s.Undisturbed (s.setLink l) := (Commanded.setLink s l).alike.undisturbed
  unfold linkIntent at hi
  split at hi
  · cases hi; exact go _
  · exact undisturbed_announce h he (Commanded.setLink s _).alike hi
  all_goals dsimp only at hi
  all_goals (repeat' split at hi) <;> cases hi
  all_goals first
    | exact go _
    | exact Alike.endThread h he ⟨rfl, rfl, rfl⟩

theorem undisturbed_mqttIntent {task : Mqtt} (hi : s.mqttIntent t task = .proceed s') :
    s.Undisturbed s' := by
  unfold mqttIntent at hi
  split at hi
  · cases hi; exact Alike.undisturbed ⟨rfl, rfl, rfl⟩
  · refine undisturbed_announce h he ?_ hi
    exact ⟨rfl, rfl, rfl⟩
  all_goals dsimp only at hi
  all_goals (repeat' split at hi) <;> cases hi
  all_goals first
    | exact Alike.undisturbed ⟨rfl, rfl, rfl⟩
    | exact Alike.endThread h he ⟨rfl, rfl, rfl⟩

theorem undisturbed_subscriberIntent {b : Subscriber}
    (hi : s.subscriberIntent t b = .proceed s') : s.Undisturbed s' := by
  unfold subscriberIntent at hi
  dsimp only at hi
  (repeat' split at hi) <;> cases hi
  all_goals first
    | exact Alike.undisturbed ⟨rfl, rfl, rfl⟩
    | exact Alike.endThread h he ⟨rfl, rfl, rfl⟩

theorem undisturbed_bridgeIntent {b : Bridge} (hi : s.bridgeIntent t b = .proceed s') :
    s.Undisturbed s' := by
  unfold bridgeIntent at hi
  dsimp only at hi
  (repeat' split at hi) <;> cases hi
  all_goals first
    | exact Alike.undisturbed ⟨rfl, rfl, rfl⟩
    | exact Alike.endThread h he ⟨rfl, rfl, rfl⟩

theorem undisturbed_consoleIntent {c : Console} (hi : s.consoleIntent t c = .proceed s') :
    s.Undisturbed s' := by
  unfold consoleIntent rerouteIntent at hi
  dsimp only at hi
  (repeat' split at hi) <;> cases hi
  all_goals first
    | exact Alike.undisturbed ⟨rfl, rfl, rfl⟩
    | exact Alike.endThread h he ⟨rfl, rfl, rfl⟩

theorem undisturbed_endChore (r : ChoreResult) : s.Undisturbed (s.endChore t r) :=
  (Alike.endThread h he ⟨rfl, rfl, rfl⟩).alike ⟨rfl, rfl, rfl⟩

theorem undisturbed_choreIntent {c : Chore} (hi : s.choreIntent t c = .proceed s') :
    s.Undisturbed s' := by
  unfold choreIntent rerouteIntent at hi
  dsimp only at hi
  (repeat' split at hi) <;> cases hi
  all_goals first
    | exact undisturbed_endChore h he _
    | (refine Alike.setThread h he ?_ ?_ ?_ ?_; exacts [⟨rfl, rfl, rfl⟩, rfl, he, .inl rfl])

theorem undisturbed_shutdownIntent {p : ShutdownPoint}
    (hi : s.shutdownIntent t p = .proceed s') : s.Undisturbed s' := by
  unfold shutdownIntent at hi
  dsimp only at hi
  cases p with
  | notifying =>
    cases hi
    refine Alike.setThread h he ?_ ?_ ?_ ?_
    exacts [⟨rfl, rfl, rfl⟩, rfl, he, .inl rfl]
  | tellingBridge =>
    dsimp only at hi
    split at hi
    · cases hi
      exact Alike.setThread h he ⟨rfl, rfl, rfl⟩ rfl he (.inl rfl)
    · split at hi <;> cases hi
      rename_i hpost
      exact Alike.setThread h he (Commanded.postToBridge hpost).alike rfl he (.inl rfl)
  | joining =>
    dsimp only at hi
    split at hi <;> cases hi
    exact Alike.endThread h he ⟨rfl, rfl, rfl⟩

/-- The task of the thread goes on by itself. -/
theorem undisturbed_intent (hi : s.intent t = .proceed s') : s.Undisturbed s' := by
  unfold intent at hi
  (repeat' split at hi) <;> first
    | cases hi
    | exact undisturbed_linkIntent h he hi
    | exact undisturbed_mqttIntent h he hi
    | exact undisturbed_subscriberIntent h he hi
    | exact undisturbed_bridgeIntent h he hi
    | exact undisturbed_consoleIntent h he hi
    | exact undisturbed_choreIntent h he hi
    | exact undisturbed_shutdownIntent h he hi

/-- The task of the thread gets what it asked for. -/
theorem undisturbed_complete (c : Completion) : s.Undisturbed (s.complete t c) := by
  have same : s.Alike s := ⟨rfl, rfl, rfl⟩
  have told : s.Undisturbed (s.setThread { t with told := t.told + 1 }) :=
    same.setThread h he rfl he (.inl rfl)
  have goes (role : Role) : s.Undisturbed (s.setThread { t with role }) :=
    same.setThread h he rfl he (.inl rfl)
  unfold complete
  split
  · split
    · split
      · exact told
      · exact (Commanded.setLink s _).alike.undisturbed
    · exact same.undisturbed
  · split
    · split
      · exact told
      · dsimp only
        split
        · exact Alike.undisturbed ⟨rfl, rfl, rfl⟩
        · refine Undisturbed.spawn (Alike.undisturbed ?_) _ _
          exact ⟨rfl, rfl, rfl⟩
        · exact Alike.undisturbed ⟨rfl, rfl, rfl⟩
    · exact same.undisturbed
  · exact Alike.undisturbed ⟨rfl, rfl, rfl⟩
  · exact Alike.undisturbed ⟨rfl, rfl, rfl⟩
  · split
    · exact (Alike.consoleComplete s _ _).undisturbed
    · exact same.undisturbed
  · unfold choreComplete
    split
    · exact goes _
    · exact undisturbed_endChore h he _
    · split
      · exact undisturbed_endChore h he _
      · exact goes _
    all_goals exact undisturbed_endChore h he _
  · split
    · exact (same.endThread h he).alike ⟨rfl, rfl, rfl⟩
    · exact same.undisturbed
  · exact same.undisturbed

theorem undisturbed_enterCall {c : Call} (hc : ∀ m, c ≠ .modem m) :
    s.Undisturbed (s.enterCall t c) := by
  have hstage : (Stage.inside c).isModem = false := by
    cases c <;> first | rfl | exact absurd rfl (hc _)
  have hin : s.Undisturbed (s.setThread { t with stage := .inside c }) :=
    Alike.setThread h he ⟨rfl, rfl, rfl⟩ rfl he (.inr hstage)
  unfold enterCall
  dsimp only
  split
  · exact hin.alike ⟨rfl, rfl, rfl⟩
  · exact hin.alike ⟨rfl, rfl, rfl⟩
  · exact hin

theorem undisturbed_pushMove {handle : UInt16} {value : Bytes}
    (hm : s.pushMove t handle value = .step s') : s.Undisturbed s' := by
  unfold pushMove at hm
  split at hm
  · cases hm
    exact undisturbed_complete h he _
  · split at hm <;> cases hm
    · rename_i g _
      have hg : ({ s with gatt := some g } : System).thread? t.id = some t := h
      refine (Alike.undisturbed ?_).trans (undisturbed_complete hg he (.pushed false))
      exact ⟨rfl, rfl, rfl⟩
    · refine Alike.setThread h he ?_ ?_ ?_ ?_
      exacts [⟨rfl, rfl, rfl⟩, rfl, he, .inr rfl]

theorem undisturbed_answer (c : Call) (a : Answer) : s.Undisturbed (s.answer t c a) := by
  have ht' : (s.setThread { t with stage := .free }).thread? t.id =
      some { t with stage := .free } :=
    thread?_setThread_self (u := { t with stage := .free }) h rfl
  have hout : s.Undisturbed (s.setThread { t with stage := .free }) :=
    Alike.setThread h he ⟨rfl, rfl, rfl⟩ rfl he (.inr rfl)
  have done (c : Completion) : s.Undisturbed
      ((s.setThread { t with stage := .free }).complete { t with stage := .free } c) :=
    hout.trans (undisturbed_complete (t := { t with stage := .free }) ht' he c)
  unfold answer
  dsimp only
  split
  · rename_i hsome
    rw [he] at hsome
    cases hsome
  · split <;> exact done _

/-- Every move of the thread, unless it begins an errand. -/
theorem undisturbed_next (hm : s.next t = .step s') : s.Undisturbed s' ∨
    ∃ e, t.stage = .free ∧ s.intent t = .errand e ∧
      s' = s.setThread { t with errand := some e } := by
  unfold next at hm
  split at hm
  · cases hm
  · unfold tryCall at hm
    split at hm <;> cases hm
  · rename_i hfree
    simp only [he] at hm
    split at hm
    · rename_i hi
      cases hm
      exact .inl (undisturbed_intent h he hi)
    · unfold tryCall at hm
      split at hm <;> cases hm
    · rename_i e hi
      cases hm
      exact .inr ⟨e, hfree, hi, rfl⟩
    · exact .inl (undisturbed_pushMove h he hm)
    · cases hm

theorem undisturbed_start {c : Call} (hs : t.stage.isModem = false)
    (hm : s.next t = .start c s') : s.Undisturbed s' := by
  have enters {c' : Call} (hc : ∀ m, c' ≠ .modem m) (hm : s.tryCall t c' = .start c s') :
      s.Undisturbed s' := by
    unfold tryCall at hm
    split at hm <;> cases hm
    exact undisturbed_enterCall h he hc
  unfold next at hm
  split at hm
  · cases hm
  · rename_i hstage
    refine enters (fun m hc => ?_) hm
    rw [hstage, hc] at hs
    cases hs
  · simp only [he] at hm
    split at hm
    · cases hm
    · rename_i hi
      have := s.isProper_intent t
      rw [hi] at this
      refine enters (fun m hc => ?_) hm
      rwa [hc] at this
    · cases hm
    · unfold pushMove at hm
      split at hm
      · cases hm
      · split at hm <;> cases hm
    · cases hm

end Free

end System

end EdgeGateway
