import EdgeGateway.Proofs.Console.Pages
import EdgeGateway.Proofs.Gateway.Frame
import EdgeGateway.Proofs.Modem.Gateway

/-!
# EdgeGateway.Proofs.Console.Elsewhere

What goes on in a gateway away from the console.

* `System.roster`    : what is registered.
* `System.Elsewhere` : a move of another thread than the console's, or something from outside.
* `System.Stays`     : what is registered stays, and no other console comes.
* `System.Beside`    : the console and its thread stay as well. It is so after whatever happens
  elsewhere (`System.Elsewhere.beside`).
-/

namespace EdgeGateway

namespace System

variable {s s₀ s' : System} {t u : Thread} {i : Nat}

def roster (s : System) : Roster := ⟨s.links.map Link.kind, s.mqtt.isSome⟩

theorem roster_view (s : System) : s.view.roster = s.roster := by
  simp [View.roster, view, roster, Function.comp_def]

/-- `i` is the console's thread. The console is started once. -/
inductive Elsewhere (i : Nat) (s : System) : System → Prop where
  | step {t : Thread} {s' : System} : t.id ≠ i → s.thread? t.id = some t → s.next t = .step s' →
      Elsewhere i s s'
  | start {t : Thread} {c : Call} {s' : System} : t.id ≠ i → s.thread? t.id = some t →
      s.next t = .start c s' → Elsewhere i s s'
  | answer {t : Thread} {c : Call} (a : Answer) : t.id ≠ i → s.thread? t.id = some t →
      s.next t = .inside c → Elsewhere i s (s.answer t c a)
  | event {s' : System} : s.Event s' → s' ≠ s.startConsole → Elsewhere i s s'

/-- What is registered stays, and no other console comes. -/
structure Stays (s s' : System) : Prop where
  nextThread : s.nextThread ≤ s'.nextThread
  kinds : ∀ kind, (s'.link? kind).map Link.kind = (s.link? kind).map Link.kind
  app : s'.mqtt.isSome = s.mqtt.isSome
  consoles : ∀ j u, s'.thread? j = some u → u.role = .console →
    ∃ v, s.thread? j = some v ∧ v.role = .console

structure Beside (i : Nat) (s s' : System) : Prop extends Stays s s' where
  console : s'.console = s.console
  thread : s'.thread? i = s.thread? i

namespace Stays

theorem of_threads (ht : s'.threads = s.threads) (hn : s'.nextThread = s.nextThread)
    (hk : ∀ kind, (s'.link? kind).map Link.kind = (s.link? kind).map Link.kind)
    (ha : s'.mqtt.isSome = s.mqtt.isSome) : Stays s s' where
  nextThread := Nat.le_of_eq hn.symm
  kinds := hk
  app := ha
  consoles j u hu hr := ⟨u, by rwa [thread?, ← ht], hr⟩

theorem trans (h : Stays s s₀) (h' : Stays s₀ s') : Stays s s' where
  nextThread := Nat.le_trans h.nextThread h'.nextThread
  kinds kind := (h'.kinds kind).trans (h.kinds kind)
  app := h'.app.trans h.app
  consoles j u hu hr := by
    obtain ⟨v, hv, hvr⟩ := h'.consoles j u hu hr
    exact h.consoles j v hv hvr

theorem roster (h : Stays s s') : s'.roster = s.roster := by
  have hkind (kind : LinkKind) := congrArg Option.toList (h.kinds kind)
  have hwifi := hkind .wifi
  have hcellular := hkind .cellular
  simp only [link?, Option.toList_map] at hwifi hcellular
  rw [System.roster, System.roster, links, links, List.map_append, List.map_append, hwifi,
    hcellular, h.app]

theorem kinded (h : Stays s s') (hk : s.Kinded) : s'.Kinded := by
  intro kind l' hl'
  have hkind := h.kinds kind
  rw [hl'] at hkind
  obtain ⟨l, hl, heq⟩ := Option.map_eq_some_iff.mp hkind.symm
  exact heq.symm.trans (hk kind l hl)

theorem of_spares (hs : s.Spares none s') (hc : s.Commanded s') : Stays s s' :=
  of_threads hc.threads hc.nextThread hs.kinds (by
    simpa using congrArg Option.isSome (hs.mqtt nofun))

/-- If the thread is a console's, it is so in the place of one. -/
theorem setThread (s : System) (hr : u.role = .console →
    ∃ v, s.thread? u.id = some v ∧ v.role = .console) : Stays s (s.setThread u) := by
  refine ⟨Nat.le_refl _, fun _ => rfl, rfl, fun j v hv hvr => ?_⟩
  rw [thread?_setThread] at hv
  split at hv
  · rename_i hj
    obtain ⟨-, -, rfl⟩ := Option.map_eq_some_iff.mp hv
    exact hj ▸ hr hvr
  · exact ⟨v, hv, hvr⟩

theorem endThread (s : System) (t : Thread) : Stays s (s.endThread t) := by
  refine ⟨Nat.le_refl _, fun _ => rfl, rfl, fun j v hv hvr => ?_⟩
  rw [thread?_endThread] at hv
  split at hv
  · cases hv
  · exact ⟨v, hv, hvr⟩

theorem setConsole (h : Stays s s₀) (menu : Menu) (point : ConsolePoint) :
    Stays s (s₀.setConsole menu point) :=
  h.trans (.of_threads rfl rfl (fun _ => rfl) rfl)

end Stays

namespace Beside

theorem of_threads (ht : s'.threads = s.threads) (hn : s'.nextThread = s.nextThread)
    (hc : s'.console = s.console)
    (hk : ∀ kind, (s'.link? kind).map Link.kind = (s.link? kind).map Link.kind)
    (ha : s'.mqtt.isSome = s.mqtt.isSome) : Beside i s s' where
  toStays := .of_threads ht hn hk ha
  console := hc
  thread := by rw [thread?, ht, thread?]

theorem refl (s : System) : Beside i s s := of_threads rfl rfl rfl (fun _ => rfl) rfl

theorem trans (h : Beside i s s₀) (h' : Beside i s₀ s') : Beside i s s' where
  toStays := h.toStays.trans h'.toStays
  console := h'.console.trans h.console
  thread := h'.thread.trans h.thread

theorem of_spares (hs : s.Spares none s') (hc : s.Commanded s') : Beside i s s' where
  toStays := .of_spares hs hc
  console := hc.console
  thread := hc.alike.thread? i

theorem setThread (h : Beside i s s₀) (hi : u.id ≠ i) (hr : u.role ≠ .console) :
    Beside i s (s₀.setThread u) where
  toStays := h.toStays.trans (.setThread s₀ fun hu => absurd hu hr)
  console := h.console
  thread := by rw [thread?_setThread, if_neg hi.symm, h.thread]

theorem endThread (h : Beside i s s₀) (hi : t.id ≠ i) : Beside i s (s₀.endThread t) where
  toStays := h.toStays.trans (.endThread s₀ t)
  console := h.console
  thread := by rw [thread?_endThread, if_neg hi.symm, h.thread]

theorem spawn (h : Beside i s s₀) (hn : i < s.nextThread) (actor : Actor) (role : Role)
    (e : Option Errand) (hr : role ≠ .console) : Beside i s (s₀.spawn actor role e) := by
  have hnew (j : Nat) := thread?_spawn s₀ actor role e j
  have hn := Nat.lt_of_lt_of_le hn h.nextThread
  refine h.trans ⟨⟨Nat.le_succ _, fun _ => rfl, rfl, fun j v hv hvr => ?_⟩, rfl, ?_⟩
  · rw [hnew, Option.or_eq_some_iff] at hv
    rcases hv with hv | ⟨-, hv⟩
    · exact ⟨v, hv, hvr⟩
    · split at hv <;> cases hv
      exact absurd hvr hr
  · rw [hnew, if_neg (by omega), Option.or_none]

theorem setLink (hk : s.Kinded) {kind : LinkKind} {l l' : Link} (hl : s.link? kind = some l)
    (hl' : l'.kind = l.kind) : Beside i s (s.setLink l') := by
  have hc := Commanded.setLink s l'
  have hs := Spares.setLink hk hl hl'
  refine of_threads hc.threads hc.nextThread hc.console hs.kinds ?_
  simpa using congrArg Option.isSome (hs.mqtt nofun)

end Beside

end System

/-! ## Moves of other threads -/

/-- What comes of an intent leaves the console alone. -/
def Intent.IsBeside (i : Nat) (s : System) : Intent → Prop
  | .proceed s' => System.Beside i s s'
  | _ => True

namespace System

variable {s s₀ s' : System} {t : Thread} {i : Nat}

section Others

variable (hi : t.id ≠ i)
include hi

theorem isBeside_subscriberIntent (b : Subscriber) :
    (s.subscriberIntent t b).IsBeside i s := by
  have set (b' : Option Subscriber) : Beside i s { s with subscriber := b' } :=
    .of_threads rfl rfl rfl (fun _ => rfl) rfl
  unfold subscriberIntent
  dsimp only
  repeat' split
  all_goals first
    | trivial
    | exact set _
    | exact (set _).endThread hi
    | exact .of_threads rfl rfl rfl (fun _ => rfl) (by simp)

theorem isBeside_bridgeIntent (b : Bridge) : (s.bridgeIntent t b).IsBeside i s := by
  have set (b' : Bridge) : Beside i s { s with bridge := some b' } :=
    .of_threads rfl rfl rfl (fun _ => rfl) rfl
  unfold bridgeIntent
  dsimp only
  repeat' split
  all_goals first
    | trivial
    | exact set _
    | exact (set _).endThread hi

theorem beside_endChore (r : ChoreResult) : Beside i s (s.endChore t r) :=
  ((Beside.refl s).endThread hi).trans (.of_threads rfl rfl rfl (fun _ => rfl) rfl)

theorem isBeside_choreIntent (c : Chore) : (s.choreIntent t c).IsBeside i s := by
  have set {s₀ : System} (hb : Beside i s s₀) (r : Reroute) (written : Bool) :
      Beside i s (s₀.setThread { t with role := .chore (.reroute r written) }) :=
    hb.setThread hi nofun
  have switch (kind : LinkKind) : Beside i s (s.reroute kind) :=
    .of_threads rfl rfl rfl (fun _ => rfl) (by simp [System.reroute])
  unfold choreIntent rerouteIntent
  repeat' split
  all_goals first
    | trivial
    | exact beside_endChore hi _
    | exact set (switch _) _ _

theorem isBeside_shutdownIntent (p : ShutdownPoint) : (s.shutdownIntent t p).IsBeside i s := by
  have goOn {s₀ : System} (hb : Beside i s s₀) (p : ShutdownPoint) :
      Beside i s (s₀.setThread { t with role := .shutdown p }) :=
    hb.setThread hi nofun
  cases p with
  | notifying =>
    have hc : s.Commanded s.notifyAll := ⟨rfl, rfl, rfl, rfl, rfl, rfl, rfl⟩
    exact goOn (.of_spares (.notifyAll s) hc) _
  | tellingBridge =>
    simp only [shutdownIntent]
    split
    · exact goOn (.refl s) _
    · split
      · exact goOn (.of_spares (.postToBridge ‹_›) (.postToBridge ‹_›)) _
      · trivial
  | joining =>
    simp only [shutdownIntent]
    split
    · trivial
    · exact (Beside.refl s).endThread hi

variable (hr : t.role ≠ .console)
include hr

theorem isBeside_announce (hb : Beside i s s₀) (r : Reporter) (status : Status) :
    (s.announce t r status s₀).IsBeside i s := by
  rcases s.announce_cases t r status s₀ with ⟨_, hc⟩ | hc | hc <;> rw [hc]
  · trivial
  · trivial
  · exact hb.setThread hi hr

theorem isBeside_mqttIntent {task : Mqtt} (hm : s.mqtt = some task) :
    (s.mqttIntent t task).IsBeside i s := by
  have set (task' : Mqtt) (b : Option Subscriber) :
      Beside i s { s with mqtt := some task', subscriber := b } :=
    .of_threads rfl rfl rfl (fun _ => rfl) (by rw [hm]; rfl)
  unfold mqttIntent
  split
  · exact set _ _
  · exact isBeside_announce hi hr (set _ _) _ _
  all_goals dsimp only
  all_goals repeat' split
  all_goals first
    | trivial
    | exact set _ _
    | exact (set _ _).endThread hi

theorem beside_enterCall (c : Call) : Beside i s (s.enterCall t c) := by
  have hin : Beside i s (s.setThread { t with stage := .inside c }) :=
    (Beside.refl s).setThread hi hr
  unfold enterCall
  dsimp only
  split
  · exact hin.trans (.of_threads rfl rfl rfl (fun _ => rfl) rfl)
  · exact hin.trans (.of_threads rfl rfl rfl (fun _ => rfl) rfl)
  · exact hin

variable (hk : s.Kinded)
include hk

theorem isBeside_linkIntent {kind : LinkKind} {l : Link} (hl : s.link? kind = some l) :
    (s.linkIntent t l).IsBeside i s := by
  have go {l' : Link} (hl' : l'.kind = l.kind) : Beside i s (s.setLink l') := .setLink hk hl hl'
  unfold linkIntent
  split
  · exact go (Link.resume_kind l _)
  · exact isBeside_announce hi hr (go (Link.resume_kind l _)) _ _
  all_goals dsimp only
  all_goals repeat' split
  all_goals first
    | trivial
    | exact go (Link.resume_kind _ _)
    | exact (Beside.refl s).endThread hi

theorem isBeside_intent : (s.intent t).IsBeside i s := by
  unfold intent
  split
  · split
    · exact isBeside_linkIntent hi hr hk ‹_›
    · trivial
  · split
    · exact isBeside_mqttIntent hi hr ‹_›
    · trivial
  · split
    · exact isBeside_subscriberIntent hi _
    · trivial
  · split
    · exact isBeside_bridgeIntent hi _
    · trivial
  · exact absurd ‹_› hr
  · exact isBeside_choreIntent hi _
  · exact isBeside_shutdownIntent hi _
  · trivial

theorem beside_complete (hn : i < s.nextThread) (c : Completion) :
    Beside i s (s.complete t c) := by
  have told : Beside i s (s.setThread { t with told := t.told + 1 }) :=
    (Beside.refl s).setThread hi hr
  have setMqtt {task : Mqtt} (hm : s.mqtt = some task) (task' : Mqtt) (b : Option Subscriber) :
      Beside i s { s with mqtt := some task', subscriber := b } :=
    .of_threads rfl rfl rfl (fun _ => rfl) (by rw [hm]; rfl)
  unfold complete
  split
  · split
    · split
      · exact told
      · exact .setLink hk ‹_› (Link.resume_kind _ _)
    · exact .refl s
  · split
    · rename_i hm
      split
      · exact told
      · dsimp only
        split
        · exact setMqtt hm _ _
        · exact (setMqtt hm _ s.subscriber).spawn hn .subscriber .subscriber none nofun
        · exact setMqtt hm _ _
    · exact .refl s
  · exact .of_threads rfl rfl rfl (fun _ => rfl) rfl
  · exact .of_threads rfl rfl rfl (fun _ => rfl) rfl
  · exact absurd ‹_› hr
  · unfold choreComplete
    split
    · exact (Beside.refl s).setThread hi nofun
    · exact beside_endChore hi _
    · split
      · exact beside_endChore hi _
      · exact (Beside.refl s).setThread hi nofun
    all_goals exact beside_endChore hi _
  · split
    · exact ((Beside.refl s).endThread hi).trans (.of_threads rfl rfl rfl (fun _ => rfl) rfl)
    · exact .refl s
  · exact .refl s

variable (hn : i < s.nextThread)
include hn

theorem beside_errandMove (e : Errand) :
    (∀ s', s.errandMove t e = .step s' → Beside i s s') ∧
    ∀ c s', s.errandMove t e = .start c s' → Beside i s s' := by
  cases harb : s.arbiter with
  | none => simp [errandMove, harb]
  | some a =>
    have set (a' : Option Arbiter) {u : Thread} (hid : u.id = t.id) (hrole : u.role = t.role) :
        Beside i s ({ s with arbiter := a' }.setThread u) := by
      have ha : Beside i s { s with arbiter := a' } := .of_threads rfl rfl rfl (fun _ => rfl) rfl
      exact ha.setThread (hid ▸ hi) (hrole ▸ hr)
    have hcases := errandMove_cases (t := t) harb e
    constructor
    · intro s' hm
      rw [hm] at hcases
      cases hcases with
      | ended he =>
        have hset : Beside i s (s.setThread { t with errand := none }) :=
          (Beside.refl s).setThread hi hr
        exact hset.trans (beside_complete (t := { t with errand := none }) hi hr (hset.kinded hk)
          (Nat.lt_of_lt_of_le hn hset.nextThread) _)
      | skip _ _ => exact set _ rfl rfl
      | enter _ => exact set _ rfl rfl
    · intro c s' hm
      rw [hm] at hcases
      cases hcases with
      | call hc => exact beside_enterCall hi hr _

theorem beside_pushMove {handle : UInt16} {value : Bytes}
    (hm : s.pushMove t handle value = .step s') : Beside i s s' := by
  unfold pushMove at hm
  split at hm
  · cases hm
    exact beside_complete hi hr hk hn _
  · have hg (g : Gatt) : Beside i s { s with gatt := some g } :=
      .of_threads rfl rfl rfl (fun _ => rfl) rfl
    split at hm <;> cases hm
    · rename_i g _
      exact (hg g).trans (beside_complete hi hr ((hg g).kinded hk) hn _)
    · exact (hg _).setThread hi hr

theorem beside_step (hm : s.next t = .step s') : Beside i s s' := by
  unfold next at hm
  split at hm
  · cases hm
  · unfold tryCall at hm
    split at hm <;> cases hm
  · split at hm
    · exact (beside_errandMove hi hr hk hn _).1 s' hm
    · have hb := isBeside_intent hi hr hk
      split at hm
      · rename_i heq
        cases hm
        rwa [heq] at hb
      · unfold tryCall at hm
        split at hm <;> cases hm
      · cases hm
        exact (Beside.refl s).setThread hi hr
      · exact beside_pushMove hi hr hk hn hm
      · cases hm

theorem beside_start {c : Call} (hm : s.next t = .start c s') : Beside i s s' := by
  have enters {c' : Call} (hm : s.tryCall t c' = .start c s') : Beside i s s' := by
    unfold tryCall at hm
    split at hm <;> cases hm
    exact beside_enterCall hi hr _
  unfold next at hm
  split at hm
  · cases hm
  · exact enters hm
  · split at hm
    · exact (beside_errandMove hi hr hk hn _).2 c s' hm
    · split at hm
      · cases hm
      · exact enters hm
      · cases hm
      · unfold pushMove at hm
        split at hm
        · cases hm
        · split at hm <;> cases hm
      · cases hm

theorem beside_answer (c : Call) (a : Answer) : Beside i s (s.answer t c a) := by
  have hfree : Beside i s (s.setThread { t with stage := .free }) :=
    (Beside.refl s).setThread hi hr
  have done (x : Completion) : Beside i s ((s.setThread { t with stage := .free }).complete
      { t with stage := .free } x) :=
    hfree.trans (beside_complete (t := { t with stage := .free }) hi hr (hfree.kinded hk) hn x)
  unfold answer
  dsimp only
  split
  · split
    · rename_i e _ arbiter _
      have harb (a' : Option Arbiter) : Beside i (s.setThread { t with stage := .free })
          { s.setThread { t with stage := .free } with arbiter := a' } :=
        .of_threads rfl rfl rfl (fun _ => rfl) rfl
      exact hfree.trans ((harb _).setThread hi hr)
    · exact hfree
  · split <;> exact done _

end Others

/-! ## Whatever happens elsewhere -/

variable (hk : s.Kinded) (hn : i < s.nextThread)
include hk hn

/-- `i` is on no errand. -/
theorem Event.beside (h : s.Event s') (hne : s' ≠ s.startConsole)
    (he : ∀ t, s.thread? i = some t → t.errand = none)
    (hcon : ∀ j t, s.thread? j = some t → t.role = .console → j = i) : Beside i s s' := by
  cases h with
  | notifyLink kind c => exact .of_spares (.notifyLink hk kind c) (.notifyLink s kind c)
  | notifyApp c => exact .of_spares (.notifyApp s c) (.notifyApp s c)
  | ipLost kind => exact .of_spares (.ipLost hk kind) (.ipLost s kind)
  | brokerLost => exact .of_threads rfl rfl rfl (fun _ => rfl) (by simp [System.brokerLost])
  | brokerMessage payload => exact .of_threads rfl rfl rfl (fun _ => rfl) rfl
  | gatt e => exact .of_spares (.handleEvent hk e) (.handleEvent s e)
  | control bytes => exact .of_spares (.control hk bytes) (.control s bytes)
  | post hp => exact .of_spares (.postToBridge hp) (.postToBridge hp)
  | console => exact absurd rfl hne
  | chore c =>
    have hresult : Beside i s { s with choreResult := none } :=
      .of_threads rfl rfl rfl (fun _ => rfl) rfl
    exact hresult.spawn hn .main (.chore c) none nofun
  | shutdown => exact (Beside.refl s).spawn hn .shutdown (.shutdown .notifying) none nofun
  | job _ => exact (Beside.refl s).spawn hn .job .job _ nofun
  | linkLimit hl _ _ => exact .setLink hk hl (Link.resume_kind _ _)
  | mqttLimit hm _ _ => exact .of_threads rfl rfl rfl (fun _ => rfl) (by rw [hm]; rfl)
  | @patience t e e' a a' ht _ hte _ _ _ =>
    have hti : t.id ≠ i := by
      intro heq
      have hnone := he t (heq ▸ ht)
      rw [hnone] at hte
      cases hte
    have harb : Beside i s { s with arbiter := some a' } :=
      .of_threads rfl rfl rfl (fun _ => rfl) rfl
    exact harb.setThread hti fun hr => hti (hcon _ t ht hr)

theorem Elsewhere.beside (h : s.Elsewhere i s')
    (he : ∀ t, s.thread? i = some t → t.errand = none)
    (hcon : ∀ j t, s.thread? j = some t → t.role = .console → j = i) : Beside i s s' := by
  have other {t : Thread} (hi : t.id ≠ i) (ht : s.thread? t.id = some t) : t.role ≠ .console :=
    fun hr => hi (hcon _ t ht hr)
  cases h with
  | step hi ht hm => exact beside_step hi (other hi ht) hk hn hm
  | start hi ht hm => exact beside_start hi (other hi ht) hk hn hm
  | answer a hi ht _ => exact beside_answer hi (other hi ht) hk hn _ a
  | event h hne => exact h.beside hk hn hne he hcon

end System

end EdgeGateway
