import EdgeGateway.Proofs.Link.Thread

/-!
# EdgeGateway.Proofs.Gateway.Frame

What the tasks of a gateway leave to each other.

* `Task`          : the tasks that a shutdown waits for.
* `System.Spares` : of all tasks but one nothing changes, except what has been delivered to them.
* `Intent.asked?` : what a task waits to be given. It stays what it is while others move
  (`System.Spares.asked?_eq`).
-/

namespace EdgeGateway

inductive Task where
  | link (kind : LinkKind)
  | bridge
  | mqtt
  deriving DecidableEq

def Role.task? : Role → Option Task
  | .link kind => some (.link kind)
  | .bridge => some .bridge
  | .mqtt => some .mqtt
  | _ => none

theorem Role.isTask_eq (r : Role) : r.isTask = r.task?.isSome := by
  cases r <;> rfl

/-- What a gateway runs by itself. Jobs and the other chores are asked for from outside. -/
def Role.isOwn : Role → Bool
  | .job => false
  | .chore (.reroute _ _) => true
  | .chore _ => false
  | _ => true

theorem Role.isOwn_of_isTask {r : Role} (h : r.isTask = true) : r.isOwn = true := by
  cases r <;> first | rfl | cases h

/-! ## Without what is delivered -/

def Link.own (l : Link) : Link := { l with pending := {} }

def Mqtt.own (t : Mqtt) : Mqtt := { t with pending := {}, operations := { depth := 0 } }

def Bridge.own (b : Bridge) : Bridge := { b with inbox := { depth := 0 } }

@[simp] theorem Link.own_notify (l : Link) (c : Command) : (l.notify c).own = l.own := rfl

@[simp] theorem Link.own_ipLost (l : Link) : l.ipLost.own = l.own := rfl

@[simp] theorem Mqtt.own_offer (t : Mqtt) (op : Mqtt.Operation) : (t.offer op).own = t.own := rfl

@[simp] theorem Mqtt.own_notify (t : Mqtt) (c : Command) : (t.notify c).own = t.own := by
  unfold Mqtt.notify
  split
  · split <;> rfl
  · rfl

theorem Link.eq_of_own {l l' : Link} (h : l'.own = l.own) :
    l' = { l with pending := l'.pending } := by
  cases l
  cases l'
  simp only [own, Link.mk.injEq] at h
  simp [h]

theorem Mqtt.eq_of_own {t t' : Mqtt} (h : t'.own = t.own) :
    t' = { t with pending := t'.pending, operations := t'.operations } := by
  cases t
  cases t'
  simp only [own, Mqtt.mk.injEq] at h
  simp [h]

theorem Bridge.eq_of_own {b b' : Bridge} (h : b'.own = b.own) :
    b' = { b with inbox := b'.inbox } := by
  cases b
  cases b'
  simp only [own, Bridge.mk.injEq] at h
  simp [h]

namespace System

/-- Each link is registered under its kind. -/
def Kinded (s : System) : Prop := ∀ kind l, s.link? kind = some l → l.kind = kind

/-- The task has come to its end, or there is none. -/
def Over (s : System) : Task → Prop
  | .link kind => ∀ l, s.link? kind = some l → l.point = .finished
  | .bridge => ∀ b, s.bridge = some b → b.point = .finished
  | .mqtt => ∀ t, s.mqtt = some t → t.point = .finished

/-- Of all tasks but `k` nothing changes, except what has been delivered to them. -/
structure Spares (k : Option Task) (s s' : System) : Prop where
  settings : s'.settings = s.settings
  clientSuffix : s'.clientSuffix = s.clientSuffix
  plainWifi : s'.plainWifi = s.plainWifi
  observed : s'.observed = s.observed
  gatt : s'.gatt.isSome = s.gatt.isSome
  kinds : ∀ kind, (s'.link? kind).map Link.kind = (s.link? kind).map Link.kind
  link : ∀ kind, k ≠ some (.link kind) →
    (s'.link? kind).map Link.own = (s.link? kind).map Link.own
  bridge : k ≠ some .bridge → s'.bridge.map Bridge.own = s.bridge.map Bridge.own
  mqtt : k ≠ some .mqtt → s'.mqtt.map Mqtt.own = s.mqtt.map Mqtt.own

theorem Kinded.link?_setLink {s : System} (hk : s.Kinded) {kind : LinkKind} {l l' : Link}
    (h : s.link? kind = some l) (hl : l'.kind = l.kind) (kind' : LinkKind) :
    (s.setLink l').link? kind' = if kind' = kind then some l' else s.link? kind' := by
  have hkind : l'.kind = kind := hl.trans (hk _ _ h)
  cases kind with
  | none => cases h
  | _ => cases kind' <;> simp [setLink, hkind, link?]

namespace Spares

variable {k : Option Task} {s s₁ s' : System}

theorem refl (k : Option Task) (s : System) : Spares k s s :=
  ⟨rfl, rfl, rfl, rfl, rfl, fun _ => rfl, fun _ _ => rfl, fun _ => rfl, fun _ => rfl⟩

/-- What no task reads of its own is free to change. -/
theorem aside (h : s' = { s with
      subscriber := s'.subscriber, switch := s'.switch, arbiter := s'.arbiter
      defaultLink := s'.defaultLink, controlled := s'.controlled, console := s'.console
      threads := s'.threads, nextThread := s'.nextThread, outcomes := s'.outcomes
      choreResult := s'.choreResult }) : Spares k s s' := by
  rw [h]
  exact ⟨rfl, rfl, rfl, rfl, rfl, fun _ => rfl, fun _ _ => rfl, fun _ => rfl, fun _ => rfl⟩

theorem trans (h : Spares k s s₁) (h' : Spares k s₁ s') : Spares k s s' where
  settings := h'.settings.trans h.settings
  clientSuffix := h'.clientSuffix.trans h.clientSuffix
  plainWifi := h'.plainWifi.trans h.plainWifi
  observed := h'.observed.trans h.observed
  gatt := h'.gatt.trans h.gatt
  kinds kind := (h'.kinds kind).trans (h.kinds kind)
  link kind hk := (h'.link kind hk).trans (h.link kind hk)
  bridge hk := (h'.bridge hk).trans (h.bridge hk)
  mqtt hk := (h'.mqtt hk).trans (h.mqtt hk)

theorem of_none (h : Spares none s s') : Spares k s s' :=
  { h with
    link := fun kind _ => h.link kind nofun
    bridge := fun _ => h.bridge nofun
    mqtt := fun _ => h.mqtt nofun }

theorem kinded (h : Spares k s s') (hk : s.Kinded) : s'.Kinded := by
  intro kind l' hl'
  have hkind := h.kinds kind
  rw [hl'] at hkind
  obtain ⟨l, hl, heq⟩ := Option.map_eq_some_iff.mp hkind.symm
  exact heq.symm.trans (hk kind l hl)

/-- A link goes on. -/
theorem setLink (hk : s.Kinded) {kind : LinkKind} {l l' : Link} (h : s.link? kind = some l)
    (hl : l'.kind = l.kind) : Spares (some (.link kind)) s (s.setLink l') := by
  have hset := hk.link?_setLink h hl
  refine ⟨?_, ?_, ?_, ?_, ?_, fun kind' => ?_, fun kind' hne => ?_, fun _ => ?_, fun _ => ?_⟩
  case refine_6 =>
    rw [hset]
    split
    · rename_i heq
      rw [heq, h, Option.map_some, Option.map_some, hl]
    · rfl
  case refine_7 =>
    rw [hset, if_neg fun heq => hne (by rw [heq])]
  all_goals
    unfold System.setLink
    split <;> rfl

/-- A link is given something. -/
theorem deliver (hk : s.Kinded) {kind : LinkKind} {l l' : Link} (h : s.link? kind = some l)
    (hl : l'.own = l.own) : Spares none s (s.setLink l') := by
  have hkind : l'.kind = l.kind := by rw [Link.eq_of_own hl]
  have hset := hk.link?_setLink h hkind
  refine { setLink hk h hkind with link := fun kind' _ => ?_, bridge := fun _ => ?_,
                                   mqtt := fun _ => ?_ }
  · rw [hset]
    split
    · rename_i heq
      rw [heq, h, Option.map_some, Option.map_some, hl]
    · rfl
  all_goals
    unfold System.setLink
    split <;> rfl

theorem notifyLink (hk : s.Kinded) (kind : LinkKind) (c : Command) :
    Spares none s (s.notifyLink kind c).1 := by
  unfold System.notifyLink
  split
  · rename_i h
    exact deliver hk h (Link.own_notify _ _)
  · exact .refl _ s

theorem ipLost (hk : s.Kinded) (kind : LinkKind) : Spares none s (s.ipLost kind).1 := by
  unfold System.ipLost
  split
  · rename_i h
    exact deliver hk h (Link.own_ipLost _)
  · exact .refl _ s

/-- The broker task is given something. -/
theorem mapMqtt {f : Mqtt → Mqtt} (hf : ∀ t, (f t).own = t.own) :
    Spares none s { s with mqtt := s.mqtt.map f } := by
  refine ⟨rfl, rfl, rfl, rfl, rfl, fun _ => rfl, fun _ _ => rfl, fun _ => rfl, fun _ => ?_⟩
  cases s.mqtt <;> simp [hf]

theorem notifyApp (s : System) (c : Command) : Spares none s (s.notifyApp c).1 := by
  unfold System.notifyApp
  split
  · rename_i t ht
    refine { refl none s with mqtt := fun _ => ?_ }
    simp [ht]
  · exact .refl _ s

theorem reroute (s : System) (kind : LinkKind) : Spares none s (s.reroute kind) := by
  refine { refl none s with mqtt := fun _ => ?_ }
  cases h : s.mqtt <;> simp [System.reroute, h]

theorem dispatch (hk : s.Kinded) (c : ControlCommand) : Spares none s (s.dispatch c).1 := by
  cases c with
  | link kind c => exact notifyLink hk kind c
  | app c => exact notifyApp s c
  | makeDefault kind =>
    simp only [System.dispatch]
    split <;> exact .refl _ s

theorem postToBridge {m : BridgeMessage} (h : s.postToBridge m = some s') : Spares none s s' := by
  unfold System.postToBridge at h
  split at h
  · cases h
    exact .refl _ s
  · rename_i b hb
    obtain ⟨inbox, -, rfl⟩ := Option.map_eq_some_iff.mp h
    refine { refl none s with bridge := fun _ => ?_ }
    simp [hb, Bridge.own]

theorem notifyAll (s : System) : Spares none s s.notifyAll := by
  have hlink (kind : LinkKind) :
      s.notifyAll.link? kind = (s.link? kind).map (·.notify .shutdown) := by
    cases kind <;> rfl
  refine ⟨rfl, rfl, rfl, rfl, rfl, fun kind => ?_, fun kind _ => ?_, fun _ => rfl, fun _ => ?_⟩
  · rw [hlink]
    cases s.link? kind <;> rfl
  · rw [hlink]
    cases s.link? kind <;> rfl
  · cases h : s.mqtt <;> simp [System.notifyAll, h]

theorem consoleComplete (hk : s.Kinded) (c : Console) (a : Answer) :
    Spares none s (s.consoleComplete c a) := by
  unfold System.consoleComplete
  split
  case h_4 key _ =>
    dsimp only
    split
    · exact aside rfl
    · rename_i command _
      refine (dispatch hk command).trans ?_
      unfold afterCommand
      split <;> exact aside rfl
  all_goals exact aside rfl

theorem setGatt (hg : s.gatt.isSome = true) (g : Gatt) : Spares k s { s with gatt := some g } :=
  { refl k s with gatt := hg.symm }

theorem control (hk : s.Kinded) (bytes : Bytes) : Spares none s (s.control bytes).1 := by
  unfold System.control
  split
  · exact dispatch hk _
  · exact .refl _ s

theorem handleEvent (hk : s.Kinded) (e : GattEvent) : Spares none s (s.handleEvent e).1 := by
  unfold System.handleEvent
  split
  · exact .refl _ s
  · rename_i g hg
    have hset (g : Gatt) : Spares none s { s with gatt := some g } := setGatt (by rw [hg]; rfl) g
    dsimp only
    split
    · exact hset _
    · split
      · rename_i hpost
        exact (hset _).trans (postToBridge hpost)
      · exact hset _
    · split
      · have hc := control (s := { s with gatt := some (g.handle e).1 }) hk ‹_›
        split
        all_goals
          rename_i heq
          exact (hset _).trans (by rw [heq] at hc; exact hc)
      · exact hset _

end Spares

/-! ## What tasks ask for -/

end System

/-- What a task waits to be given. -/
inductive Asked where
  | call (c : Call)
  | errand (e : Errand)
  | push (handle : UInt16) (value : Bytes)

def Intent.asked? : Intent → Option Asked
  | .call c => some (.call c)
  | .errand e => some (.errand e)
  | .push handle value => some (.push handle value)
  | .proceed _ | .wait => none

namespace System

variable {k : Option Task} {s s' : System} {t u : Thread}

theorem Spares.asked?_announce (h : Spares k s s') (hu : u.told = t.told) (r : Reporter)
    (status : Status) (heard heard' : System) :
    (s'.announce u r status heard').asked? = (s.announce t r status heard).asked? := by
  simp only [announce, h.gatt, h.observed, hu]
  split <;> rfl

theorem Spares.asked?_linkIntent (h : Spares k s s') (hu : u.told = t.told) (l : Link)
    (cs : Commands) :
    (s'.linkIntent u { l with pending := cs }).asked? = (s.linkIntent t l).asked? := by
  have hq : Link.request { l with pending := cs } = l.request := rfl
  have hm : s'.medium l.kind = s.medium l.kind := by simp only [medium, h.plainWifi]
  unfold linkIntent
  dsimp only
  rw [hq, hm, h.settings]
  cases hr : l.request with
  | announce status => exact h.asked?_announce hu _ _ _ _
  | connect | disconnect | askConnected => cases s.medium l.kind <;> rfl
  | wait limit =>
    dsimp only
    (repeat' split) <;> rfl
  | _ => rfl

theorem Spares.asked?_mqttIntent (h : Spares k s s') (hu : u.told = t.told) (task : Mqtt)
    (cs : Commands) (operations : Inbox Mqtt.Operation) :
    (s'.mqttIntent u { task with pending := cs, operations }).asked? =
      (s.mqttIntent t task).asked? := by
  have hq : Mqtt.request { task with pending := cs, operations } = task.request := rfl
  have hid : s'.clientId = s.clientId := by simp only [clientId, h.settings, h.clientSuffix]
  unfold mqttIntent
  dsimp only
  rw [hq, hid, h.settings]
  cases hr : task.request with
  | announce status => exact h.asked?_announce hu _ _ _ _
  | tell m | receive | join | wait limit =>
    dsimp only
    (repeat' split) <;> rfl
  | _ => rfl

theorem asked?_bridgeIntent (s s' : System) (t u : Thread) (b : Bridge)
    (inbox : Inbox BridgeMessage) :
    (s'.bridgeIntent u { b with inbox }).asked? = (s.bridgeIntent t b).asked? := by
  have hq : Bridge.request { b with inbox } = b.request := rfl
  unfold bridgeIntent
  dsimp only
  rw [hq]
  cases hr : b.request with
  | receive =>
    dsimp only
    (repeat' split) <;> rfl
  | _ => rfl

theorem Spares.over (h : Spares k s s') {j : Task} (hne : k ≠ some j) (ho : s.Over j) :
    s'.Over j := by
  cases j with
  | link kind =>
    intro l' hl'
    have hown := h.link kind hne
    rw [hl'] at hown
    obtain ⟨l, hl, heq⟩ := Option.map_eq_some_iff.mp hown.symm
    rw [Link.eq_of_own heq.symm]
    exact ho l hl
  | bridge =>
    intro b' hb'
    have hown := h.bridge hne
    rw [hb'] at hown
    obtain ⟨b, hb, heq⟩ := Option.map_eq_some_iff.mp hown.symm
    rw [Bridge.eq_of_own heq.symm]
    exact ho b hb
  | mqtt =>
    intro t' ht'
    have hown := h.mqtt hne
    rw [ht'] at hown
    obtain ⟨t, ht, heq⟩ := Option.map_eq_some_iff.mp hown.symm
    rw [Mqtt.eq_of_own heq.symm]
    exact ho t ht

/-- What a task asks for does not depend on what the others do. -/
theorem Spares.asked?_eq (h : Spares k s s') {j : Task} (hj : t.role.task? = some j)
    (hne : k ≠ some j) (hrole : u.role = t.role) (hu : u.told = t.told) :
    (s'.intent u).asked? = (s.intent t).asked? := by
  unfold intent
  rw [hrole]
  cases hr : t.role with
  | link kind =>
    rw [hr] at hj
    cases hj
    have hown := h.link kind hne
    dsimp only
    cases hl : s.link? kind with
    | none =>
      rw [hl] at hown
      rw [Option.map_eq_none_iff.mp hown]
    | some l =>
      rw [hl] at hown
      obtain ⟨l', hl', heq⟩ := Option.map_eq_some_iff.mp hown
      rw [hl', Link.eq_of_own heq]
      exact h.asked?_linkIntent hu l _
  | bridge =>
    rw [hr] at hj
    cases hj
    have hown := h.bridge hne
    dsimp only
    cases hb : s.bridge with
    | none =>
      rw [hb] at hown
      rw [Option.map_eq_none_iff.mp hown]
    | some b =>
      rw [hb] at hown
      obtain ⟨b', hb', heq⟩ := Option.map_eq_some_iff.mp hown
      rw [hb', Bridge.eq_of_own heq]
      exact asked?_bridgeIntent s s' t u b _
  | mqtt =>
    rw [hr] at hj
    cases hj
    have hown := h.mqtt hne
    dsimp only
    cases hm : s.mqtt with
    | none =>
      rw [hm] at hown
      rw [Option.map_eq_none_iff.mp hown]
    | some task =>
      rw [hm] at hown
      obtain ⟨task', hm', heq⟩ := Option.map_eq_some_iff.mp hown
      rw [hm', Mqtt.eq_of_own heq]
      exact h.asked?_mqttIntent hu task _ _
  | _ => simp only [hr, Role.task?, reduceCtorEq] at hj

end System

end EdgeGateway
