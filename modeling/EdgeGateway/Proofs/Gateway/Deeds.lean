import EdgeGateway.Proofs.Bridge.Handling
import EdgeGateway.Proofs.Bridge.Thread
import EdgeGateway.Proofs.Gateway.Crew
import EdgeGateway.Proofs.Link.Thread
import EdgeGateway.Proofs.Mqtt.Thread

/-!
# EdgeGateway.Proofs.Gateway.Deeds

What tasks do by themselves, and what their calls change.

* `Call.undoes`       : a call that takes back what another has brought about.
* `Outstanding.after` : what is outstanding once a call has been answered.
* `RunsLink.advances`, `bridge_advances`, `mqtt_advances` : a task that goes on by itself.
* `after_of_link`, `after_of_bridge`, `after_of_mqtt` : what a call of a task changes.
-/

namespace EdgeGateway

/-- Everything that takes something back. -/
def Call.undoes : Call → Bool
  | .linkDisconnect | .linkTearDown | .wifiDisconnect | .wifiTearDown | .modemTearDown
  | .modem (.hangUp _) | .modem (.change .ppp _) | .closePort _ | .clientDisconnect
  | .clientDelete | .clientTearDown => true
  | _ => false

/-- A connection counts from its success on, and so does everything else that is brought about. -/
def Outstanding.after (k : Outstanding) : Call → Answer → Outstanding
  | .wifiConnect .., .address (some _) => { k with wifiConnected := true }
  | .wifiDisconnect, .done => { k with wifiConnected := false }
  | .modemBringUp, .done => { k with modemUp := true }
  | .modemTearDown, _ => { k with modemUp := false }
  | .modem c, a => k.afterModem c a.toModem
  | .openPort _, .handle h => if h = 0 then k else { k with sessions := h :: k.sessions }
  | .closePort h, .done => { k with sessions := k.sessions.erase h }
  | .clientBringUp, .done => { k with clientUp := true }
  | .clientCreate .., .done => { k with clientCreated := true }
  | .clientConnect .., .done => { k with clientConnected := true }
  | .clientDisconnect, .done => { k with clientConnected := false }
  | .clientDelete, .done => { k with clientCreated := false }
  | .clientTearDown, .done => { k with clientUp := false }
  | _, _ => k

theorem Call.Brings.eq_done {c : Call} {a : Answer} (h : c.Brings a) (hu : c.undoes = true)
    (hs : a.succeeded = true) : a = .done := by
  rcases h with h | ⟨-, f, rfl⟩
  · cases c with
    | modem m =>
      cases m with
      | mode | dial params timeout => cases hu
      | change mode timeout | hangUp timeout => exact h
    | _ => first | exact h | cases hu
  · cases hs

/-- What a link asks of its transport to change it. -/
def Link.Request.isOuter : Link.Request → Bool
  | .bringUp | .connect | .disconnect | .tearDown => true
  | _ => false

theorem Outstanding.afterLink_of_inner (k : Outstanding) (kind : LinkKind) {q : Link.Request}
    (h : q.isOuter = false) (r : Link.Reply) : k.afterLink kind q r = k := by
  cases q <;> first | (cases kind <;> rfl) | cases h

/-- What the bridge does by itself, reads, or tells a client. -/
def Bridge.Request.isInner : Bridge.Request → Bool
  | .proceed | .receive | .inspect | .push _ _ => true
  | _ => false

theorem Outstanding.afterBridge_of_inner (k : Outstanding) {q : Bridge.Request}
    (h : q.isInner = true) (r : Bridge.Reply) : k.afterBridge q r = k := by
  cases q <;> first | rfl | cases h

theorem Outstanding.afterMqtt_of_inner (k : Outstanding) {q : Mqtt.Request}
    (h : q.call? = none) (r : Mqtt.Reply) : k.afterMqtt q r = k := by
  cases q <;> first | rfl | cases h

namespace System

variable {s s' : System} {t : Thread} {k : Outstanding} {l : Link} {b : Bridge} {task : Mqtt}
  {kind : LinkKind} {c : Call} {a : Answer}

/-! ## What tasks do on their own

What a task has been given it reads first, so the step of the crew may begin at another task than
the one that is there. They differ in what has been delivered only. -/

/-- The link asks no more than what the thread can tell it. -/
theorem RunsLink.advances (h : s.RunsLink t l) (hi : s.linkIntent t l = .proceed s')
    (hq : l.request ≠ .finished) :
    ∃ (l₀ : Link) (r : Link.Reply) (l' : Link), l₀.own = l.own ∧ s'.link? l.kind = some l' ∧
      l₀.Advances l₀.request r l' ∧ l₀.request.isOuter = false ∧
      (l₀.request = .askConnected → r = .flag (s.arbiter.any (·.dataSession))) := by
  cases hr : l.request with
  | proceed =>
    simp only [linkIntent, hr] at hi
    cases hi
    have hf : Link.Fits l.request .done := hr ▸ .proceed
    exact ⟨l, _, _, rfl, h.link_setLink rfl _, Link.advances_of_fits hf, by rw [hr]; rfl,
      fun hask => by cases hr.symm.trans hask⟩
  | announce status =>
    simp only [linkIntent, hr] at hi
    cases eq_of_announce_proceed hi
    have hf : Link.Fits l.request .done := hr ▸ .announce
    refine ⟨l, .done, l.resume .done, rfl, ?_, Link.advances_of_fits hf, by rw [hr]; rfl,
      fun hask => by cases hr.symm.trans hask⟩
    rw [link?_setThread, h.link_setLink rfl]
  | askConnected =>
    simp only [linkIntent, hr] at hi
    split at hi <;> cases hi
    have hf : Link.Fits l.request (.flag (s.arbiter.any (·.dataSession))) := hr ▸ .askConnected
    exact ⟨l, _, _, rfl, h.link_setLink rfl _, Link.advances_of_fits hf, by rw [hr]; rfl,
      fun _ => rfl⟩
  | wait limit =>
    have hno := Link.announcing_of_wait hr
    have reads {l₀ : Link} {cs : Commands} (hl : l₀.request = .wait limit)
        (ha : l₀.announcing = none) :
        l₀.Advances l₀.request (.commands cs) (l₀.resume (.commands cs)) := by
      rw [hl]
      exact .read ha (Link.reads_of_wait hl _)
    simp only [linkIntent, hr] at hi
    split at hi
    · cases hi
      have hr₀ : Link.request { l with pending := .empty } = .wait limit := hr
      exact ⟨{ l with pending := .empty }, _, _, rfl,
        h.link_setLink (k := { l with pending := .empty }) rfl _, reads hr₀ hno,
        by rw [hr₀]; rfl, fun hask => by cases hr₀.symm.trans hask⟩
    · split at hi <;> cases hi
      exact ⟨l, _, _, rfl, h.link_setLink rfl _, reads hr hno, by rw [hr]; rfl,
        fun hask => by cases hr.symm.trans hask⟩
  | connect | disconnect =>
    simp only [linkIntent, hr] at hi
    split at hi <;> cases hi
  | finished => exact absurd hr hq
  | bringUp | askServers | tearDown => simp [linkIntent, hr] at hi

theorem bridge_advances (hi : s.bridgeIntent t b = .proceed s') (hq : b.request ≠ .finished) :
    ∃ (b₀ : Bridge) (r : Bridge.Reply) (b' : Bridge), b₀.own = b.own ∧ s'.bridge = some b' ∧
      b₀.Advances b₀.request r b' ∧ b₀.request.isInner = true := by
  cases hr : b.request with
  | proceed =>
    simp only [bridgeIntent, hr, Intent.proceed.injEq] at hi
    subst hi
    have hf : Bridge.Fits b.request .done := hr ▸ .proceed
    exact ⟨b, _, _, rfl, rfl, .turned (Bridge.turn_of_fits hf), by rw [hr]; rfl⟩
  | receive =>
    simp only [bridgeIntent, hr] at hi
    split at hi <;> cases hi
    rename_i m inbox htake
    have hr₀ : Bridge.request { b with inbox } = .receive := hr
    refine ⟨{ b with inbox }, .message m, _, rfl, rfl, ?_, by rw [hr₀]; rfl⟩
    rw [hr₀, Bridge.resume_message hr₀]
    exact .took (Bridge.asks_of_request hr₀) (Bridge.takes_receive _ m)
  | inspect =>
    simp only [bridgeIntent, hr, Intent.proceed.injEq] at hi
    subst hi
    have hf : Bridge.Fits b.request (.view (s.gatt.bind Gatt.responseCapacity?)
        (s.gatt.any (·.canNotify Handle.transreceiveValue))) := hr ▸ .inspect
    exact ⟨b, _, _, rfl, rfl, .turned (Bridge.turn_of_fits hf), by rw [hr]; rfl⟩
  | finished => exact absurd hr hq
  | _ => simp [bridgeIntent, hr] at hi

theorem mqtt_advances (hi : s.mqttIntent t task = .proceed s')
    (hq : task.request ≠ .finished) :
    ∃ (task₀ : Mqtt) (r : Mqtt.Reply) (task' : Mqtt), task₀.own = task.own ∧
      s'.mqtt = some task' ∧ task₀.Advances task₀.request r task' ∧
      task₀.request.call? = none := by
  -- the reply is known, and nothing has been read
  have plain {r : Mqtt.Reply} {s₁ : System} (hf : Mqtt.Fits task.request r)
      (hc : task.request.call? = none) (hs : s₁.mqtt = some (task.resume r)) :
      ∃ (task₀ : Mqtt) (r : Mqtt.Reply) (task' : Mqtt), task₀.own = task.own ∧
        s₁.mqtt = some task' ∧ task₀.Advances task₀.request r task' ∧ task₀.request.call? = none :=
    ⟨task, r, _, rfl, hs, Mqtt.advances_of_fits hf, hc⟩
  cases hr : task.request with
  | proceed =>
    simp only [mqttIntent, hr, Intent.proceed.injEq] at hi
    subst hi
    exact plain (hr ▸ .proceed) (by rw [hr]; rfl) rfl
  | announce status =>
    simp only [mqttIntent, hr] at hi
    cases eq_of_announce_proceed hi
    exact plain (hr ▸ .announce) (by rw [hr]; rfl) rfl
  | askDefaultReady =>
    simp only [mqttIntent, hr, Intent.proceed.injEq] at hi
    subst hi
    exact plain (hr ▸ .askDefaultReady) (by rw [hr]; rfl) rfl
  | tell m =>
    simp only [mqttIntent, hr] at hi
    (repeat' split at hi) <;> cases hi
    all_goals exact plain (hr ▸ .tell) (by rw [hr]; rfl) rfl
  | join =>
    simp only [mqttIntent, hr] at hi
    split at hi <;> cases hi
    exact plain (hr ▸ .join) (by rw [hr]; rfl) rfl
  | receive =>
    simp only [mqttIntent, hr] at hi
    split at hi <;> cases hi
    rename_i op operations htake
    have hr₀ : Mqtt.request { task with operations } = .receive := hr
    refine ⟨{ task with operations }, .operation op, _, rfl, rfl, ?_, by rw [hr₀]; rfl⟩
    rw [hr₀]
    exact .received (Mqtt.announcing_of_receive hr₀) (Mqtt.receives_of_request hr₀ op)
  | wait limit =>
    have reads {task₀ : Mqtt} {cs : Commands} (hl : task₀.request = .wait limit) :
        task₀.Advances task₀.request (.commands cs) (task₀.resume (.commands cs)) := by
      rw [hl]
      exact .read (Mqtt.announcing_of_wait hl) (Mqtt.reads_of_wait hl _)
    simp only [mqttIntent, hr] at hi
    split at hi
    · cases hi
      have hr₀ : Mqtt.request { task with pending := .empty } = .wait limit := hr
      exact ⟨{ task with pending := .empty }, _, _, rfl, rfl, reads hr₀, by rw [hr₀]; rfl⟩
    · split at hi <;> cases hi
      exact ⟨task, _, _, rfl, rfl, reads hr, by rw [hr]; rfl⟩
  | finished => exact absurd hr hq
  | bringUp | create | connect | disconnect | delete | tearDown => simp [mqttIntent, hr] at hi

/-! ## What calls change -/

theorem after_of_link (hw : s.plainWifi = false) (hi : s.linkIntent t l = .call c)
    (ha : l.announcing = none) (hb : c.Brings a) :
    k.after c a = k.afterLink l.kind l.request (linkReply (.answer a)) := by
  cases hr : l.request with
  | announce status =>
    cases hp : l.point <;> simp only [Link.request, ha, hp] at hr <;>
      first | cases hr | (split at hr <;> cases hr)
  | bringUp | disconnect =>
    cases hk : l.kind <;> simp only [linkIntent, hr, medium, hk, hw] at hi <;> cases hi <;>
      rcases hb with hs | ⟨-, f, rfl⟩ <;> first | rfl | (cases hs; rfl)
  | connect =>
    cases hk : l.kind <;> simp only [linkIntent, hr, medium, hk, hw] at hi <;> cases hi <;>
      rcases hb with hs | ⟨-, f, rfl⟩ <;> first | rfl | (obtain ⟨ip, rfl⟩ := hs; rfl)
  | askServers | askConnected | tearDown =>
    cases hk : l.kind <;> simp only [linkIntent, hr, medium, hk, hw] at hi <;> cases hi <;> rfl
  | wait limit =>
    simp only [linkIntent, hr] at hi
    (repeat' split at hi) <;> cases hi
  | proceed | finished => simp [linkIntent, hr] at hi

theorem after_of_bridge (hi : s.bridgeIntent t b = .call c) (hb : c.Brings a) :
    k.after c a = k.afterBridge b.request (bridgeReply (.answer a)) := by
  cases hr : b.request with
  | receive =>
    simp only [bridgeIntent, hr] at hi
    split at hi <;> cases hi
  | openPort port =>
    simp only [bridgeIntent, hr, Intent.call.injEq] at hi
    subst hi
    rcases hb with ⟨h, rfl⟩ | ⟨-, f, rfl⟩ <;> rfl
  | closePort h =>
    simp only [bridgeIntent, hr, Intent.call.injEq] at hi
    subst hi
    rcases hb with hs | ⟨-, f, rfl⟩
    · cases hs
      rfl
    · rfl
  | askAdvertising | advertise | exchange h command | sleep ms =>
    simp only [bridgeIntent, hr, Intent.call.injEq] at hi
    subst hi
    rfl
  | _ => simp [bridgeIntent, hr] at hi

theorem after_of_mqtt (hi : s.mqttIntent t task = .call c) (ha : task.announcing = none)
    (hb : c.Brings a) : k.after c a = k.afterMqtt task.request (mqttReply (.answer a)) := by
  cases hr : task.request with
  | announce status =>
    cases hp : task.point <;> simp only [Mqtt.request, ha, hp] at hr <;>
      first | cases hr | (split at hr <;> cases hr)
  | bringUp | create | connect | disconnect | delete | tearDown =>
    simp only [mqttIntent, hr, Intent.call.injEq] at hi
    subst hi
    rcases hb with hs | ⟨-, f, rfl⟩
    · cases hs
      rfl
    · rfl
  | tell m | wait limit =>
    simp only [mqttIntent, hr] at hi
    (repeat' split at hi) <;> cases hi
  | receive | join =>
    simp only [mqttIntent, hr] at hi
    split at hi <;> cases hi
  | proceed | askDefaultReady | finished => simp [mqttIntent, hr] at hi

/-- What a link's thread is at when it asks for a call of the transport's. -/
theorem through_of_call (hi : s.linkIntent t l = .call c) (hk : l.kind = .cellular) :
    l.request ≠ .connect ∧ l.request ≠ .disconnect ∧ l.request ≠ .askConnected := by
  refine ⟨?_, ?_, ?_⟩
  all_goals
    intro hr
    simp only [linkIntent, hr, medium, hk] at hi
    cases hi

theorem undoes_of_link (hi : s.linkIntent t l = .call c) (hr : l.request = .disconnect) :
    c.undoes = true := by
  simp only [linkIntent, hr] at hi
  split at hi <;> cases hi <;> rfl

theorem undoes_of_bridge {h : UInt32} (hi : s.bridgeIntent t b = .call c)
    (hr : b.request = .closePort h) : c.undoes = true := by
  simp only [bridgeIntent, hr] at hi
  cases hi
  rfl

theorem undoes_of_mqtt (hi : s.mqttIntent t task = .call c)
    (hr : task.request = .disconnect ∨ task.request = .delete ∨ task.request = .tearDown) :
    c.undoes = true := by
  rcases hr with hr | hr | hr <;> simp only [mqttIntent, hr] at hi <;> cases hi <;> rfl

theorem announcing_of_link_push {handle : UInt16} {value : Bytes}
    (hi : s.linkIntent t l = .push handle value) : ∃ status, l.announcing = some status := by
  cases hno : l.announcing with
  | some status => exact ⟨status, rfl⟩
  | none =>
    exfalso
    unfold linkIntent at hi
    dsimp only at hi
    split at hi
    case h_2 hq =>
      cases hp : l.point <;> simp only [Link.request, hno, hp] at hq <;>
        first | cases hq | (split at hq <;> cases hq)
    all_goals (repeat' split at hi) <;> cases hi

theorem announcing_of_mqtt_push {handle : UInt16} {value : Bytes}
    (hi : s.mqttIntent t task = .push handle value) : ∃ status, task.announcing = some status := by
  cases hno : task.announcing with
  | some status => exact ⟨status, rfl⟩
  | none =>
    exfalso
    unfold mqttIntent at hi
    dsimp only at hi
    split at hi
    case h_2 hq =>
      cases hp : task.point <;> simp only [Mqtt.request, hno, hp] at hq <;>
        first | cases hq | (split at hq <;> cases hq)
    all_goals (repeat' split at hi) <;> cases hi

theorem mqttIntent_ne_errand (e : Errand) : s.mqttIntent t task ≠ .errand e := by
  intro hi
  unfold mqttIntent at hi
  dsimp only at hi
  split at hi
  case h_2 => exact announce_ne_errand e hi
  all_goals (repeat' split at hi) <;> cases hi

theorem kind_of_medium (h : s.medium kind = .modem) : kind = .cellular := by
  cases kind with
  | cellular => rfl
  | wifi =>
    simp only [medium] at h
    split at h <;> cases h
  | none => cases h

/-- The cellular link alone has errands. -/
theorem cellular_of_errand {e : Errand} (hi : s.linkIntent t l = .errand e) :
    l.kind = .cellular := by
  cases hr : l.request with
  | connect | disconnect =>
    simp only [linkIntent, hr] at hi
    split at hi
    · cases hi
    · cases hi
    · exact kind_of_medium ‹_›
  | announce status =>
    simp only [linkIntent, hr] at hi
    exact absurd hi (announce_ne_errand e)
  | askConnected | wait limit =>
    simp only [linkIntent, hr] at hi
    (repeat' split at hi) <;> cases hi
  | _ => simp [linkIntent, hr] at hi

theorem wants_of_link {e : Errand} (hi : s.linkIntent t l = .errand e) : l.Wants e := by
  cases hr : l.request with
  | connect =>
    simp only [linkIntent, hr] at hi
    split at hi <;> cases hi
    exact .inl ⟨hr, _, _, rfl⟩
  | disconnect =>
    simp only [linkIntent, hr] at hi
    split at hi <;> cases hi
    exact .inr ⟨hr, _, rfl⟩
  | announce status =>
    simp only [linkIntent, hr] at hi
    exact absurd hi (announce_ne_errand e)
  | askConnected | wait limit =>
    simp only [linkIntent, hr] at hi
    (repeat' split at hi) <;> cases hi
  | _ => simp [linkIntent, hr] at hi

theorem wants_of_bridge {e : Errand} (hi : s.bridgeIntent t b = .errand e) : b.Wants e := by
  cases hr : b.request with
  | acquire timeout =>
    simp only [bridgeIntent, hr, Intent.errand.injEq] at hi
    exact .inl ⟨timeout, hr, hi.symm⟩
  | release id =>
    simp only [bridgeIntent, hr, Intent.errand.injEq] at hi
    exact .inr ⟨id, hr, hi.symm⟩
  | receive =>
    simp only [bridgeIntent, hr] at hi
    split at hi <;> cases hi
  | _ => simp [bridgeIntent, hr] at hi

end System

end EdgeGateway
