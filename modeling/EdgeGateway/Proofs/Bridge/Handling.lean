import EdgeGateway.Proofs.Bridge.Service
import EdgeGateway.Proofs.Gatt.Layout
import EdgeGateway.Proofs.Rest
import EdgeGateway.System

/-!
# EdgeGateway.Proofs.Bridge.Handling

The modem bridge and the events that come to it through the attribute server.

* `Service.handle`   : an event, with the answer it gets. It is the gateway's own handling of the
  event, seen from the bridge (`Service.handleEvent_eq`).
* `Service.Idle`     : all messages have been handled.
* `Service.Handling` : the bridge goes on, but does not wait for more messages.
* `Service.serving`  : a client has connected and opened a session.
-/

namespace EdgeGateway

namespace Bridge

variable {b b' : Bridge} {q : Request} {r : Reply}

/-- What neither a reply nor a message changes. -/
structure Fixed (b b' : Bridge) : Prop where
  settings : b'.settings = b.settings
  inbox : b'.inbox = b.inbox

theorem fixed_closeSession (b : Bridge) (next : Next) : b.Fixed (b.closeSession next) := by
  unfold closeSession
  split <;> exact ⟨rfl, rfl⟩

theorem Turn.fixed (ht : Turn b q r b') : b.Fixed b' := by
  cases ht with
  | answered _ =>
    rcases b.respond_cases _ _ with he | ⟨chunk, rest, he⟩ <;> rw [he] <;> exact ⟨rfl, rfl⟩
  | @released next _ => cases next <;> exact ⟨rfl, rfl⟩
  | _ => exact ⟨rfl, rfl⟩

theorem fixed_receive (b : Bridge) (m : BridgeMessage) : b.Fixed (b.receive m) := by
  have ht := b.takes_receive m
  generalize b.receive m = b' at ht
  cases ht with
  | gone | told | closes _ _ => exact b.fixed_closeSession _
  | _ => exact ⟨rfl, rfl⟩

theorem resume_message {b : Bridge} (h : b.request = .receive) (m : BridgeMessage) :
    b.resume (.message m) = b.receive m := by
  have hp : b.point = .receiving := asks_of_request h
  simp only [resume, hp]

theorem resume_hungUp {b : Bridge} (h : b.request = .receive) :
    b.resume .hungUp = b.closeSession .exit := by
  have hp : b.point = .receiving := asks_of_request h
  simp only [resume, hp]

end Bridge

namespace Service

variable {leases : Bool} {w w' : Service}

/-! ## Events -/

/-- An event of the radio stack, and what the stack is answered. Nobody attends to the control
point here. -/
def handle (w : Service) (e : GattEvent) : Service × Except GattStatus GattResponse :=
  let (gatt, reaction) := w.gatt.handle e
  let w := { w with gatt }
  match reaction with
  | .answer r => (w, r)
  | .forward m r =>
    match w.bridge.inbox.offer w.bridge.isReceiving m with
    | some inbox => ({ w with bridge.inbox := inbox }, .ok r)
    | none => (w, .error .insufficientResources)
  | .control _ => (w, .error .writeNotPermitted)

/-- An event changes the attribute server, and may put a message into the bridge's queue. -/
theorem handle_cases (w : Service) (e : GattEvent) :
    (w.handle e).1 = { w with gatt := (w.gatt.handle e).1 } ∨
      ∃ m r inbox, (w.gatt.handle e).2 = .forward m r ∧
        w.bridge.inbox.offer w.bridge.isReceiving m = some inbox ∧
        (w.handle e).1 =
          { w with gatt := (w.gatt.handle e).1, bridge := { w.bridge with inbox } } := by
  unfold handle
  cases hr : w.gatt.handle e with
  | mk gatt reaction =>
    cases reaction with
    | answer r | control command => exact .inl rfl
    | forward m r =>
      dsimp only
      cases ho : w.bridge.inbox.offer w.bridge.isReceiving m with
      | none => exact .inl rfl
      | some inbox => exact .inr ⟨m, r, inbox, rfl, ho, rfl⟩

/-- In a gateway with the bridge an event does the same. -/
theorem handleEvent_eq {s : System} {w : Service} (hb : s.bridge = some w.bridge)
    (hg : s.gatt = some w.gatt) (hc : s.controlled = false) (e : GattEvent) :
    s.handleEvent e =
      ({ s with bridge := some (w.handle e).1.bridge, gatt := some (w.handle e).1.gatt },
        .inl (w.handle e).2) := by
  cases hr : w.gatt.handle e with
  | mk gatt reaction =>
    simp only [System.handleEvent, hg, handle, hr]
    cases reaction with
    | answer r => rw [← hb]
    | control command => rw [hc, ← hb]; rfl
    | forward m r =>
      simp only [System.postToBridge, hb]
      cases ho : w.bridge.inbox.offer w.bridge.isReceiving m with
      | none => simp only [Option.map_none, ← hb]
      | some inbox => simp only [Option.map_some]

theorem handle_steps (w : Service) (e : GattEvent) :
    Relation.ReflTransGen Step w (w.handle e).1 := by
  have hevent : Step w { w with gatt := (w.gatt.handle e).1 } := .event e
  rcases w.handle_cases e with he | ⟨m, r, inbox, -, ho, he⟩
  · rw [he]
    exact .single hevent
  · rw [he]
    exact .tail (.single hevent) (.post ho)

theorem Reachable.steps (h : w.Reachable leases) (hs : Relation.ReflTransGen Step w w') :
    w'.Reachable leases := by
  obtain ⟨settings, capacity, mtu, gatt, hg, hreach⟩ := h
  exact ⟨settings, capacity, mtu, gatt, hg, hreach.trans hs⟩

theorem Reachable.handle (h : w.Reachable leases) (e : GattEvent) :
    (w.handle e).1.Reachable leases :=
  h.steps (w.handle_steps e)

/-! ## What a move is, by what the bridge asks -/

theorem Move.of_outer (hm : Move w w') (ho : w.bridge.request.isOuter = true) :
    ∃ r, Bridge.Fits w.bridge.request r ∧ w' = w.replied r := by
  cases hm with
  | reply hf _ => exact ⟨_, hf, rfl⟩
  | inspect hq | store hq _ | told _ hq _ | receive hq _ | hangUp hq _ =>
    rw [hq] at ho
    cases ho

theorem Move.of_inspect (hm : Move w w') (hq : w.bridge.request = .inspect) :
    w' = w.replied
      (.view w.gatt.responseCapacity? (w.gatt.canNotify Handle.transreceiveValue)) := by
  cases hm with
  | inspect _ => rfl
  | reply _ ho =>
    rw [hq] at ho
    cases ho
  | store hq' _ | told _ hq' _ | receive hq' _ | hangUp hq' _ =>
    rw [hq] at hq'
    cases hq'

theorem Move.of_push (hm : Move w w') {handle : UInt16} {value : Bytes}
    (hq : w.bridge.request = .push handle value) :
    w.stored = false ∧ w' = { w.push handle value with stored := true } ∨
      w.stored = true ∧ ∃ sent, w' = w.replied (.flag sent) := by
  cases hm with
  | store hq' hs =>
    rw [hq] at hq'
    cases hq'
    exact .inl ⟨hs, rfl⟩
  | told sent _ hs => exact .inr ⟨hs, sent, rfl⟩
  | reply _ ho =>
    rw [hq] at ho
    cases ho
  | inspect hq' | receive hq' _ | hangUp hq' _ =>
    rw [hq] at hq'
    cases hq'

theorem Move.of_receive (hm : Move w w') (hq : w.bridge.request = .receive) :
    (∃ m inbox, w.bridge.inbox.take? = some (m, inbox) ∧
        w' = { w with bridge.inbox := inbox }.replied (.message m)) ∨
      w.bridge.inbox.items = [] ∧ w' = w.replied .hungUp := by
  cases hm with
  | receive _ htake => exact .inl ⟨_, _, htake, rfl⟩
  | hangUp _ hitems => exact .inr ⟨hitems, rfl⟩
  | reply _ ho =>
    rw [hq] at ho
    cases ho
  | inspect hq' | store hq' _ | told _ hq' _ =>
    rw [hq] at hq'
    cases hq'

theorem Move.of_replied {r : Bridge.Reply} (hm : Move w (w.replied r))
    (hne : ∀ m, r ≠ .message m) :
    Bridge.Turn w.bridge w.bridge.request r (w.bridge.resume r) ∨
      w.bridge.request = .receive ∧ r = .hungUp := by
  generalize hw : w.replied r = w' at hm
  have hlog := congrArg log hw
  cases hm with
  | reply hf _ =>
    cases (Prod.mk.inj (List.cons.inj hlog).1).2
    exact .inl (Bridge.turn_of_fits hf)
  | inspect hq =>
    cases (Prod.mk.inj (List.cons.inj hlog).1).2
    exact .inl (Bridge.turn_of_fits (by rw [hq]; exact .inspect))
  | told sent hq _ =>
    cases (Prod.mk.inj (List.cons.inj hlog).1).2
    exact .inl (Bridge.turn_of_fits (by rw [hq]; exact .push))
  | hangUp hq _ => exact .inr ⟨hq, (Prod.mk.inj (List.cons.inj hlog).1).2⟩
  | store _ _ => cases congrArg stored hw
  | receive _ _ => exact absurd (Prod.mk.inj (List.cons.inj hlog).1).2 (hne _)

/-! ## What stays as it is -/

theorem Move.inbox (hm : Move w w') :
    w'.bridge.inbox = w.bridge.inbox ∨
      ∃ m, w.bridge.request = .receive ∧ w.bridge.inbox.take? = some (m, w'.bridge.inbox) := by
  cases hm with
  | reply hf _ => exact .inl (Bridge.turn_of_fits hf).fixed.inbox
  | inspect hq =>
    exact .inl (Bridge.turn_of_fits (b := w.bridge) (by rw [hq]; exact .inspect)).fixed.inbox
  | store _ _ => exact .inl rfl
  | told sent hq _ =>
    exact .inl (Bridge.turn_of_fits (b := w.bridge) (r := .flag sent)
      (by rw [hq]; exact .push)).fixed.inbox
  | @receive m inbox hq htake =>
    have hresume := Bridge.resume_message (b := { w.bridge with inbox }) hq m
    refine .inr ⟨m, hq, ?_⟩
    rw [replied, hresume, (Bridge.fixed_receive _ m).inbox]
    exact htake
  | hangUp hq _ =>
    left
    rw [replied, Bridge.resume_hungUp hq]
    exact (w.bridge.fixed_closeSession _).inbox

/-- The bridge's queue is not closed before the bridge has gone, the attributes stay as they were
laid out, and a value is stored for a push only. -/
structure Kept (w : Service) : Prop where
  isOpen : w.bridge.inbox.isOpen = true
  laid : w.gatt.Laid
  stored : w.stored = true → ∃ handle value, w.bridge.request = .push handle value

theorem Kept.step (h : w.Kept) (hs : Step w w') : w'.Kept := by
  cases hs with
  | move hm =>
    constructor
    · rcases hm.inbox with he | ⟨m, -, htake⟩
      · rw [he]
        exact h.isOpen
      · rw [(Inbox.items_of_take htake).2]
        exact h.isOpen
    · cases hm with
      | store _ _ => exact h.laid.push _ _
      | _ => exact h.laid
    · cases hm with
      | store hq _ => exact fun _ => ⟨_, _, hq⟩
      | _ => exact nofun
  | event e => exact ⟨h.isOpen, h.laid.handle e, h.stored⟩
  | push value _ => exact ⟨h.isOpen, h.laid.push _ _, h.stored⟩
  | post ho =>
    rw [Inbox.eq_put_of_offer ho]
    exact ⟨h.isOpen, h.laid, h.stored⟩

theorem Reachable.kept (h : w.Reachable leases) : w.Kept := by
  obtain ⟨settings, capacity, mtu, gatt, hg, hreach⟩ := h
  induction hreach with
  | refl => exact ⟨rfl, Gatt.laid_of_ofCapacity hg, nofun⟩
  | tail _ hs ih => exact ih.step hs

/-! ## Handling what has come -/

def Idle (w : Service) : Prop := w.bridge.request = .receive ∧ w.bridge.inbox.items = []

/-- The bridge goes on as long as it has something to do. -/
def Handling (w w' : Service) : Prop := Move w w' ∧ ¬ w.Idle

theorem Handling.steps (h : Relation.ReflTransGen Handling w w') :
    Relation.ReflTransGen Step w w' :=
  Relation.ReflTransGen.mono (fun _ _ hm => .move hm.1) _ _ h

/-- A reply, a value stored, or a message. -/
theorem Handling.cases (h : Handling w w') :
    (∃ r, Bridge.Turn w.bridge w.bridge.request r w'.bridge ∧
        w'.log = (w.bridge.request, r) :: w.log ∧ w'.stored = false) ∨
      (w'.bridge = w.bridge ∧ w'.log = w.log ∧ w.stored = false ∧ w'.stored = true) ∨
      ∃ m inbox, w.bridge.request = .receive ∧ w.bridge.inbox.take? = some (m, inbox) ∧
        w'.bridge = Bridge.receive { w.bridge with inbox } m ∧
        w'.log = (.receive, .message m) :: w.log := by
  obtain ⟨hm, hni⟩ := h
  cases hm with
  | reply hf _ => exact .inl ⟨_, Bridge.turn_of_fits hf, rfl, rfl⟩
  | inspect hq => exact .inl ⟨_, Bridge.turn_of_fits (by rw [hq]; exact .inspect), rfl, rfl⟩
  | told sent hq _ => exact .inl ⟨_, Bridge.turn_of_fits (by rw [hq]; exact .push), rfl, rfl⟩
  | store _ hs => exact .inr (.inl ⟨rfl, rfl, hs, rfl⟩)
  | @receive m inbox hq htake =>
    have hq' : Bridge.request { w.bridge with inbox } = .receive := hq
    refine .inr (.inr ⟨m, inbox, hq, htake, Bridge.resume_message hq' m, ?_⟩)
    rw [replied, hq']
  | hangUp hq hitems => exact absurd ⟨hq, hitems⟩ hni

theorem rest_iff : AtRest Handling w ↔ w.Idle ∨ w.bridge.request = .finished := by
  constructor
  · intro hr
    by_cases hi : w.Idle
    · exact .inl hi
    · rcases w.exists_move with hq | ⟨w', hm⟩
      · exact .inr hq
      · exact absurd ⟨hm, hi⟩ (hr w')
  · rintro (hi | hq) w' ⟨hm, hni⟩
    · exact hni hi
    · cases hm with
      | reply hf ho => rw [hq] at ho hf; cases hf
      | inspect hq' | store hq' _ | told _ hq' _ | receive hq' _ | hangUp hq' _ =>
        rw [hq] at hq'
        cases hq'

/-! ## A client with a session -/

/-- The server with a client that has asked to be told of acknowledgements and responses. -/
def subscribedServer : Gatt :=
  let g : Gatt := { table := ⟨Gatt.layout 512⟩, transreceiveCapacity := 512, localMtu := 512 }
  let g := (g.handle (.connected 1 [1, 2, 3, 4, 5, 6])).1
  let g := (g.handle (.request (.write (Handle.ackValue + 1) [1, 0]))).1
  (g.handle (.request (.write (Handle.transreceiveValue + 1) [1, 0]))).1

/-- The client has written a port name; the arbiter gave the lease 1 and the card the handle 7. -/
def serving (depth : UInt64) (log : List (Bridge.Request × Bridge.Reply)) : Service where
  bridge := { Bridge.ofSettings { queueDepth := depth } true with
    handle := 7
    lease := some 1
    point := .receiving }
  gatt := (subscribedServer.push Handle.sessionValue (Bytes.ofUInt32 7)).1
  log

theorem reachable_serving (depth : UInt64) : ∃ log, (serving depth log).Reachable true := by
  let gatt : Gatt := { table := ⟨Gatt.layout 512⟩, transreceiveCapacity := 512, localMtu := 512 }
  let w₀ : Service := { bridge := .ofSettings { queueDepth := depth } true, gatt }
  let g₁ := (gatt.handle (.connected 1 [1, 2, 3, 4, 5, 6])).1
  let w₁ : Service := { w₀ with gatt := g₁ }
  let g₂ := (g₁.handle (.request (.write (Handle.ackValue + 1) [1, 0]))).1
  let w₂ : Service := { w₀ with gatt := g₂ }
  let w₃ : Service := { w₀ with gatt := subscribedServer }
  let w₄ := w₃.replied (.flag true)
  let w₅ : Service := { w₄ with bridge.inbox := w₄.bridge.inbox.put (.openPort [65]) }
  let w₆ := { w₅ with bridge.inbox := w₄.bridge.inbox }.replied (.message (.openPort [65]))
  let w₇ := w₆.replied (.leased 1)
  let w₈ := w₇.replied (.handle 7)
  let w₉ : Service := { w₈.push Handle.sessionValue (Bytes.ofUInt32 7) with stored := true }
  let w₁₀ := w₉.replied (.flag false)
  have s₁ : Step w₀ w₁ := .event _
  have s₂ : Step w₁ w₂ := .event _
  have s₃ : Step w₂ w₃ := by
    let asked : GattEvent := .request (.write (Handle.transreceiveValue + 1) [1, 0])
    have hg : (g₂.handle asked).1 = subscribedServer := rfl
    have he : Step w₂ { w₂ with gatt := (g₂.handle asked).1 } := .event asked
    rwa [hg] at he
  have s₄ : Step w₃ w₄ := .move (.reply .askAdvertising rfl)
  have hroom : w₄.bridge.inbox.accepts w₄.bridge.isReceiving = true := Bool.or_true _
  have s₅ : Step w₄ w₅ := .post (if_pos hroom)
  have s₆ : Step w₅ w₆ := .move (.receive rfl rfl)
  have s₇ : Step w₆ w₇ := .move (.reply .acquire rfl)
  have s₈ : Step w₇ w₈ := .move (.reply .openPort rfl)
  have s₉ : Step w₈ w₉ := .move (.store rfl rfl)
  have s₁₀ : Step w₉ w₁₀ := .move (.told false rfl rfl)
  have h : w₁₀.Reachable true :=
    ⟨_, 512, 512, gatt, rfl, ((((((((((Relation.ReflTransGen.single s₁).tail s₂).tail s₃).tail
      s₄).tail s₅).tail s₆).tail s₇).tail s₈).tail s₉).tail s₁₀)⟩
  -- stated with the push as it is, which would be evaluated otherwise
  have hw : serving depth w₁₀.log =
      { w₁₀ with gatt := (w₈.gatt.push Handle.sessionValue (Bytes.ofUInt32 7)).1 } := rfl
  exact ⟨w₁₀.log, hw ▸ h⟩

end Service

end EdgeGateway
