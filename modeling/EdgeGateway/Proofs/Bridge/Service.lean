import EdgeGateway.Proofs.Bridge.Sound
import EdgeGateway.Proofs.Gatt.Published
import EdgeGateway.Proofs.Inbox
import Mathlib.Logic.Relation

/-!
# EdgeGateway.Proofs.Bridge.Service

The modem bridge in surroundings that answer as they like.

* `Service`          : the bridge with the attribute server, and all it has asked so far with the
  replies it got.
* `Service.Move`     : the bridge goes on. A value it pushes is stored first; whether the client
  has been told comes later, and other things may happen in between.
* `Service.Step`     : a move, or something that comes from elsewhere.
* `Service.sessions` : what is open at the card, from the replies alone; `Service.held` the same
  for leases.
* `Service.InStep`   : the bridge's handle and lease, what is open and held, and the value clients
  read agree. They do whenever the bridge waits for a message (`Service.kept_in_step`).
-/

namespace EdgeGateway

structure Service where
  bridge : Bridge
  gatt : Gatt
  /-- what has been asked and answered, the latest first -/
  log : List (Bridge.Request × Bridge.Reply) := []
  /-- the value of the push under way has been stored -/
  stored : Bool := false

namespace Service

def replied (w : Service) (r : Bridge.Reply) : Service :=
  { w with
    bridge := w.bridge.resume r
    log := (w.bridge.request, r) :: w.log
    stored := false }

/-- The value is stored where clients read it. -/
def push (w : Service) (handle : UInt16) (value : Bytes) : Service :=
  { w with gatt := (w.gatt.push handle value).1 }

inductive Move : Service → Service → Prop where
  | reply {w : Service} {r : Bridge.Reply} : Bridge.Fits w.bridge.request r →
      w.bridge.request.isOuter = true → Move w (w.replied r)
  | inspect {w : Service} : w.bridge.request = .inspect → Move w
      (w.replied (.view w.gatt.responseCapacity? (w.gatt.canNotify Handle.transreceiveValue)))
  | store {w : Service} {handle : UInt16} {value : Bytes} :
      w.bridge.request = .push handle value → w.stored = false →
      Move w { w.push handle value with stored := true }
  | told {w : Service} {handle : UInt16} {value : Bytes} (sent : Bool) :
      w.bridge.request = .push handle value → w.stored = true → Move w (w.replied (.flag sent))
  | receive {w : Service} {m : BridgeMessage} {inbox : Inbox BridgeMessage} :
      w.bridge.request = .receive → w.bridge.inbox.take? = some (m, inbox) →
      Move w ({ w with bridge.inbox := inbox }.replied (.message m))
  /-- all senders are gone -/
  | hangUp {w : Service} : w.bridge.request = .receive → w.bridge.inbox.items = [] →
      Move w (w.replied .hungUp)

inductive Step : Service → Service → Prop where
  | move {w w' : Service} : Move w w' → Step w w'
  /-- the client connects, writes, leaves -/
  | event {w : Service} (e : GattEvent) : Step w { w with gatt := (w.gatt.handle e).1 }
  /-- another task publishes a value of its own -/
  | push {w : Service} {handle : UInt16} (value : Bytes) : handle ≠ Handle.sessionValue →
      Step w (w.push handle value)
  | post {w : Service} {m : BridgeMessage} {inbox : Inbox BridgeMessage} :
      w.bridge.inbox.offer w.bridge.isReceiving m = some inbox →
      Step w { w with bridge.inbox := inbox }

/-- A bridge that has not ended is never stuck. -/
theorem exists_move (w : Service) : w.bridge.request = .finished ∨ ∃ w', Move w w' := by
  rcases Bridge.fits_cases w.bridge.request with ⟨r, hf⟩ | hq | hq
  · refine .inr ?_
    cases hq : w.bridge.request with
    | push handle value =>
      cases hs : w.stored with
      | false => exact ⟨_, .store hq hs⟩
      | true => exact ⟨_, .told false hq hs⟩
    | inspect => exact ⟨_, .inspect hq⟩
    | receive =>
      rw [hq] at hf
      cases hf
    | _ => exact ⟨_, .reply hf (by rw [hq]; rfl)⟩
  · refine .inr ?_
    cases hi : w.bridge.inbox.take? with
    | none => exact ⟨_, .hangUp hq (Inbox.take?_eq_none.mp hi)⟩
    | some taken => exact ⟨_, .receive hq hi⟩
  · exact .inl hq

/-- A service that began with a fresh table. -/
def Reachable (leases : Bool) (w : Service) : Prop :=
  ∃ settings capacity mtu gatt, Gatt.ofCapacity capacity mtu = .ok gatt ∧
    Relation.ReflTransGen Step { bridge := .ofSettings settings leases, gatt } w

/-! ## What the replies tell -/

/-- The sessions that the card has opened with a handle, and has not been asked to close since. -/
def sessions (w : Service) : List UInt32 :=
  w.log.foldr (fun e sessions => Bridge.openAfter sessions e) []

/-- The leases that the arbiter has granted, and has not been given back since. -/
def held (w : Service) : List Nat := w.log.foldr (fun e leases => Bridge.heldAfter leases e) []

/-- The value is the handle's. It may be empty as long as there is no session. -/
def Current (w : Service) (value : Bytes) : Prop :=
  value = Bytes.ofUInt32 w.bridge.handle ∨ w.bridge.handle = 0 ∧ value = []

/-- The handle is that of the only open session, the lease is the only one held and goes with the
session, and clients read the handle. -/
structure InStep (leases : Bool) (w : Service) : Prop where
  sessions : w.sessions = if w.bridge.handle = 0 then [] else [w.bridge.handle]
  held : w.held = w.bridge.lease.toList
  matched : w.bridge.lease.isSome = true ↔ leases = true ∧ w.bridge.handle ≠ 0
  published : ∃ value, w.gatt.value? Handle.sessionValue = some value ∧ w.Current value

/-! ## What holds from the start -/

structure Sound (leases : Bool) (w : Service) : Prop where
  bridge : w.bridge.Sound
  leases : w.bridge.leases = leases
  sessions : w.sessions = w.bridge.openSessions
  held : w.held = w.bridge.lease.toList
  shown : ∃ value, w.gatt.Shows value ∧
    (w.stored = true ∨ w.bridge.isPublishing = false → w.Current value)

namespace Sound

variable {leases : Bool} {w w' : Service} {r : Bridge.Reply}

theorem start (settings : BleSettings) (leases : Bool) {capacity mtu : Nat} {gatt : Gatt}
    (hg : Gatt.ofCapacity capacity mtu = .ok gatt) :
    Sound leases { bridge := .ofSettings settings leases, gatt } where
  bridge := by simp [Bridge.Sound, Bridge.Matched, Bridge.ofSettings]
  leases := rfl
  sessions := rfl
  held := rfl
  shown := ⟨[], Gatt.shows_of_ofCapacity hg, fun _ => .inr ⟨rfl, rfl⟩⟩

theorem inbox (h : w.Sound leases) (inbox : Inbox BridgeMessage) :
    Sound leases { w with bridge.inbox := inbox } :=
  ⟨h.bridge, h.leases, h.sessions, h.held, h.shown⟩

theorem gatt (h : w.Sound leases) {g : Gatt} (hg : ∀ value, w.gatt.Shows value → g.Shows value) :
    Sound leases { w with gatt := g } := by
  obtain ⟨value, hv, hc⟩ := h.shown
  exact ⟨h.bridge, h.leases, h.sessions, h.held, value, hg value hv, hc⟩

theorem replied (h : w.Sound leases)
    (hk : Bridge.Keeps w.bridge w.bridge.request r (w.bridge.resume r))
    (hp : (w.bridge.resume r).isPublishing = false →
      w.stored = true ∨ w.bridge.isPublishing = false) : (w.replied r).Sound leases where
  bridge := hk.sound
  leases := hk.leases.trans h.leases
  sessions := (congrArg (Bridge.openAfter · _) h.sessions).trans hk.sessions.symm
  held := (congrArg (Bridge.heldAfter · _) h.held).trans hk.held.symm
  shown := by
    obtain ⟨value, hv, hc⟩ := h.shown
    refine ⟨value, hv, fun hs => ?_⟩
    have hs : (w.bridge.resume r).isPublishing = false := hs.resolve_left nofun
    have hcur := hc (hp hs)
    unfold Current at hcur ⊢
    rwa [show (w.replied r).bridge.handle = w.bridge.handle from hk.handle hs]

/-- The value of the push is the one that is to be published, or leaves that one alone. -/
theorem stored (h : w.Sound leases) {handle : UInt16} {value : Bytes}
    (hq : w.bridge.request = .push handle value) :
    Sound leases { w.push handle value with stored := true } := by
  obtain ⟨old, hv, hc⟩ := h.shown
  refine ⟨h.bridge, h.leases, h.sessions, h.held, ?_⟩
  rcases Bridge.asks_of_request hq with ⟨rfl, rfl⟩ | ⟨hne, hp⟩
  · exact ⟨_, hv.push_session (Nat.le_refl 4), fun _ => .inl rfl⟩
  · exact ⟨old, hv.push_other hne value, fun _ => hc (.inr hp)⟩

theorem answered (h : w.Sound leases) (hf : Bridge.Fits w.bridge.request r)
    (hq : ∀ handle value, w.bridge.request ≠ .push handle value) : (w.replied r).Sound leases :=
  have ht := Bridge.turn_of_fits hf
  h.replied (Bridge.keeps_of_turn h.bridge ht) fun hp => .inr (ht.isPublishing_eq hq hp)

theorem taken (h : w.Sound leases) (hq : w.bridge.request = .receive)
    (ht : Bridge.Takes w.bridge r (w.bridge.resume r)) : (w.replied r).Sound leases := by
  have hp : w.bridge.point = .receiving := Bridge.asks_of_request hq
  refine h.replied ?_ fun _ => .inr (by simp [Bridge.isPublishing, hp])
  rw [hq]
  exact Bridge.keeps_of_takes h.bridge hp ht

theorem move (h : w.Sound leases) (hm : Move w w') : w'.Sound leases := by
  cases hm with
  | @reply r hf ho =>
    refine h.answered hf fun handle value hq => ?_
    rw [hq] at ho
    cases ho
  | inspect hq => exact h.answered (by rw [hq]; exact .inspect) (by rw [hq]; exact nofun)
  | store hq _ => exact h.stored hq
  | told sent hq hs =>
    have ht := Bridge.turn_of_fits (b := w.bridge) (r := .flag sent) (by rw [hq]; exact .push)
    exact h.replied (Bridge.keeps_of_turn h.bridge ht) fun _ => .inl hs
  | @receive m inbox hq _ =>
    exact (h.inbox inbox).taken hq
      (Bridge.takes_message (b := { w.bridge with inbox }) hq m)
  | hangUp hq _ => exact h.taken hq (Bridge.takes_hungUp hq)

theorem step (h : w.Sound leases) (hs : Step w w') : w'.Sound leases := by
  cases hs with
  | move hm => exact h.move hm
  | event e => exact h.gatt fun _ hv => hv.handle e
  | push value hne => exact h.gatt fun _ hv => hv.push_other hne value
  | post _ => exact h.inbox _

theorem reach (h : w.Reachable leases) : w.Sound leases := by
  obtain ⟨settings, capacity, mtu, gatt, hg, h⟩ := h
  induction h with
  | refl => exact start settings leases hg
  | tail _ hs ih => exact ih.step hs

/-- Between two messages nothing is under way. -/
theorem inStep (h : w.Sound leases) (ho : w.bridge.openHandle = w.bridge.handle)
    (hm : w.bridge.Matched) (hp : w.bridge.isPublishing = false) : w.InStep leases where
  sessions := by rw [h.sessions, Bridge.openSessions, ho]
  held := h.held
  matched := h.leases ▸ hm
  published := by
    obtain ⟨value, hv, hc⟩ := h.shown
    exact ⟨value, hv.value?_eq, hc (.inr hp)⟩

end Sound

/-- Whatever messages come and whatever is answered, the bridge's session, its lease and the
published handle are in step whenever it waits for a message and when it has ended. It asks the
card for exchanges, and to close, with the handle of the open session only and while it holds the
lease; and it has ended with nothing open and nothing held. -/
theorem kept_in_step {leases : Bool} {w : Service} (h : w.Reachable leases) :
    (w.bridge.request = .receive ∨ w.bridge.request = .finished → w.InStep leases) ∧
    (∀ handle, (w.bridge.request = .closePort handle ∨
        ∃ command, w.bridge.request = .exchange handle command) →
      w.sessions = [handle] ∧ (leases = true → ∃ id, w.held = [id])) ∧
    (w.bridge.request = .finished → w.sessions = [] ∧ w.held = []) := by
  have hs := Sound.reach h
  have hb := hs.bridge
  refine ⟨?_, fun handle hq => ?_, fun hq => ?_⟩
  · rintro (hq | hq)
    · have hp : w.bridge.point = .receiving := Bridge.asks_of_request hq
      simp only [Bridge.Sound, hp] at hb
      exact hs.inStep (by simp [Bridge.openHandle, hp]) hb (by simp [Bridge.isPublishing, hp])
    · have hp : w.bridge.point = .finished := Bridge.asks_of_request hq
      simp only [Bridge.Sound, hp] at hb
      exact hs.inStep (by simp [Bridge.openHandle, hp]) (by simp [Bridge.Matched, hb])
        (by simp [Bridge.isPublishing, hp])
  · obtain ⟨ho, hz, hl⟩ := hb.asks_card hq
    refine ⟨by rw [hs.sessions, Bridge.openSessions, ho, if_neg hz], fun hls => ?_⟩
    obtain ⟨id, hid⟩ := Option.isSome_iff_exists.mp (hl.trans (hs.leases.trans hls))
    exact ⟨id, by rw [hs.held, hid]; rfl⟩
  · have hp : w.bridge.point = .finished := Bridge.asks_of_request hq
    simp only [Bridge.Sound, hp] at hb
    rw [hs.sessions, hs.held, hb.2]
    simp [Bridge.openSessions, Bridge.openHandle, hp, hb]

/-- A client has opened a session: the card gave it the handle 7, the arbiter the lease 1. -/
theorem kept_in_step_after_open :
    ∃ w : Service, w.Reachable true ∧ w.bridge.request = .receive ∧ w.InStep true ∧
      w.sessions = [7] ∧ w.held = [1] ∧ w.gatt.value? Handle.sessionValue = some [7, 0, 0, 0] := by
  let gatt : Gatt := { table := ⟨Gatt.layout 512⟩, transreceiveCapacity := 512, localMtu := 512 }
  let w₀ : Service := { bridge := .ofSettings {} true, gatt }
  let w₁ := w₀.replied (.flag true)
  let w₂ : Service := { w₁ with bridge.inbox := w₁.bridge.inbox.put (.openPort [65]) }
  let w₃ := { w₂ with bridge.inbox := w₁.bridge.inbox }.replied (.message (.openPort [65]))
  let w₄ := w₃.replied (.leased 1)
  let w₅ := w₄.replied (.handle 7)
  let w₆ : Service := { w₅.push Handle.sessionValue [7, 0, 0, 0] with stored := true }
  let w₇ := w₆.replied (.flag false)
  have s₁ : Step w₀ w₁ := .move (.reply .askAdvertising rfl)
  have s₂ : Step w₁ w₂ := .post rfl
  have s₃ : Step w₂ w₃ := .move (.receive rfl rfl)
  have s₄ : Step w₃ w₄ := .move (.reply .acquire rfl)
  have s₅ : Step w₄ w₅ := .move (.reply .openPort rfl)
  have q₅ : w₅.bridge.request = .push Handle.sessionValue [7, 0, 0, 0] := by decide
  have s₆ : Step w₅ w₆ := .move (.store q₅ rfl)
  have s₇ : Step w₆ w₇ := .move (.told false rfl rfl)
  have h : w₇.Reachable true :=
    ⟨{}, 512, 512, gatt, rfl, ((((((Relation.ReflTransGen.single s₁).tail s₂).tail s₃).tail s₄).tail
      s₅).tail s₆).tail s₇⟩
  exact ⟨w₇, h, rfl, (kept_in_step h).1 (.inl rfl), rfl, rfl, by decide⟩

end Service

end EdgeGateway
