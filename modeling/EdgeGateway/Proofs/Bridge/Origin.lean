import EdgeGateway.Proofs.Bridge.Handling
import EdgeGateway.Proofs.Chunk.Reassembly
import Mathlib.Data.List.Forall2

/-!
# EdgeGateway.Proofs.Bridge.Origin

Which client a response goes to, and which clients wrote the command (`Traced.response_origin`).

* `Traced`            : the bridge and the attribute server, with a record of the events, and of
  the chunks that are queued, collected and in hand. The record takes no part in what happens
  (`Traced.Step.steps`, `Traced.exists_step`).
* `Sent`              : a notification, the events up to it, and the chunks of the command in hand.
* `Written.Genuine`   : the chunk was written by a client, at the time that the record tells.
* `clients`           : how many clients have come.
-/

namespace EdgeGateway

/-! ## Clients -/

def GattEvent.isConnected : GattEvent → Bool
  | .connected _ _ => true
  | _ => false

/-- How many clients have come by then. The number stands for the one that came last. -/
def clients (past : List GattEvent) : Nat := past.countP GattEvent.isConnected

/-- The number of the connection, zero if there is none. The latest event comes first. -/
def connectionOf : List GattEvent → UInt16
  | [] | .disconnected _ :: _ => 0
  | .connected connection _ :: _ => connection
  | _ :: past => connectionOf past

theorem clients_append_eq_iff (since past : List GattEvent) :
    clients past = clients (since ++ past) ↔ ∀ e ∈ since, e.isConnected = false := by
  unfold clients
  rw [List.countP_append, eq_comm, Nat.add_eq_right, List.countP_eq_zero]
  simp only [Bool.not_eq_true]

/-- Who is there has been there as long as nobody else has come. -/
theorem connectionOf_append {since past : List GattEvent}
    (hquiet : ∀ e ∈ since, e.isConnected = false) (hthere : connectionOf (since ++ past) ≠ 0) :
    connectionOf past = connectionOf (since ++ past) := by
  induction since with
  | nil => rfl
  | cons e since ih =>
    have hrest := ih fun e' he => hquiet e' (List.mem_cons_of_mem _ he)
    cases e with
    | connected connection peer => cases hquiet _ List.mem_cons_self
    | disconnected connection => exact absurd rfl hthere
    | request q => exact hrest hthere
    | buffer => exact hrest hthere

namespace Gatt

variable {g : Gatt}

theorem connection_push (g : Gatt) (handle : UInt16) (value : Bytes) :
    (g.push handle value).1.connection = g.connection := by
  unfold push
  split
  · rfl
  · dsimp only
    split
    · rfl
    · split <;> rfl

/-- A notification is for the client that is there. -/
theorem eq_of_push {handle : UInt16} {value : Bytes} {n : Notification}
    (h : (g.push handle value).2 = some n) :
    n = ⟨g.connection.id, handle, value⟩ ∧ g.connection.id ≠ 0 := by
  unfold push at h
  split at h
  · cases h
  · dsimp only [connectionId?] at h
    by_cases hz : g.connection.id = 0
    · rw [if_pos hz] at h
      cases h
    · rw [if_neg hz] at h
      dsimp only at h
      split at h <;> cases h
      exact ⟨rfl, hz⟩

theorem connection_handleWrite (g : Gatt) (handle : UInt16) (value : Bytes) :
    (g.handleWrite handle value).1.connection = g.connection := by
  unfold handleWrite
  split
  · rfl
  · dsimp only
    (repeat' split) <;> rfl

theorem connection_handle {past : List GattEvent} (h : g.connection.id = connectionOf past)
    (e : GattEvent) : (g.handle e).1.connection.id = connectionOf (e :: past) := by
  cases e with
  | connected connection peer | disconnected connection => rfl
  | buffer => exact h
  | request r =>
    cases r with
    | write handle value =>
      have hc := g.connection_handleWrite handle value
      exact (congrArg Connection.id hc).trans h
    | read | readByType | mtuExchange | confirmation => exact h

/-- A chunk for the bridge is what a client has just written. -/
theorem eq_write_of_forward {e : GattEvent} {value : Bytes} {r : GattResponse}
    (h : (g.handle e).2 = .forward (.transreceive value) r) :
    e = .request (.write Handle.transreceiveValue value) := by
  cases e with
  | connected | disconnected | buffer => cases h
  | request q =>
    cases q with
    | read | readByType | mtuExchange | confirmation => cases h
    | write handle value' =>
      simp only [Gatt.handle, handleRequest, handleWrite] at h
      split at h
      · cases h
      · split at h
        · cases h
        · split at h
          · cases h
          · split at h
            · rename_i hh
              cases h
              rw [hh]
            · split at h <;> cases h

end Gatt

/-! ## The record -/

/-- A chunk's data, and the events up to when it was written, that write in front. -/
structure Written where
  data : Bytes
  past : List GattEvent
  deriving DecidableEq

/-- The write is among the events, and its value a chunk with the data. -/
structure Written.Genuine (past : List GattEvent) (c : Written) : Prop where
  earlier : c.past <:+ past
  written : ∃ value chunk before, Chunk.Request.decode value = .ok chunk ∧ chunk.data = c.data ∧
    c.past = .request (.write Handle.transreceiveValue value) :: before

/-- A notification, the events up to when it was made out, and the command in hand by then. -/
structure Sent where
  notification : Notification
  past : List GattEvent
  command : List Written

structure Traced where
  service : Service
  /-- the events, the latest first -/
  past : List GattEvent := []
  /-- for each message in the bridge's queue the events up to it -/
  queued : List (List GattEvent) := []
  /-- the chunks in the receive buffer -/
  collected : List Written := []
  /-- the chunks of the command in hand -/
  hand : List Written := []
  sent : List Sent := []

namespace Bridge

/-- The chunk that a message brings for the open session. -/
def chunk? (b : Bridge) : BridgeMessage → Option Chunk.Request
  | .transreceive value =>
    match Chunk.Request.decode value with
    | .ok chunk => if b.handle = 0 ∨ chunk.handle ≠ b.handle then none else some chunk
    | .error _ => none
  | _ => none

/-- What the bridge is at is a command, or the response to one. -/
def Point.hasCommand : Point → Bool
  | .acknowledging command => command.isSome
  | .exchanging _ | .answering _ | .notifying _ _ | .pausing _ _ => true
  | _ => false

variable {b b' : Bridge} {q : Request} {r : Reply} {m : BridgeMessage}

/-- Only the chunks of a response are pushed to where the client reads responses. -/
theorem notifying_of_push {value : Bytes} (h : b.request = .push Handle.transreceiveValue value) :
    ∃ rest, b.point = .notifying value rest := by
  cases hp : b.point with
  | notifying chunk rest =>
    simp only [request, hp, Request.push.injEq, true_and] at h
    exact ⟨rest, by rw [h]⟩
  | returning | releasing next =>
    simp only [request, hp] at h
    split at h <;> cases h
  | _ => simp [request, hp, Handle.transreceiveValue, Handle.sessionValue, Handle.ackValue] at h

theorem eq_of_chunk? {chunk : Chunk.Request} (h : b.chunk? m = some chunk) :
    ∃ value, m = .transreceive value ∧ Chunk.Request.decode value = .ok chunk ∧
      ¬ (b.handle = 0 ∨ chunk.handle ≠ b.handle) := by
  cases m with
  | disconnected | shutdown | openPort value | closePort value => cases h
  | transreceive value =>
    simp only [chunk?] at h
    cases hd : Chunk.Request.decode value with
    | error e =>
      rw [hd] at h
      cases h
    | ok chunk' =>
      rw [hd] at h
      obtain ⟨hmine, he⟩ := Option.ite_none_left_eq_some.mp h
      cases he
      exact ⟨value, rfl, hd, hmine⟩

theorem Turn.buffer (ht : Turn b q r b') :
    b'.reassembler.buffer = b.reassembler.buffer ∨ b'.reassembler.buffer = [] := by
  cases ht with
  | opened _ _ | closed _ => exact .inr rfl
  | answered _ =>
    rcases b.respond_cases _ _ with he | ⟨chunk, rest, he⟩ <;> rw [he] <;> exact .inl rfl
  | @released next _ => cases next <;> exact .inl rfl
  | _ => exact .inl rfl

theorem buffer_closeSession (b : Bridge) (next : Next) :
    (b.closeSession next).reassembler.buffer = b.reassembler.buffer := by
  unfold closeSession
  split <;> rfl

theorem hasCommand_closeSession (b : Bridge) (next : Next) :
    (b.closeSession next).point.hasCommand = false := by
  unfold closeSession
  split <;> rfl

theorem Takes.buffer (ht : Takes b (.message m) b') (hm : ∀ value, m ≠ .transreceive value) :
    b'.reassembler.buffer = b.reassembler.buffer ∧ b'.point.hasCommand = false := by
  cases ht with
  | gone | told | closes _ _ => exact ⟨b.buffer_closeSession _, b.hasCommand_closeSession _⟩
  | opens _ _ =>
    refine ⟨rfl, ?_⟩
    split <;> rfl
  | collects _ _ => exact absurd rfl (hm _)
  | ignores => exact ⟨rfl, rfl⟩

/-- A message without a chunk of the open session leaves the buffer alone. -/
theorem receive_of_none (h : b.chunk? m = none) :
    (b.receive m).reassembler.buffer = b.reassembler.buffer ∧
      (b.receive m).point.hasCommand = false := by
  cases m with
  | transreceive value =>
    rw [receive, collect]
    simp only [chunk?] at h
    split
    · exact ⟨rfl, rfl⟩
    · rename_i chunk hd
      simp only [hd, ite_eq_left_iff, reduceCtorEq, imp_false, not_not] at h
      rw [if_pos h]
      exact ⟨rfl, rfl⟩
  | disconnected | shutdown | openPort value | closePort value =>
    exact (b.takes_receive _).buffer nofun

/-- A chunk of the open session joins the buffer, or empties it. A command that the bridge gets
from it is all that has been collected. -/
theorem receive_of_some {chunk : Chunk.Request} (h : b.chunk? m = some chunk) :
    ∃ all, all = (if chunk.indicator = .first then [] else b.reassembler.buffer) ++ chunk.data ∧
      ((b.receive m).reassembler.buffer = all ∨ (b.receive m).reassembler.buffer = []) ∧
      ((b.receive m).point.hasCommand = false ∨
        (b.receive m).point = .acknowledging (some all) ∨
        (b.receive m).point = .exchanging all) := by
  refine ⟨_, rfl, ?_⟩
  obtain ⟨value, rfl, hd, hmine⟩ := eq_of_chunk? h
  have hpush := b.reassembler.push_gathers chunk.indicator chunk.data
  simp only [receive, collect, hd, if_neg hmine]
  cases hp : b.reassembler.push chunk.indicator chunk.data with
  | mk r result =>
    rw [hp] at hpush
    obtain ⟨hbuffer, hmessage⟩ := hpush
    cases result with
    | appended | empty | nothing | overflow => exact ⟨hbuffer, .inl rfl⟩
    | complete message =>
      cases hmessage message rfl
      dsimp only
      split
      · exact ⟨hbuffer, .inr (.inr rfl)⟩
      · exact ⟨hbuffer, .inr (.inl rfl)⟩

end Bridge

namespace Traced

/-- Nothing has been collected when the buffer is empty. -/
def trim (b : Bridge) (collected : List Written) : List Written :=
  if b.reassembler.buffer = [] then [] else collected

/-- An event, which may put a message into the bridge's queue. -/
def handle (t : Traced) (e : GattEvent) : Traced :=
  let service := (t.service.handle e).1
  let past := e :: t.past
  let queued :=
    if service.bridge.inbox = t.service.bridge.inbox then t.queued else t.queued ++ [past]
  { t with service, past, queued }

/-- The chunks collected once a message has been taken, the command's if it is whole. -/
def gathered (b : Bridge) (collected : List Written) (m : BridgeMessage)
    (upTo : List GattEvent) : List Written :=
  match b.chunk? m with
  | none => collected
  | some chunk => (if chunk.indicator = .first then [] else collected) ++ [⟨chunk.data, upTo⟩]

def take (t : Traced) (m : BridgeMessage) (inbox : Inbox BridgeMessage) : Traced :=
  let before := { t.service with bridge.inbox := inbox }
  let service := before.replied (.message m)
  let gathered := gathered before.bridge t.collected m (t.queued.headD [])
  { t with
    service
    queued := t.queued.tail
    collected := trim service.bridge gathered
    hand := if service.bridge.point.hasCommand then gathered else t.hand }

def replied (t : Traced) (r : Bridge.Reply) : Traced :=
  let service := t.service.replied r
  { t with service, collected := trim service.bridge t.collected }

/-- The bridge stores a value, and makes out the notification if the client wants it. -/
def store (t : Traced) (handle : UInt16) (value : Bytes) : Traced :=
  let notification := (t.service.gatt.push handle value).2
  { t with
    service := { t.service.push handle value with stored := true }
    sent := (notification.map fun n => ⟨n, t.past, t.hand⟩).toList ++ t.sent }

inductive Step : Traced → Traced → Prop where
  | event {t : Traced} (e : GattEvent) : Step t (t.handle e)
  /-- another task ends the bridge -/
  | shutdown {t : Traced} {inbox : Inbox BridgeMessage} :
      t.service.bridge.inbox.offer t.service.bridge.isReceiving .shutdown = some inbox →
      Step t { t with service.bridge.inbox := inbox, queued := t.queued ++ [t.past] }
  /-- another task publishes a value of its own -/
  | push {t : Traced} {handle : UInt16} (value : Bytes) :
      handle ≠ Handle.sessionValue → handle ≠ Handle.transreceiveValue →
      Step t { t with service := t.service.push handle value }
  | take {t : Traced} {m : BridgeMessage} {inbox : Inbox BridgeMessage} :
      t.service.bridge.request = .receive → t.service.bridge.inbox.take? = some (m, inbox) →
      Step t (t.take m inbox)
  | reply {t : Traced} {r : Bridge.Reply} : Service.Move t.service (t.service.replied r) →
      (∀ m, r ≠ .message m) → Step t (t.replied r)
  | store {t : Traced} {handle : UInt16} {value : Bytes} :
      t.service.bridge.request = .push handle value → t.service.stored = false →
      Step t (t.store handle value)

variable {leases : Bool} {t t' : Traced}

/-- A service that began with a fresh table, and all that has been recorded since. -/
def Reachable (leases : Bool) (t : Traced) : Prop :=
  ∃ settings capacity mtu gatt, Gatt.ofCapacity capacity mtu = .ok gatt ∧
    Relation.ReflTransGen Step { service := { bridge := .ofSettings settings leases, gatt } } t

/-! ## The record takes no part -/

theorem Step.steps (h : Step t t') : Relation.ReflTransGen Service.Step t.service t'.service := by
  cases h with
  | event e => exact t.service.handle_steps e
  | shutdown ho => exact .single (.post ho)
  | push value hs _ => exact .single (.push value hs)
  | take hq htake => exact .single (.move (.receive hq htake))
  | reply hm _ => exact .single (.move hm)
  | store hq hs => exact .single (.move (.store hq hs))

theorem exists_step {w : Service} (hm : Service.Move t.service w) :
    ∃ t', Step t t' ∧ t'.service = w := by
  have hm' := hm
  cases hm with
  | reply hf _ => exact ⟨_, .reply hm' hf.ne_message, rfl⟩
  | inspect _ | told _ _ _ | hangUp _ _ => exact ⟨_, .reply hm' nofun, rfl⟩
  | store hq hs => exact ⟨_, .store hq hs, rfl⟩
  | receive hq htake => exact ⟨_, .take hq htake, rfl⟩

theorem Reachable.service (h : t.Reachable leases) : t.service.Reachable leases := by
  obtain ⟨settings, capacity, mtu, gatt, hg, hreach⟩ := h
  refine ⟨settings, capacity, mtu, gatt, hg, ?_⟩
  induction hreach with
  | refl => exact .refl
  | tail _ hs ih => exact ih.trans hs.steps

theorem Reachable.step (h : t.Reachable leases) (hs : Step t t') : t'.Reachable leases := by
  obtain ⟨settings, capacity, mtu, gatt, hg, hreach⟩ := h
  exact ⟨settings, capacity, mtu, gatt, hg, hreach.tail hs⟩

/-! ## What holds of the record -/

/-- The value is a chunk of what the card answered to the command. -/
def Answers (log : List (Bridge.Request × Bridge.Reply)) (command : List Written)
    (value : Bytes) : Prop :=
  ∃ handle response capacity,
    (.exchange handle (command.flatMap (·.data)), .data response) ∈ log ∧
    value ∈ (Chunk.piecesFrom capacity true response).map fun (i, data) =>
      Chunk.Response.encode ⟨i, data⟩

/-- What the bridge is at comes from the command in hand. -/
def InHand (log : List (Bridge.Request × Bridge.Reply)) (command : List Written) :
    Bridge.Point → Prop
  | .acknowledging (some bytes) | .exchanging bytes =>
    command ≠ [] ∧ command.flatMap (·.data) = bytes
  | .answering response => command ≠ [] ∧
    ∃ handle, (.exchange handle (command.flatMap (·.data)), .data response) ∈ log
  | .notifying chunk rest | .pausing chunk rest =>
    command ≠ [] ∧ ∀ value ∈ chunk :: rest, Answers log command value
  | _ => True

/-- The events up to a message. A chunk's end with its write. -/
def Came (past : List GattEvent) (m : BridgeMessage) (upTo : List GattEvent) : Prop :=
  upTo <:+ past ∧ ∀ value, m = .transreceive value →
    ∃ before, upTo = .request (.write Handle.transreceiveValue value) :: before

/-- Whom a response goes to, and what it is the response to. -/
structure Accounted (log : List (Bridge.Request × Bridge.Reply)) (d : Sent) : Prop where
  connection : d.notification.connection = connectionOf d.past
  connected : d.notification.connection ≠ 0
  nonempty : d.command ≠ []
  answers : Answers log d.command d.notification.value
  genuine : ∀ c ∈ d.command, c.Genuine d.past

structure Sound (t : Traced) : Prop where
  queued : List.Forall₂ (Came t.past) t.service.bridge.inbox.items t.queued
  buffer : t.collected.flatMap (·.data) = t.service.bridge.reassembler.buffer
  collected : ∀ c ∈ t.collected, c.Genuine t.past
  hand : ∀ c ∈ t.hand, c.Genuine t.past
  inHand : InHand t.service.log t.hand t.service.bridge.point
  connection : t.service.gatt.connection.id = connectionOf t.past
  sent : ∀ d ∈ t.sent, d.past <:+ t.past ∧
    (d.notification.handle = Handle.transreceiveValue → Accounted t.service.log d)

theorem Answers.mono {log log' : List (Bridge.Request × Bridge.Reply)} {command : List Written}
    {value : Bytes} (h : Answers log command value) (hl : ∀ e ∈ log, e ∈ log') :
    Answers log' command value := by
  obtain ⟨handle, response, capacity, hmem, hvalue⟩ := h
  exact ⟨handle, response, capacity, hl _ hmem, hvalue⟩

theorem Accounted.mono {log log' : List (Bridge.Request × Bridge.Reply)} {d : Sent}
    (h : Accounted log d) (hl : ∀ e ∈ log, e ∈ log') : Accounted log' d :=
  { h with answers := h.answers.mono hl }

theorem mem_trim {b : Bridge} {collected : List Written} {c : Written}
    (h : c ∈ trim b collected) : c ∈ collected := by
  unfold trim at h
  split at h
  · cases h
  · exact h

theorem flatMap_trim {b : Bridge} {collected : List Written}
    (h : b.reassembler.buffer = collected.flatMap (·.data) ∨ b.reassembler.buffer = []) :
    (trim b collected).flatMap (·.data) = b.reassembler.buffer := by
  unfold trim
  split
  · rename_i hnil
    exact hnil.symm
  · rename_i hne
    exact (h.resolve_right hne).symm

/-- All that is gathered is what the bridge has made of the chunks. -/
theorem receive_gathered {b : Bridge} {collected : List Written}
    (hbuffer : collected.flatMap (·.data) = b.reassembler.buffer) (m : BridgeMessage)
    (upTo : List GattEvent) :
    ∃ all, all = gathered b collected m upTo ∧
      ((b.receive m).reassembler.buffer = all.flatMap (·.data) ∨
        (b.receive m).reassembler.buffer = []) ∧
      ((b.receive m).point.hasCommand = false ∨ all ≠ [] ∧
        ((b.receive m).point = .acknowledging (some (all.flatMap (·.data))) ∨
          (b.receive m).point = .exchanging (all.flatMap (·.data)))) := by
  refine ⟨_, rfl, ?_⟩
  unfold gathered
  cases hc : b.chunk? m with
  | none =>
    obtain ⟨hsame, hno⟩ := Bridge.receive_of_none hc
    exact ⟨.inl (hsame.trans hbuffer.symm), .inl hno⟩
  | some chunk =>
    obtain ⟨all, hall, hbuf, hpoint⟩ := Bridge.receive_of_some hc
    have hdata (written : List Written) (c : Written) :
        (written ++ [c]).flatMap (·.data) = written.flatMap (·.data) ++ c.data := by
      rw [List.flatMap_append, List.flatMap_singleton]
    have hstart : (if chunk.indicator = .first then [] else collected).flatMap (·.data) =
        if chunk.indicator = .first then [] else b.reassembler.buffer := by
      rw [← hbuffer]
      split <;> rfl
    simp only [hdata, hstart, ← hall]
    refine ⟨hbuf, ?_⟩
    rcases hpoint with hno | hpoint
    · exact .inl hno
    · exact .inr ⟨List.append_ne_nil_of_right_ne_nil _ (List.cons_ne_nil _ _), hpoint⟩

theorem genuine_gathered {b : Bridge} {collected : List Written} {past upTo : List GattEvent}
    {m : BridgeMessage} (hc : ∀ c ∈ collected, c.Genuine past) (hm : Came past m upTo) :
    ∀ c ∈ gathered b collected m upTo, c.Genuine past := by
  intro c h
  unfold gathered at h
  split at h
  · exact hc c h
  · rename_i chunk hchunk
    rcases List.mem_append.mp h with h | h
    · split at h
      · cases h
      · exact hc c h
    · rw [List.mem_singleton.mp h]
      obtain ⟨value, rfl, hd, -⟩ := Bridge.eq_of_chunk? hchunk
      obtain ⟨before, hbefore⟩ := hm.2 value rfl
      exact ⟨hm.1, value, chunk, before, hd, rfl, hbefore⟩

section InHand

variable {log : List (Bridge.Request × Bridge.Reply)} {command : List Written}

theorem inHand_of_not {p : Bridge.Point} (h : p.hasCommand = false) : InHand log command p := by
  unfold InHand
  split <;> simp_all [Bridge.Point.hasCommand]

/-- A burst goes on with what is left of it. -/
theorem inHand_of_burst {chunk next : Bytes} {rest : List Bytes} {e : Bridge.Request × Bridge.Reply}
    (h : command ≠ [] ∧ ∀ value ∈ chunk :: next :: rest, Answers log command value) :
    command ≠ [] ∧ ∀ value ∈ next :: rest, Answers (e :: log) command value :=
  ⟨h.1, fun value hv =>
    (h.2 value (List.mem_cons_of_mem _ hv)).mono fun _ he => List.mem_cons_of_mem _ he⟩

theorem inHand_of_turn {b b' : Bridge} {q : Bridge.Request} {r : Bridge.Reply}
    (h : InHand log command b.point) (ht : Bridge.Turn b q r b') :
    InHand ((q, r) :: log) command b'.point := by
  cases ht with
  | @acknowledged bytes _ hp =>
    rw [hp] at h
    cases bytes with
    | none => trivial
    | some bytes => exact h
  | @exchanged bytes response hp =>
    rw [hp] at h
    obtain ⟨hne, rfl⟩ := h
    exact ⟨hne, b.handle, List.mem_cons_self⟩
  | @answered response capacity hp =>
    rw [hp] at h
    obtain ⟨hne, handle, hmem⟩ := h
    unfold Bridge.respond
    split
    · trivial
    · rename_i chunk rest hburst
      refine ⟨hne, fun value hv => ⟨handle, response, capacity, List.mem_cons_of_mem _ hmem, ?_⟩⟩
      rw [hburst]
      exact hv
  | @notified chunk next rest hp =>
    rw [hp] at h
    split <;> exact inHand_of_burst h
  | @paused chunk rest hp =>
    rw [hp] at h
    exact ⟨h.1, fun value hv => (h.2 value hv).mono fun _ he => List.mem_cons_of_mem _ he⟩
  | @checked on _ => cases on <;> trivial
  | @released next _ => cases next <;> trivial
  | notOpened _ _ =>
    unfold Bridge.giveUp
    split <;> trivial
  | _ => trivial

end InHand

theorem Sound.start (settings : BleSettings) (leases : Bool) {capacity mtu : Nat} {gatt : Gatt}
    (hg : Gatt.ofCapacity capacity mtu = .ok gatt) :
    Sound { service := { bridge := .ofSettings settings leases, gatt } } where
  queued := .nil
  buffer := rfl
  collected := nofun
  hand := nofun
  inHand := trivial
  connection := by
    unfold Gatt.ofCapacity at hg
    cases ht : AttributeTable.ofList (Gatt.layout capacity) with
    | error e =>
      rw [ht] at hg
      cases hg
    | ok table =>
      rw [ht] at hg
      cases hg
      rfl
  sent := nofun

namespace Sound

theorem event (h : t.Sound) (e : GattEvent) : (t.handle e).Sound := by
  have hpast : t.past <:+ e :: t.past := List.suffix_cons e t.past
  have genuine {written : List Written} (hw : ∀ c ∈ written, c.Genuine t.past) :
      ∀ c ∈ written, c.Genuine (e :: t.past) :=
    fun c hc => ⟨(hw c hc).earlier.trans hpast, (hw c hc).written⟩
  have hqueued : List.Forall₂ (Came (e :: t.past)) t.service.bridge.inbox.items t.queued :=
    h.queued.imp fun _ _ hm => ⟨hm.1.trans hpast, hm.2⟩
  have hconnection := Gatt.connection_handle h.connection e
  have hsent : ∀ d ∈ t.sent, d.past <:+ e :: t.past ∧
      (d.notification.handle = Handle.transreceiveValue → Accounted t.service.log d) :=
    fun d hd => ⟨(h.sent d hd).1.trans hpast, (h.sent d hd).2⟩
  rcases t.service.handle_cases e with hw | ⟨m, r, inbox, hforward, ho, hw⟩
  · have ht : t.handle e =
        { t with service.gatt := (t.service.gatt.handle e).1, past := e :: t.past } := by
      simp only [handle, hw, if_true]
    rw [ht]
    exact ⟨hqueued, h.buffer, genuine h.collected, genuine h.hand, h.inHand, hconnection, hsent⟩
  · have hinbox := Inbox.eq_put_of_offer ho
    have hne : inbox ≠ t.service.bridge.inbox := by
      rw [hinbox]
      exact fun he => by simpa [Inbox.put] using congrArg Inbox.items he
    have hcame : Came (e :: t.past) m (e :: t.past) := by
      refine ⟨List.suffix_rfl, fun value hm => ⟨t.past, ?_⟩⟩
      rw [hm] at hforward
      rw [Gatt.eq_write_of_forward hforward]
    have hput : List.Forall₂ (Came (e :: t.past)) inbox.items (t.queued ++ [e :: t.past]) := by
      rw [hinbox]
      exact List.rel_append hqueued (.cons hcame .nil)
    simp only [handle, hw, if_neg hne]
    exact ⟨hput, h.buffer, genuine h.collected, genuine h.hand, h.inHand, hconnection, hsent⟩

theorem shutdown (h : t.Sound) {inbox : Inbox BridgeMessage}
    (ho : t.service.bridge.inbox.offer t.service.bridge.isReceiving .shutdown = some inbox) :
    Sound { t with service.bridge.inbox := inbox, queued := t.queued ++ [t.past] } := by
  have hcame : Came t.past .shutdown t.past := ⟨List.suffix_rfl, nofun⟩
  have hput : List.Forall₂ (Came t.past) inbox.items (t.queued ++ [t.past]) := by
    rw [Inbox.eq_put_of_offer ho]
    exact List.rel_append h.queued (.cons hcame .nil)
  exact ⟨hput, h.buffer, h.collected, h.hand, h.inHand, h.connection, h.sent⟩

theorem push (h : t.Sound) (handle : UInt16) (value : Bytes) :
    Sound { t with service := t.service.push handle value } :=
  { h with
    connection := by
      rw [← h.connection]
      exact congrArg Connection.id (t.service.gatt.connection_push handle value) }

theorem take (h : t.Sound) {m : BridgeMessage} {inbox : Inbox BridgeMessage}
    (hq : t.service.bridge.request = .receive)
    (htake : t.service.bridge.inbox.take? = some (m, inbox)) : (t.take m inbox).Sound := by
  have hqueued := h.queued
  rw [(Inbox.items_of_take htake).1] at hqueued
  obtain ⟨upTo, later, hcame, hlater, hhead⟩ := List.forall₂_cons_left_iff.mp hqueued
  obtain ⟨w, hw⟩ : ∃ w, w = { t.service with bridge.inbox := inbox } := ⟨_, rfl⟩
  have hq' : w.bridge.request = .receive := by rw [hw]; exact hq
  have hb : (w.replied (.message m)).bridge = w.bridge.receive m := Bridge.resume_message hq' m
  have hbuffer : t.collected.flatMap (·.data) = w.bridge.reassembler.buffer := by
    rw [hw]
    exact h.buffer
  obtain ⟨all, hall, hbuf, hpoint⟩ := receive_gathered hbuffer m upTo
  have hgenuine : ∀ c ∈ all, c.Genuine t.past := by
    rw [hall]
    exact genuine_gathered h.collected hcame
  rw [← hb] at hbuf hpoint
  have ht : t.take m inbox = { t with
      service := w.replied (.message m)
      queued := later
      collected := trim (w.replied (.message m)).bridge all
      hand := if (w.replied (.message m)).bridge.point.hasCommand then all else t.hand } := by
    rw [Traced.take, hhead, hall, hw]
    rfl
  rw [ht]
  refine ⟨?_, flatMap_trim hbuf, fun c hc => hgenuine c (mem_trim hc), ?_, ?_, ?_, ?_⟩
  · rw [hb, (w.bridge.fixed_receive m).inbox, hw]
    exact hlater
  · dsimp only
    split
    · exact hgenuine
    · exact h.hand
  · rcases hpoint with hno | ⟨hne, hpoint⟩
    · exact inHand_of_not hno
    · rcases hpoint with hp | hp <;>
        simp [hp, InHand, Bridge.Point.hasCommand, hne]
  · rw [hw]
    exact h.connection
  · refine fun d hd => ⟨(h.sent d hd).1, fun hh => ((h.sent d hd).2 hh).mono fun e he => ?_⟩
    rw [hw]
    exact List.mem_cons_of_mem _ he

theorem replied (h : t.Sound) {r : Bridge.Reply}
    (hm : Service.Move t.service (t.service.replied r)) (hne : ∀ m, r ≠ .message m) :
    (t.replied r).Sound := by
  have hlog : ∀ e ∈ t.service.log, e ∈ (t.service.replied r).log :=
    fun e he => List.mem_cons_of_mem _ he
  have hsent : ∀ d ∈ t.sent, d.past <:+ t.past ∧
      (d.notification.handle = Handle.transreceiveValue →
        Accounted (t.service.replied r).log d) :=
    fun d hd => ⟨(h.sent d hd).1, fun hh => ((h.sent d hd).2 hh).mono hlog⟩
  have hcollected : ∀ c ∈ (t.replied r).collected, c.Genuine t.past :=
    fun c hc => h.collected c (mem_trim hc)
  rcases hm.of_replied hne with ht | ⟨hq, rfl⟩
  · refine ⟨?_, flatMap_trim ?_, hcollected, h.hand, inHand_of_turn h.inHand ht, h.connection,
      hsent⟩
    · have hinbox : (t.service.replied r).bridge.inbox = t.service.bridge.inbox := ht.fixed.inbox
      exact hinbox ▸ h.queued
    · rw [h.buffer]
      exact ht.buffer
  · have hb : (t.service.replied .hungUp).bridge = t.service.bridge.closeSession .exit :=
      Bridge.resume_hungUp hq
    refine ⟨?_, flatMap_trim ?_, hcollected, h.hand, inHand_of_not ?_, h.connection, hsent⟩
    · have hinbox : (t.service.replied .hungUp).bridge.inbox = t.service.bridge.inbox := by
        rw [hb]
        exact (t.service.bridge.fixed_closeSession _).inbox
      exact hinbox ▸ h.queued
    · rw [hb, h.buffer, Bridge.buffer_closeSession]
      exact .inl rfl
    · exact hb ▸ t.service.bridge.hasCommand_closeSession _

theorem store (h : t.Sound) {handle : UInt16} {value : Bytes}
    (hq : t.service.bridge.request = .push handle value) : (t.store handle value).Sound := by
  refine ⟨h.queued, h.buffer, h.collected, h.hand, h.inHand, ?_, fun d hd => ?_⟩
  · have hc := t.service.gatt.connection_push handle value
    exact (congrArg Connection.id hc).trans h.connection
  · rcases List.mem_append.mp hd with hd | hd
    · rw [Option.mem_toList, Option.map_eq_some_iff] at hd
      obtain ⟨n, hn, rfl⟩ := hd
      obtain ⟨rfl, hz⟩ := Gatt.eq_of_push hn
      refine ⟨List.suffix_rfl, fun hh => ?_⟩
      cases hh
      obtain ⟨rest, hp⟩ := Bridge.notifying_of_push hq
      have hhand := h.inHand
      rw [hp] at hhand
      exact {
        connection := h.connection
        connected := hz
        nonempty := hhand.1
        answers := hhand.2 value List.mem_cons_self
        genuine := h.hand }
    · exact h.sent d hd

theorem step (h : t.Sound) (hs : Step t t') : t'.Sound := by
  cases hs with
  | event e => exact h.event e
  | shutdown ho => exact h.shutdown ho
  | push value _ _ => exact h.push _ value
  | take hq htake => exact h.take hq htake
  | reply hm hne => exact h.replied hm hne
  | store hq _ => exact h.store hq

theorem reach (h : t.Reachable leases) : t.Sound := by
  obtain ⟨settings, capacity, mtu, gatt, hg, hreach⟩ := h
  induction hreach with
  | refl => exact start settings leases hg
  | tail _ hs ih => exact ih.step hs

end Sound

/-! ## Whose response it is -/

/-- The chunk was written on the connection that the notification goes to. -/
def Shares (d : Sent) (c : Written) : Prop :=
  clients c.past = clients d.past ∧ connectionOf c.past = d.notification.connection

/-- Whatever comes in between, a response goes to the client that is there when it is made out,
and its command is made up of chunks that clients have written. They are that client's exactly if
no other client has come since they were written. -/
theorem response_origin (h : t.Reachable leases) {d : Sent} (hd : d ∈ t.sent)
    (hr : d.notification.handle = Handle.transreceiveValue) :
    d.past <:+ t.past ∧ Accounted t.service.log d ∧
    ((∀ c ∈ d.command, Shares d c) ↔ ∀ c ∈ d.command, ∀ since,
      since ++ c.past = d.past → ∀ e ∈ since, e.isConnected = false) := by
  obtain ⟨hpast, haccounted⟩ := (Sound.reach h).sent d hd
  have haccounted := haccounted hr
  refine ⟨hpast, haccounted, forall₂_congr fun c hc => ?_⟩
  obtain ⟨since, hsince⟩ := (haccounted.genuine c hc).earlier
  constructor
  · rintro ⟨hclients, -⟩ since hsince
    rw [← hsince] at hclients
    exact (clients_append_eq_iff since c.past).mp hclients
  · intro hno
    have hquiet := hno since hsince
    have hclients := (clients_append_eq_iff since c.past).mpr hquiet
    have hthere := haccounted.connected
    rw [haccounted.connection, ← hsince] at hthere
    refine ⟨by rw [← hsince]; exact hclients, ?_⟩
    rw [haccounted.connection, ← hsince]
    exact connectionOf_append hquiet hthere

/-! ## A session of one command -/

/-- A client has opened a session and written a command of one byte, and the card is asked. -/
def asking : Traced :=
  let t : Traced := { service := {
    bridge := .ofSettings {} false
    gatt := { table := ⟨Gatt.layout 512⟩, transreceiveCapacity := 512, localMtu := 512 } } }
  let t := t.replied (.flag true)
  let inbox := t.service.bridge.inbox
  let t := t.handle (.connected 1 [1, 2, 3, 4, 5, 6])
  let t := t.handle (.request (.write Handle.portValue [65]))
  let t := t.take (.openPort [65]) inbox
  let t := t.replied (.handle 7)
  let t := (t.store Handle.sessionValue [7, 0, 0, 0]).replied (.flag false)
  let t := t.handle (.request (.write Handle.transreceiveValue [7, 0, 0, 0, 0, 1, 0xaa]))
  let t := t.take (.transreceive [7, 0, 0, 0, 0, 1, 0xaa]) inbox
  (t.store Handle.ackValue [1]).replied (.flag false)

/-- The card answers with one byte, and the client that is there is to be told. -/
def answered (t : Traced) : Traced :=
  let t := t.replied (.data [0x90])
  let view := Bridge.Reply.view t.service.gatt.responseCapacity?
    (t.service.gatt.canNotify Handle.transreceiveValue)
  (t.replied view).store Handle.transreceiveValue [0, 1, 0x90]

theorem reachable_asking : asking.Reachable false := by
  let gatt : Gatt := { table := ⟨Gatt.layout 512⟩, transreceiveCapacity := 512, localMtu := 512 }
  let t₀ : Traced := { service := { bridge := .ofSettings {} false, gatt } }
  let t₁ := t₀.replied (.flag true)
  let inbox := t₁.service.bridge.inbox
  let t₂ := t₁.handle (.connected 1 [1, 2, 3, 4, 5, 6])
  let t₃ := t₂.handle (.request (.write Handle.portValue [65]))
  let t₄ := t₃.take (.openPort [65]) inbox
  let t₅ := t₄.replied (.handle 7)
  let t₆ := t₅.store Handle.sessionValue [7, 0, 0, 0]
  let t₇ := t₆.replied (.flag false)
  let t₈ := t₇.handle (.request (.write Handle.transreceiveValue [7, 0, 0, 0, 0, 1, 0xaa]))
  let t₉ := t₈.take (.transreceive [7, 0, 0, 0, 0, 1, 0xaa]) inbox
  let t₁₀ := t₉.store Handle.ackValue [1]
  let t₁₁ := t₁₀.replied (.flag false)
  have s₁ : Step t₀ t₁ := .reply (.reply .askAdvertising rfl) nofun
  have s₂ : Step t₁ t₂ := .event _
  have s₃ : Step t₂ t₃ := .event _
  have q₃ : t₃.service.bridge.request = .receive := by decide
  have i₃ : t₃.service.bridge.inbox.take? = some (.openPort [65], inbox) := by decide
  have s₄ : Step t₃ t₄ := .take q₃ i₃
  have q₄ : t₄.service.bridge.request = .openPort "A" := by decide
  have f₄ : Bridge.Fits t₄.service.bridge.request (.handle 7) := by
    rw [q₄]
    exact .openPort
  have s₅ : Step t₄ t₅ := .reply (.reply f₄ (by decide)) nofun
  have q₅ : t₅.service.bridge.request = .push Handle.sessionValue [7, 0, 0, 0] := by decide
  have s₆ : Step t₅ t₆ := .store q₅ rfl
  have s₇ : Step t₆ t₇ := .reply (.told false q₅ rfl) nofun
  have s₈ : Step t₇ t₈ := .event _
  have q₈ : t₈.service.bridge.request = .receive := by decide
  have i₈ : t₈.service.bridge.inbox.take? =
      some (.transreceive [7, 0, 0, 0, 0, 1, 0xaa], inbox) := by decide
  have s₉ : Step t₈ t₉ := .take q₈ i₈
  have q₉ : t₉.service.bridge.request = .push Handle.ackValue [1] := by decide
  have s₁₀ : Step t₉ t₁₀ := .store q₉ rfl
  have s₁₁ : Step t₁₀ t₁₁ := .reply (.told false q₉ rfl) nofun
  exact ⟨{}, 512, 512, gatt, rfl, ((((((((((Relation.ReflTransGen.single s₁).tail s₂).tail
    s₃).tail s₄).tail s₅).tail s₆).tail s₇).tail s₈).tail s₉).tail s₁₀).tail s₁₁⟩

theorem reachable_answered (h : t.Reachable leases) {bytes : Bytes} {capacity : Nat}
    {n : Notification} (hp : t.service.bridge.point = .exchanging bytes)
    (hc : t.service.gatt.responseCapacity? = some capacity) (hpos : 0 < capacity)
    (hs : t.service.gatt.canNotify Handle.transreceiveValue = true)
    (hn : (t.service.gatt.push Handle.transreceiveValue [0, 1, 0x90]).2 = some n) :
    t.answered.Reachable leases ∧ ⟨n, t.past, t.hand⟩ ∈ t.answered.sent := by
  let t₁ := t.replied (.data [0x90])
  let view := Bridge.Reply.view t.service.gatt.responseCapacity?
    (t.service.gatt.canNotify Handle.transreceiveValue)
  let t₂ := t₁.replied view
  let t₃ := t₂.store Handle.transreceiveValue [0, 1, 0x90]
  have q₀ : t.service.bridge.request = .exchange t.service.bridge.handle bytes := by
    simp only [Bridge.request, hp]
  have p₁ : t₁.service.bridge.point = .answering [0x90] := by
    simp only [t₁, replied, Service.replied, Bridge.resume, hp, Bridge.goto_point]
  have q₁ : t₁.service.bridge.request = .inspect := by simp only [Bridge.request, p₁]
  have p₂ : t₂.service.bridge.point = .notifying [0, 1, 0x90] [] := by
    have hfit : ([0x90] : Bytes).length ≤ capacity := hpos
    simp only [t₂, view, replied, Service.replied, hc, hs, Bridge.resume, p₁, Bridge.respond,
      Chunk.piecesFrom_of_fits hfit, List.map_cons, List.map_nil]
    rfl
  have q₂ : t₂.service.bridge.request = .push Handle.transreceiveValue [0, 1, 0x90] := by
    simp only [Bridge.request, p₂]
  have s₁ : Step t t₁ := .reply (.reply (by rw [q₀]; exact .exchange) (by rw [q₀]; rfl)) (by simp)
  have s₂ : Step t₁ t₂ := .reply (.inspect q₁) (by simp)
  have s₃ : Step t₂ t₃ := .store q₂ rfl
  have hsent : t.answered.sent =
      ((t.service.gatt.push Handle.transreceiveValue [0, 1, 0x90]).2.map
        (⟨·, t.past, t.hand⟩)).toList ++ t.sent := rfl
  refine ⟨((h.step s₁).step s₂).step s₃, ?_⟩
  rw [hsent, hn]
  exact List.mem_cons_self

/-- A client asks to be told of responses. -/
def subscribe : GattEvent := .request (.write (Handle.transreceiveValue + 1) [1, 0])

/-- The client that wrote the command asks to be told, and is. -/
theorem response_origin_of_writer : ∃ (t : Traced) (d : Sent),
    t.Reachable false ∧ d ∈ t.sent ∧
    d.notification = ⟨1, Handle.transreceiveValue, [0, 1, 0x90]⟩ ∧ d.command ≠ [] ∧
    ∀ c ∈ d.command, Shares d c := by
  let t := asking.handle subscribe
  have ht : t.Reachable false := reachable_asking.step (.event subscribe)
  have hp : t.service.bridge.point = .exchanging [0xaa] := by decide
  have hc : t.service.gatt.responseCapacity? = some 18 := by decide
  have hs : t.service.gatt.canNotify Handle.transreceiveValue = true := by decide
  have hn : (t.service.gatt.push Handle.transreceiveValue [0, 1, 0x90]).2 =
      some ⟨1, Handle.transreceiveValue, [0, 1, 0x90]⟩ := by decide
  obtain ⟨h, hd⟩ := reachable_answered ht hp hc (by decide) hs hn
  obtain ⟨-, haccounted, hiff⟩ := response_origin h hd rfl
  have hhand : t.hand = [⟨[0xaa], asking.past⟩] := by decide
  refine ⟨_, _, h, hd, rfl, haccounted.nonempty, hiff.mpr fun c hc since hsince e he => ?_⟩
  rw [hhand] at hc
  cases List.mem_singleton.mp hc
  have honly : since = [subscribe] :=
    (List.append_left_inj asking.past).mp (hsince : _ = [subscribe] ++ asking.past)
  rw [honly] at he
  cases List.mem_singleton.mp he
  rfl

/-- While the card is asked the client goes. Another one comes, asks to be told, and gets the
response. -/
theorem response_reaches_other_client : ∃ (t : Traced) (d : Sent) (c : Written),
    t.Reachable false ∧ d ∈ t.sent ∧
    d.notification = ⟨2, Handle.transreceiveValue, [0, 1, 0x90]⟩ ∧ c ∈ d.command ∧
    connectionOf c.past = 1 ∧ ¬ Shares d c := by
  let t := ((asking.handle (.disconnected 1)).handle (.connected 2 [6, 5, 4, 3, 2, 1])).handle
    subscribe
  have ht : t.Reachable false :=
    ((reachable_asking.step (.event _)).step (.event _)).step (.event subscribe)
  have hp : t.service.bridge.point = .exchanging [0xaa] := by decide
  have hc : t.service.gatt.responseCapacity? = some 18 := by decide
  have hs : t.service.gatt.canNotify Handle.transreceiveValue = true := by decide
  have hn : (t.service.gatt.push Handle.transreceiveValue [0, 1, 0x90]).2 =
      some ⟨2, Handle.transreceiveValue, [0, 1, 0x90]⟩ := by decide
  have hhand : ⟨[0xaa], asking.past⟩ ∈ t.hand := by decide
  obtain ⟨h, hd⟩ := reachable_answered ht hp hc (by decide) hs hn
  refine ⟨_, _, _, h, hd, rfl, hhand, by decide, fun hshares => ?_⟩
  exact absurd hshares.2 (by decide)

end Traced

end EdgeGateway
