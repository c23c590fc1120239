import EdgeGateway.Chunk.Reassembler
import EdgeGateway.Chunk.Segment
import EdgeGateway.Gatt
import EdgeGateway.Inbox
import EdgeGateway.Settings

/-!
# EdgeGateway.Bridge

The modem bridge: card sessions for a client over the air. The client opens a session by writing
a port name, exchanges commands as chunks, and closes the session by writing its handle back.
Every chunk with data is acknowledged before the next may come; a response goes out as a burst of
notifications.

* `Bridge`         : the session's handle, the lease that goes with it, the command being put
  together, and where the task is.
* `Bridge.request`, `Bridge.resume` : what the task wants at its point, and how it goes on.
* `Bridge.receive` : what a message sets going.
-/

namespace EdgeGateway

namespace Bridge

/-- What follows after the session has been closed. -/
inductive Next where
  | serve
  | advertise
  | exit
  deriving DecidableEq, Inhabited

inductive Point where
  /-- asks whether advertising is on -/
  | checking
  | advertising
  | receiving
  | acquiring (port : String)
  | opening (port : String)
  /-- gives the lease back because the port could not be opened -/
  | returning
  /-- publishes the handle after an attempt to open -/
  | reporting
  | closing (handle : UInt32) (next : Next)
  /-- publishes that no session is open -/
  | clearing (next : Next)
  | releasing (next : Next)
  /-- acknowledges a chunk, after which a command may be complete -/
  | acknowledging (command : Option Bytes)
  | exchanging (command : Bytes)
  /-- looks at the connection a response is for -/
  | answering (response : Bytes)
  | notifying (chunk : Bytes) (rest : List Bytes)
  | pausing (chunk : Bytes) (rest : List Bytes)
  | finished
  deriving DecidableEq, Inhabited

end Bridge

structure Bridge where
  settings : BridgeSettings
  /-- the modem has an arbiter, so a session needs a lease -/
  leases : Bool
  inbox : Inbox BridgeMessage
  reassembler : Chunk.Reassembler
  /-- the open session; zero if there is none -/
  handle : UInt32 := 0
  lease : Option Nat := none
  point : Bridge.Point := .checking
  deriving DecidableEq, Inhabited

namespace Bridge

inductive Request where
  | proceed
  | receive
  | askAdvertising
  | advertise
  | acquire (timeout : Nat)
  | release (lease : Nat)
  | openPort (port : String)
  | closePort (handle : UInt32)
  | exchange (handle : UInt32) (command : Bytes)
  | push (handle : UInt16) (value : Bytes)
  /-- the data a chunk may carry, and whether the client is to be notified -/
  | inspect
  | sleep (ms : Nat)
  | finished
  deriving DecidableEq

inductive Reply where
  | done
  | failed
  | flag (b : Bool)
  | message (m : BridgeMessage)
  /-- no message will come any more -/
  | hungUp
  | leased (id : Nat)
  | handle (h : UInt32)
  | data (bytes : Bytes)
  | view (capacity : Option Nat) (subscribed : Bool)
  deriving DecidableEq

def ofSettings (s : BleSettings) (leases : Bool) : Bridge :=
  { settings := s.bridge
    leases
    inbox := { depth := s.queueDepth.toNat }
    reassembler := { capacity := s.bridge.reassemblyCapacity } }

def isReceiving (b : Bridge) : Bool := b.point = .receiving

def goto (b : Bridge) (p : Point) : Bridge := { b with point := p }

/-- The port a client names: the text before the first zero byte, neither empty nor too long. -/
def portName? (b : Bridge) (value : Bytes) : Option String :=
  let name := value.takeWhile (· != 0)
  if name.isEmpty || b.settings.portNameMax < name.length then none else Bytes.toText? name

/-- Closes the session, if one is open, and gives the lease back. -/
def closeSession (b : Bridge) (next : Next) : Bridge :=
  if b.handle = 0 then b.goto (.releasing next)
  else { b with handle := 0, point := .closing b.handle next }

def openSession (b : Bridge) (value : Bytes) : Bridge :=
  match b.portName? value with
  | none => b.goto .receiving
  | some port =>
    if b.handle ≠ 0 then b.goto .receiving
    else if b.leases then b.goto (.acquiring port)
    else b.goto (.opening port)

/-- Only the handle of the open session closes it. -/
def closeFor (b : Bridge) (value : Bytes) : Bridge :=
  match value with
  | [w, x, y, z] =>
    let handle := uint32Of w x y z
    if handle = 0 ∨ handle ≠ b.handle then b.goto .receiving else b.closeSession .serve
  | _ => b.goto .receiving

/-- A chunk for the open session joins the command being put together. -/
def collect (b : Bridge) (value : Bytes) : Bridge :=
  match Chunk.Request.decode value with
  | .error _ => b.goto .receiving
  | .ok chunk =>
    if b.handle = 0 ∨ chunk.handle ≠ b.handle then b.goto .receiving
    else
      let (reassembler, result) := b.reassembler.push chunk.indicator chunk.data
      let b := { b with reassembler }
      match result with
      | .appended => b.goto (.acknowledging none)
      | .empty | .nothing | .overflow => b.goto .receiving
      | .complete command =>
        if chunk.data.isEmpty then b.goto (.exchanging command)
        else b.goto (.acknowledging (some command))

def receive (b : Bridge) : BridgeMessage → Bridge
  | .disconnected => b.closeSession .advertise
  | .openPort value => b.openSession value
  | .closePort value => b.closeFor value
  | .transreceive value => b.collect value
  | .shutdown => b.closeSession .exit

/-- The port could not be opened. -/
def giveUp (b : Bridge) : Bridge :=
  b.goto (if b.lease.isSome then .returning else .reporting)

/-- Sends a response in chunks of the given capacity. -/
def respond (b : Bridge) (response : Bytes) (capacity : Nat) : Bridge :=
  match (Chunk.piecesFrom capacity true response).map fun (i, data) =>
      Chunk.Response.encode ⟨i, data⟩ with
  | [] => b.goto .receiving
  | chunk :: rest => b.goto (.notifying chunk rest)

def afterSession (b : Bridge) : Next → Bridge
  | .serve => b.goto .receiving
  | .advertise => b.goto .checking
  | .exit => b.goto .finished

def request (b : Bridge) : Request :=
  match b.point with
  | .checking => .askAdvertising
  | .advertising => .advertise
  | .receiving => .receive
  | .acquiring _ => .acquire b.settings.acquireTimeout
  | .opening port => .openPort port
  | .returning | .releasing _ =>
    match b.lease with
    | some id => .release id
    | none => .proceed
  | .reporting | .clearing _ => .push Handle.sessionValue (Bytes.ofUInt32 b.handle)
  | .closing handle _ => .closePort handle
  | .acknowledging _ => .push Handle.ackValue [1]
  | .exchanging command => .exchange b.handle command
  | .answering _ => .inspect
  | .notifying chunk _ => .push Handle.transreceiveValue chunk
  | .pausing _ _ => .sleep b.settings.chunkInterval
  | .finished => .finished

def resume (b : Bridge) (r : Reply) : Bridge :=
  match b.point, r with
  | .checking, .flag on => b.goto (if on then .receiving else .advertising)
  | .advertising, _ => b.goto .receiving
  | .receiving, .message m => b.receive m
  | .receiving, .hungUp => b.closeSession .exit
  | .acquiring port, .leased id => { b with lease := some id, point := .opening port }
  | .acquiring _, .failed => b.goto .reporting
  | .opening _, .handle h =>
    if h = 0 then b.giveUp
    else { b with handle := h, reassembler := b.reassembler.clear, point := .reporting }
  | .opening _, .failed => b.giveUp
  | .returning, _ => { b with lease := none, point := .reporting }
  | .reporting, _ => b.goto .receiving
  | .closing _ next, _ =>
    { b with reassembler := b.reassembler.clear, point := .clearing next }
  | .clearing next, _ => b.goto (.releasing next)
  | .releasing next, _ => { b with lease := none }.afterSession next
  | .acknowledging (some command), _ => b.goto (.exchanging command)
  | .acknowledging none, _ => b.goto .receiving
  | .exchanging _, .data response => b.goto (.answering response)
  | .exchanging _, _ => b.goto .receiving
  | .answering response, .view (some capacity) true => b.respond response capacity
  | .answering _, _ => b.goto .receiving
  | .notifying _ [], _ => b.goto .receiving
  | .notifying _ (chunk :: rest), .flag true =>
    b.goto (if b.settings.chunkInterval = 0 then .notifying chunk rest else .pausing chunk rest)
  | .notifying _ _, _ => b.goto .receiving
  | .pausing chunk rest, _ => b.goto (.notifying chunk rest)
  | _, _ => b

end Bridge

end EdgeGateway
