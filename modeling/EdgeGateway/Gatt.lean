import EdgeGateway.Attribute
import EdgeGateway.Chunk.Segment
import EdgeGateway.Status

/-!
# EdgeGateway.Gatt

The attribute server: its table, the one client connection, and what it makes of the events of
the radio stack. Nothing here waits; work for the modem bridge and for the control point is
handed on.

* `Gatt.layout`  : the attributes of the two services.
* `Gatt.push`    : stores a value of the server's own and tells whether a notification goes out.
* `Gatt.handle`  : what an event changes, and the `Reaction` to it.
-/

namespace EdgeGateway

/-- The transmission unit before any exchange. -/
def defaultMtu : Nat := 23

/-- Handles of the attributes that mean something to the gateway. -/
def Handle.portValue : UInt16 := 0x002a
def Handle.closeValue : UInt16 := 0x002c
def Handle.transreceiveValue : UInt16 := 0x002e
def Handle.sessionValue : UInt16 := 0x0031
def Handle.ackValue : UInt16 := 0x0034
def Handle.controlValue : UInt16 := 0x0042
def Handle.statusValue : UInt16 := 0x0044

/-- Work for the modem bridge. -/
inductive BridgeMessage where
  | disconnected
  | openPort (value : Bytes)
  | closePort (value : Bytes)
  | transreceive (value : Bytes)
  | shutdown
  deriving DecidableEq, Inhabited

inductive GattRequest where
  | read (handle : UInt16) (offset maxLength : Nat)
  | readByType (first last type : UInt16) (maxLength : Nat)
  | write (handle : UInt16) (value : Bytes)
  | mtuExchange (remote : Nat)
  | confirmation (handle : UInt16)
  deriving DecidableEq

inductive GattEvent where
  | connected (connection : UInt16) (peer : Bytes)
  | disconnected (connection : UInt16)
  | request (r : GattRequest)
  /-- the stack asks for a response buffer, or has sent one -/
  | buffer
  deriving DecidableEq

inductive GattResponse where
  | value (bytes : Bytes)
  | written
  | mtu (size : Nat)
  | none
  deriving DecidableEq

/-- The client connection. Its number is zero while there is none. -/
structure Connection where
  id : UInt16 := 0
  mtu : Nat := defaultMtu
  peer : Bytes := [0, 0, 0, 0, 0, 0]
  deriving DecidableEq, Inhabited

structure Gatt where
  table : AttributeTable
  connection : Connection := {}
  transreceiveCapacity : Nat
  /-- the largest transmission unit this side offers -/
  localMtu : Nat
  deriving DecidableEq, Inhabited

/-- A value on its way to a client. -/
structure Notification where
  connection : UInt16
  handle : UInt16
  value : Bytes
  deriving DecidableEq, Inhabited

/-- What is left to do after an event. -/
inductive Reaction where
  | answer (r : Except GattStatus GattResponse)
  /-- the bridge gets a message; without room for it the request fails -/
  | forward (m : BridgeMessage) (r : GattResponse)
  /-- the control point gets a command -/
  | control (command : Bytes)

namespace Gatt

/-! ## Layout -/

/-- A 128-bit identifier of this gateway, which differ in one word, as it goes on the air. -/
def identifier (word : UInt16) : Bytes :=
  [0x01, 0x00, 0xde, 0xc0, 0x10, 0x7a, 0x2e, 0x9d, 0x8a, 0x4b, 0x4f, 0x5c]
    ++ Bytes.ofUInt16 word ++ [0x3a, 0x6e]

def mayRead : UInt8 := 0x02
def mayWrite : UInt8 := 0x08
def mayNotify : UInt8 := 0x10

def service (handle word : UInt16) : Attribute :=
  .fixed handle AttributeType.primaryService (identifier word)

/-- The declaration of the characteristic whose value is at the next handle. -/
def declaration (handle : UInt16) (properties : UInt8) (word : UInt16) : Attribute :=
  .fixed handle AttributeType.characteristic
    (properties :: Bytes.ofUInt16 (handle + 1) ++ identifier word)

/-- The card service (port, close, transreceive, session, acknowledgement), then the gateway
service (control, status). A descriptor stands right after the value it is for. -/
def layout (transreceiveCapacity : Nat) : List Attribute :=
  [ service 0x28 0x1000,
    declaration 0x29 mayWrite 0x1001,
    .characteristicValue 0x2a false true 33,
    declaration 0x2b mayWrite 0x1002,
    .characteristicValue 0x2c false true 4,
    declaration 0x2d (mayWrite ||| mayNotify) 0x1003,
    .characteristicValue 0x2e false true transreceiveCapacity,
    .clientConfiguration 0x2f,
    declaration 0x30 (mayRead ||| mayNotify) 0x1004,
    .characteristicValue 0x31 true false 4,
    .clientConfiguration 0x32,
    declaration 0x33 (mayRead ||| mayNotify) 0x1005,
    .characteristicValue 0x34 true false 1,
    .clientConfiguration 0x35,
    service 0x40 0x2000,
    declaration 0x41 mayWrite 0x2001,
    .characteristicValue 0x42 false true 2,
    declaration 0x43 (mayRead ||| mayNotify) 0x2002,
    .characteristicValue 0x44 true false 64,
    .clientConfiguration 0x45 ]

def ofCapacity (transreceiveCapacity localMtu : Nat) : Except TableError Gatt :=
  (AttributeTable.ofList (layout transreceiveCapacity)).map fun table =>
    { table, transreceiveCapacity, localMtu := max localMtu defaultMtu }

/-! ## The server's side -/

def connectionId? (g : Gatt) : Option UInt16 :=
  if g.connection.id = 0 then none else some g.connection.id

def peer? (g : Gatt) : Option Bytes :=
  if g.connection.id = 0 then none else some g.connection.peer

def value? (g : Gatt) (handle : UInt16) : Option Bytes :=
  (g.table.get? handle).map (·.value)

/-- The client asked to be told of the value: notifications or indications are on. -/
def isSubscribed (g : Gatt) (handle : UInt16) : Bool :=
  g.table.subscription (handle + 1) &&& 3 != 0

def canNotify (g : Gatt) (handle : UInt16) : Bool :=
  g.connectionId?.isSome && g.isSubscribed handle

/-- Data bytes of a response chunk on this connection. -/
def responseCapacity? (g : Gatt) : Option Nat :=
  Chunk.responseCapacity g.connection.mtu g.transreceiveCapacity

/-- Stores a value, and prepares the notification if a client wants it. -/
def push (g : Gatt) (handle : UInt16) (value : Bytes) : Gatt × Option Notification :=
  match g.table.store handle value with
  | .error _ => (g, none)
  | .ok table =>
    let g := { g with table }
    match g.connectionId? with
    | none => (g, none)
    | some connection =>
      if g.isSubscribed handle then (g, some ⟨connection, handle, value⟩) else (g, none)

/-- Room for the text of a task's status. -/
def statusCapacity : Nat := 64

/-- A task's status as the status characteristic shows it, cut to its capacity. A cut within a
character gives nothing. -/
def statusText (task : String) (status : Status) : Option Bytes :=
  let text := Bytes.ofText (task ++ ": " ++ status.text)
  match text.drop statusCapacity with
  | [] => some text
  | b :: _ => if b &&& 0xc0 = 0x80 then none else some (text.take statusCapacity)

/-! ## The client's side -/

def handleWrite (g : Gatt) (handle : UInt16) (value : Bytes) : Gatt × Reaction :=
  match g.table.write handle value with
  | .error e => (g, .answer (.error e))
  | .ok table =>
    let g := { g with table }
    if handle = Handle.portValue then (g, .forward (.openPort value) .written)
    else if handle = Handle.closeValue then (g, .forward (.closePort value) .written)
    else if handle = Handle.transreceiveValue then (g, .forward (.transreceive value) .written)
    else if handle = Handle.controlValue then (g, .control value)
    else (g, .answer (.ok .written))

def handleRequest (g : Gatt) : GattRequest → Gatt × Reaction
  | .read handle offset maxLength =>
    (g, .answer ((g.table.read handle offset maxLength).map .value))
  | .readByType first last type maxLength =>
    (g, .answer ((g.table.readByType first last type maxLength).map .value))
  | .write handle value => g.handleWrite handle value
  | .mtuExchange remote =>
    ({ g with connection.mtu := min (max remote defaultMtu) g.localMtu },
      .answer (.ok (.mtu g.localMtu)))
  | .confirmation _ => (g, .answer (.ok .none))

def handle (g : Gatt) : GattEvent → Gatt × Reaction
  | .connected connection peer =>
    ({ g with connection := { id := connection, peer } }, .answer (.ok .none))
  | .disconnected _ =>
    ({ g with connection := {}, table := g.table.clearSubscriptions },
      .forward .disconnected .none)
  | .request r => g.handleRequest r
  | .buffer => (g, .answer (.ok .none))

end Gatt

end EdgeGateway
