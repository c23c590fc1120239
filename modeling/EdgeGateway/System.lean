import EdgeGateway.Bridge
import EdgeGateway.Call
import EdgeGateway.Control
import EdgeGateway.Menu
import EdgeGateway.Modem.Arbiter
import EdgeGateway.Mqtt.Subscriber

/-!
# EdgeGateway.System

The whole gateway: what its tasks share, and the threads that run them.

* `System`  : links, broker task, attribute server, modem bridge, arbiter, default route, console.
* `Thread`  : who runs which task, and how far it is with what the task asked for.
* `System.locked` : whether a part of the board is held by another thread.
-/

namespace EdgeGateway

/-- Where the console is. -/
inductive ConsolePoint where
  | drawing
  | reading
  | handling (key : Char)
  | rerouting (r : Reroute)
  | answering (result : Except ControlError Unit)
  | finished

structure Console where
  menu : Menu := {}
  point : ConsolePoint := .drawing

/-- What the main thread can be made to do beside the tasks. -/
inductive Chore where
  /-- a change of the default route; as a client's write it answers like one -/
  | reroute (r : Reroute) (written : Bool)
  | push (handle : UInt16) (value : Bytes)
  | checkAdvertising
  | advertise
  | drive (on : Bool)
  | modemBringUp
  | modemTearDown
  | askServers (count : Nat)

inductive ChoreResult where
  | control (result : Except ControlError Unit)
  | written (result : Except GattStatus GattResponse)
  | flag (b : Bool)
  | modem (result : Except ModemError Unit)
  | servers (dns : List IpAddress)
  | nothing

/-- How far a shutdown is. -/
inductive ShutdownPoint where
  | notifying
  | tellingBridge
  | joining
  deriving DecidableEq, Inhabited

/-- What a thread runs. -/
inductive Role where
  | link (kind : LinkKind)
  | bridge
  | mqtt
  | subscriber
  | console
  | shutdown (point : ShutdownPoint)
  | job
  | chore (c : Chore)

/-- The thread runs a task of the gateway, which a shutdown waits for. -/
def Role.isTask : Role → Bool
  | .link _ | .bridge | .mqtt => true
  | _ => false

/-- How far a thread is with a call. -/
inductive Stage where
  | free
  /-- a call is decided on, and waits for its part -/
  | calling (c : Call)
  | inside (c : Call)

structure Thread where
  id : Nat
  actor : Actor
  role : Role
  stage : Stage := .free
  /-- listeners that have been told of the current status change -/
  told : Nat := 0
  /-- the arbiter operation the task waits for -/
  errand : Option Errand := none

structure System where
  settings : Settings
  /-- what makes client identifiers unique -/
  clientSuffix : String := ""
  /-- the Wi-Fi link runs over a plain transport -/
  plainWifi : Bool := false
  wifi : Option Link := none
  cellular : Option Link := none
  mqtt : Option Mqtt := none
  subscriber : Option Subscriber := none
  switch : DeviceSwitch := {}
  gatt : Option Gatt := none
  bridge : Option Bridge := none
  arbiter : Option Arbiter := none
  defaultLink : LinkKind
  /-- client writes reach the control point -/
  controlled : Bool := false
  /-- an observer is told of every status change, after the status characteristic -/
  observed : Bool := false
  console : Option Console := none
  threads : List Thread := []
  nextThread : Nat := 0
  /-- the threads of jobs that have ended, and how -/
  outcomes : List (Nat × Outcome) := []
  choreResult : Option ChoreResult := none

namespace System

def link? (s : System) : LinkKind → Option Link
  | .wifi => s.wifi
  | .cellular => s.cellular
  | .none => none

def setLink (s : System) (l : Link) : System :=
  match l.kind with
  | .wifi => { s with wifi := some l }
  | .cellular => { s with cellular := some l }
  | .none => s

/-- Registered links, Wi-Fi first. -/
def links (s : System) : List Link := s.wifi.toList ++ s.cellular.toList

/-- The default link is up. -/
def defaultReady (s : System) : Bool := (s.link? s.defaultLink).any Link.isUp

def view (s : System) : View :=
  { links := s.links.map fun l => ⟨l.kind, l.status, l.addressing.ip, l.addressing.dns⟩
    defaultLink := s.defaultLink
    app := s.mqtt.map (·.status) }

/-! ## Threads -/

def setThread (s : System) (t : Thread) : System :=
  { s with threads := s.threads.map fun u => if u.id = t.id then t else u }

def endThread (s : System) (t : Thread) : System :=
  { s with threads := s.threads.filter (·.id ≠ t.id) }

def spawn (s : System) (actor : Actor) (role : Role) (errand : Option Errand) : System :=
  { s with
    threads := s.threads ++ [{ id := s.nextThread, actor, role, errand }]
    nextThread := s.nextThread + 1 }

/-- A part that a thread keeps from one call to the next. -/
def keeps (s : System) (t : Thread) (l : Lock) : Bool :=
  match l with
  | .modem => t.errand.any Errand.keepsModem
  | .server =>
    match t.role with
    | .bridge => s.bridge.any (·.point = .advertising)
    | .chore .advertise => true
    | _ => false
  | .net =>
    match t.role with
    | .chore (.reroute (.resolving ..) _) => true
    | .console =>
      match s.console with
      | some { point := .rerouting (.resolving ..), .. } => true
      | _ => false
    | _ => false
  | _ => false

def holds (s : System) (t : Thread) (l : Lock) : Bool :=
  (match t.stage with
    | .inside c => c.lock? = some l
    | _ => false) || s.keeps t l

/-- Another thread holds the part. -/
def locked (s : System) (t : Thread) : Option Lock → Bool
  | none => false
  | some l => s.threads.any fun u => u.id ≠ t.id && s.holds u l

/-! ## Commands -/

/-- A command for a link. -/
def notifyLink (s : System) (kind : LinkKind) (c : Command) : System × Except ControlError Unit :=
  match s.link? kind with
  | some l => (s.setLink (l.notify c), .ok ())
  | none => (s, .error (.notRegistered kind))

def notifyApp (s : System) (c : Command) : System × Except ControlError Unit :=
  match s.mqtt with
  | some t => ({ s with mqtt := some (t.notify c) }, .ok ())
  | none => (s, .error .appNotRegistered)

/-- The address of a link is lost; false if there is no such link. -/
def ipLost (s : System) (kind : LinkKind) : System × Bool :=
  match s.link? kind with
  | some l => (s.setLink l.ipLost, true)
  | none => (s, false)

/-- The route change is decided: it takes effect, and the application restarts on it. -/
def reroute (s : System) (kind : LinkKind) : System :=
  let s := { s with defaultLink := kind }
  { s with mqtt := s.mqtt.map (·.notify .restart) }

def startReroute (s : System) (kind : LinkKind) : Reroute :=
  Reroute.start kind (s.link? kind).isSome

/-- What becomes of a command: it is done, or a route change has begun. -/
def dispatch (s : System) : ControlCommand → System × (Except ControlError Unit ⊕ Reroute)
  | .link kind c => let (s, r) := s.notifyLink kind c; (s, .inl r)
  | .app c => let (s, r) := s.notifyApp c; (s, .inl r)
  | .makeDefault kind =>
    match s.startReroute kind with
    | .ended result => (s, .inl result)
    | r => (s, .inr r)

/-- A command in bytes. -/
def control (s : System) (bytes : Bytes) : System × (Except ControlError Unit ⊕ Reroute) :=
  match ControlCommand.ofBytes? bytes with
  | some c => s.dispatch c
  | none => (s, .inl (.error (.invalidControl bytes)))

/-! ## Events -/

/-- A message for the bridge; without a bridge it is dropped. -/
def postToBridge (s : System) (m : BridgeMessage) : Option System :=
  match s.bridge with
  | none => some s
  | some b =>
    (b.inbox.offer b.isReceiving m).map fun inbox => { s with bridge := some { b with inbox } }

/-- A control command as a client's write sees it. -/
def writeResult : Except ControlError Unit → Except GattStatus GattResponse
  | .ok () => .ok .written
  | .error _ => .error .valueNotAllowed

/-- An event of the radio stack. A route change asked for by a client is left to be carried out. -/
def handleEvent (s : System) (e : GattEvent) :
    System × (Except GattStatus GattResponse ⊕ Reroute) :=
  match s.gatt with
  | none => (s, .inl (.error .invalidHandle))
  | some g =>
    let (g, reaction) := g.handle e
    let s := { s with gatt := some g }
    match reaction with
    | .answer r => (s, .inl r)
    | .forward m r =>
      match s.postToBridge m with
      | some s => (s, .inl (.ok r))
      | none => (s, .inl (.error .insufficientResources))
    | .control command =>
      if s.controlled then
        match s.control command with
        | (s, .inl r) => (s, .inl (writeResult r))
        | (s, .inr r) => (s, .inr r)
      else (s, .inl (.error .writeNotPermitted))

/-- The broker is gone, as the client instance reports it. -/
def brokerLost (s : System) : System :=
  { s with mqtt := s.mqtt.map (·.offer .disconnected) }

/-- A message from the broker. -/
def brokerMessage (s : System) (payload : Bytes) : System :=
  { s with
    subscriber := s.subscriber.map fun b =>
      { b with inbox := b.inbox.offerOrDrop b.isReceiving (.message payload) } }

end System

end EdgeGateway
