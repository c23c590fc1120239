import EdgeGateway.Address
import EdgeGateway.Signal
import EdgeGateway.Status

/-!
# EdgeGateway.Link

A network link and the task that keeps it up:

    Stopped -> Starting -> Started | Failed to start -> Stopping -> Stopped

* `Link`         : what a link publishes, the commands waiting for its task, and where the task is.
* `Link.request` : what the task asks of its surroundings at that point.
* `Link.resume`  : how it goes on with the reply.

A connect sequence makes a bounded number of tries with a pause before each but the first. A stop
or a shutdown that is read in a pause ends the sequence; what came with it is kept for the idle
task. A try that has been handed to the transport is never interrupted.
-/

namespace EdgeGateway

/-- Why a transport does not come up. -/
inductive ConnectError where
  | timeout
  | modemInUse
  | failed (reason : String)
  deriving DecidableEq

namespace ConnectError

def name : ConnectError → String
  | .timeout => "Timeout"
  | .modemInUse => "ModemInUse"
  | .failed _ => "Failed"

def message : ConnectError → String
  | .timeout => "connect timed out"
  | .modemInUse => "modem is in use elsewhere"
  | .failed reason => reason

/-- Another try could succeed. -/
def isRetryable : ConnectError → Bool
  | .modemInUse => false
  | _ => true

end ConnectError

/-- What a link publishes when it comes up. -/
structure Addressing where
  ip : Option IpAddress := none
  dns : List IpAddress := []
  deriving DecidableEq, Inhabited

namespace Link

/-- Where the task goes after it has left the link's current state. -/
inductive Next where
  | stay
  | reconnect
  | exit
  deriving DecidableEq, Inhabited

/-- Where the task is. -/
inductive Point where
  /-- a connect sequence begins -/
  | opening
  | bringingUp
  /-- try number `attempt` comes next, if it is allowed -/
  | trying (attempt : Nat)
  | pausing (attempt : Nat)
  | connecting (attempt : Nat)
  /-- connected; the name servers are still to be read -/
  | resolving (ip : IpAddress)
  /-- disconnecting because try number `attempt` brought an address of no use -/
  | discarding (attempt : Nat)
  /-- the sequence is over; `left` are commands still to be looked at -/
  | idle (left : Commands)
  /-- a start found the link up, and asks whether the transport agrees -/
  | confirming
  | leaving (next : Next)
  | disconnecting (next : Next)
  | left (next : Next)
  | closing
  | finished
  deriving DecidableEq, Inhabited

end Link

structure Link where
  kind : LinkKind
  policy : RetryPolicy
  status : Status := .stopped
  addressing : Addressing := {}
  /-- commands delivered and not yet read -/
  pending : Commands := {}
  /-- the transport has been brought up -/
  ready : Bool := false
  /-- a status change the listeners are being told of -/
  announcing : Option Status := none
  point : Link.Point := .opening
  deriving DecidableEq, Inhabited

namespace Link

/-- What the task wants from outside before it goes on. -/
inductive Request where
  /-- nothing -/
  | proceed
  | announce (status : Status)
  | bringUp
  | connect
  | disconnect
  | askConnected
  | askServers
  | tearDown
  /-- the next commands, within some milliseconds or whenever they come -/
  | wait (limit : Option Nat)
  | finished
  deriving DecidableEq

inductive Reply where
  | done
  | failed (e : ConnectError)
  | address (ip : IpAddress)
  | flag (b : Bool)
  | servers (dns : List IpAddress)
  | commands (cs : Commands)
  deriving DecidableEq

def isUp (l : Link) : Bool := l.status = .started

def notify (l : Link) (c : Command) : Link := { l with pending := l.pending.insert c }

/-- The connection manager lost the address. -/
def ipLost (l : Link) : Link := l.notify .restart

/-- A change of status is announced; setting it to what it is changes nothing. -/
def setStatus (l : Link) (s : Status) : Link :=
  if l.status = s then l else { l with status := s, announcing := some s }

def goto (l : Link) (p : Point) : Link := { l with point := p }

def giveUp (l : Link) (left : Commands) : Link := (l.setStatus .failedToStart).goto (.idle left)

/-- What the idle task does about the commands it has read. -/
def act (l : Link) (cs : Commands) : Link :=
  match cs.dominant with
  | none => l.goto (.idle .empty)
  | some .start => if l.isUp then l.goto .confirming else l.goto (.leaving .reconnect)
  | some .stop => l.goto (.leaving .stay)
  | some .restart => l.goto (.leaving .reconnect)
  | some .shutdown => l.goto (.leaving .exit)

def request (l : Link) : Request :=
  match l.announcing with
  | some s => .announce s
  | none =>
    match l.point with
    | .opening | .trying _ | .left _ => .proceed
    | .bringingUp => .bringUp
    | .pausing _ => .wait (some l.policy.interval)
    | .connecting _ => .connect
    | .resolving _ => .askServers
    | .discarding _ | .disconnecting _ => .disconnect
    | .idle left => if left.isEmpty then .wait none else .proceed
    | .confirming => .askConnected
    | .leaving _ => if l.isUp then .proceed else .askConnected
    | .closing => if l.ready then .tearDown else .proceed
    | .finished => .finished

/-- One step of the task at its point. -/
def move (l : Link) (r : Reply) : Link :=
  match l.point, r with
  | .opening, _ => (l.setStatus .starting).goto (if l.ready then .trying 1 else .bringingUp)
  | .bringingUp, .done => { l with ready := true, point := .trying 1 }
  | .bringingUp, .failed _ => l.giveUp .empty
  | .trying n, _ =>
    if l.policy.attempts < n then l.giveUp .empty
    else if n = 1 then l.goto (.connecting n)
    else l.goto (.pausing n)
  | .pausing n, .commands cs =>
    if cs.contains .stop || cs.contains .shutdown then
      l.giveUp ((cs.erase .stop).erase .start)
    else l.goto (.connecting n)
  | .connecting n, .address ip =>
    if ip.isUsable then l.goto (.resolving ip)
    else (l.setStatus .stopping).goto (.discarding n)
  | .connecting n, .failed e =>
    if e.isRetryable then l.goto (.trying (n + 1)) else l.giveUp .empty
  | .resolving ip, .servers dns =>
    ({ l with addressing := ⟨some ip, dns⟩ }.setStatus .started).goto (.idle .empty)
  | .discarding n, .done | .discarding n, .failed _ =>
    (l.setStatus .starting).goto (.trying (n + 1))
  | .idle left, r =>
    if left.isEmpty then
      match r with
      | .commands cs => l.act cs
      | _ => l
    else l.act left
  | .confirming, .flag b => l.goto (if b then .idle .empty else .leaving .reconnect)
  | .leaving next, r =>
    if l.isUp then (l.setStatus .stopping).goto (.disconnecting next)
    else match r with
      | .flag true => (l.setStatus .stopping).goto (.disconnecting next)
      | .flag false => (l.setStatus .stopped).goto (.left next)
      | _ => l
  | .disconnecting next, .done | .disconnecting next, .failed _ =>
    ({ l with addressing := {} }.setStatus .stopped).goto (.left next)
  | .left .stay, _ => l.goto (.idle .empty)
  | .left .reconnect, _ => l.goto .opening
  | .left .exit, _ => l.goto .closing
  | .closing, _ => (l.setStatus .stopped).goto .finished
  | _, _ => l

/-- The task goes on with a reply. Listeners are heard out first. -/
def resume (l : Link) (r : Reply) : Link :=
  match l.announcing with
  | some _ => { l with announcing := none }
  | none => l.move r

end Link

end EdgeGateway
