import EdgeGateway.Bytes
import EdgeGateway.Inbox
import EdgeGateway.Signal
import EdgeGateway.Status

/-!
# EdgeGateway.Mqtt

The task that keeps the session with the message broker.

* `Mqtt`         : the task's status, its pending commands, its operations queue, how far its
  client has been set up, and where the task is.
* `Mqtt.notify`  : delivering a command. While the task is started it waits on its queue only, so
  the command comes with an operation that ends the loop.
* `Mqtt.request`, `Mqtt.resume` : what the task wants at its point, and how it goes on.

Setting up goes from the client library over the client instance, which has a subscriber of its
own, to the broker. Cleaning up undoes the steps that were made, in reverse order.
-/

namespace EdgeGateway

/-- Work for the subscriber of a client instance. -/
inductive SubscriberMessage where
  | subscribe
  | message (payload : Bytes)
  | stop
  deriving DecidableEq, Inhabited

namespace Mqtt

/-- Work for the loop of a started task. -/
inductive Operation where
  | disconnected
  | subscribeFailed
  | exitLoop
  deriving DecidableEq, Inhabited

/-- What a broker connect is part of. -/
inductive Phase where
  | setup
  | reconnect
  deriving DecidableEq, Inhabited

/-- What a cleanup leads to. -/
inductive Ending where
  | stopped
  | failed (left : Commands)
  | exit
  deriving DecidableEq, Inhabited

inductive Point where
  | opening
  | preparing
  | bringingUp
  | creating
  | trying (phase : Phase) (attempt : Nat)
  | pausing (phase : Phase) (attempt : Nat)
  /-- asks whether the default link is up -/
  | checking (phase : Phase) (attempt : Nat)
  | connecting (phase : Phase) (attempt : Nat)
  | subscribing (phase : Phase)
  | receiving
  /-- disconnecting because the broker went away -/
  | dropping
  | stoppingSubscriber (ending : Ending)
  | joiningSubscriber (ending : Ending)
  | disconnecting (ending : Ending)
  | deleting (ending : Ending)
  | tearingDown (ending : Ending)
  | settling (ending : Ending)
  | waiting (left : Commands)
  | finished
  deriving DecidableEq, Inhabited

end Mqtt

structure Mqtt where
  policy : RetryPolicy
  operations : Inbox Mqtt.Operation
  status : Status := .stopped
  pending : Commands := {}
  /-- the client library has been brought up -/
  ready : Bool := false
  /-- there is a client instance -/
  created : Bool := false
  connected : Bool := false
  /-- the client instance has a subscriber running -/
  subscriber : Bool := false
  /-- a restart read while reconnecting, kept until the cleanup is over -/
  deferred : Commands := {}
  announcing : Option Status := none
  point : Mqtt.Point := .opening
  deriving DecidableEq, Inhabited

namespace Mqtt

inductive Request where
  | proceed
  | announce (status : Status)
  | bringUp
  | create
  | askDefaultReady
  | connect
  | tell (m : SubscriberMessage)
  | receive
  | disconnect
  | join
  | delete
  | tearDown
  | wait (limit : Option Nat)
  | finished
  deriving DecidableEq

inductive Reply where
  | done
  | failed
  | flag (b : Bool)
  | commands (cs : Commands)
  | operation (op : Operation)
  deriving DecidableEq

def isStarted (t : Mqtt) : Bool := t.status = .started

/-- The task is at its queue, waiting for an item. -/
def isReceiving (t : Mqtt) : Bool := t.announcing.isNone && t.point = .receiving

def offer (t : Mqtt) (op : Operation) : Mqtt :=
  { t with operations := t.operations.offerOrDrop t.isReceiving op }

/-- Delivers a command. A start means nothing to a started task. The look at the status, the offer
to the queue and the bit are one step: the task does not move between them. -/
def notify (t : Mqtt) (c : Command) : Mqtt :=
  if t.isStarted then
    if c = .start then t
    else
      let t := t.offer .exitLoop
      { t with pending := t.pending.insert c }
  else { t with pending := t.pending.insert c }

def setStatus (t : Mqtt) (s : Status) : Mqtt :=
  if t.status = s then t else { t with status := s, announcing := some s }

def goto (t : Mqtt) (p : Point) : Mqtt := { t with point := p }

/-- The broker connect has come to nothing. -/
def lose (t : Mqtt) (phase : Phase) (left : Commands) : Mqtt :=
  match phase with
  | .setup => t.goto (.stoppingSubscriber (.failed left))
  | .reconnect => (t.setStatus .stopping).goto (.stoppingSubscriber (.failed left))

/-- Takes the deferred commands, which count only if nothing else is left. -/
def withDeferred (t : Mqtt) (left : Commands) : Mqtt :=
  let left :=
    match t.deferred.dominant with
    | some c => if left.isEmpty then .only c else left
    | none => left
  { t with deferred := {}, point := .waiting left }

/-- What the task does about commands while it is down. -/
def act (t : Mqtt) (cs : Commands) : Mqtt :=
  match cs.dominant with
  | some .shutdown => t.goto (.stoppingSubscriber .exit)
  | some .start | some .restart => t.goto .opening
  | some .stop | none => t.goto (.waiting .empty)

def request (t : Mqtt) : Request :=
  match t.announcing with
  | some s => .announce s
  | none =>
    match t.point with
    | .opening | .preparing | .trying _ _ | .settling _ => .proceed
    | .bringingUp => .bringUp
    | .creating => .create
    | .pausing _ _ => .wait (some t.policy.interval)
    | .checking _ _ => .askDefaultReady
    | .connecting _ _ => .connect
    | .subscribing _ => .tell .subscribe
    | .receiving => .receive
    | .dropping => .disconnect
    | .stoppingSubscriber _ => if t.subscriber then .tell .stop else .proceed
    | .joiningSubscriber _ => .join
    | .disconnecting _ => if t.connected then .disconnect else .proceed
    | .deleting _ => if t.created then .delete else .proceed
    | .tearingDown _ => if t.ready then .tearDown else .proceed
    | .waiting left => if left.isEmpty then .wait none else .proceed
    | .finished => .finished

/-- One step of the task at its point. -/
def move (t : Mqtt) (r : Reply) : Mqtt :=
  match t.point, r with
  | .opening, _ => (t.setStatus .starting).goto .preparing
  | .preparing, _ =>
    { t with
      operations := t.operations.clear
      deferred := {}
      point := if !t.ready then .bringingUp else if !t.created then .creating
        else .trying .setup 1 }
  | .bringingUp, .done =>
    { t with ready := true, point := if t.created then .trying .setup 1 else .creating }
  | .bringingUp, .failed | .creating, .failed => t.lose .setup .empty
  | .creating, .done => { t with created := true, subscriber := true, point := .trying .setup 1 }
  | .trying phase n, _ =>
    if t.policy.attempts < n then t.lose phase .empty
    else if n = 1 then t.goto (.checking phase n)
    else t.goto (.pausing phase n)
  | .pausing phase n, .commands cs =>
    if cs.contains .stop || cs.contains .shutdown then
      { t with deferred := {} }.lose phase ((cs.erase .stop).erase .start)
    else if cs.contains .restart && t.isStarted then
      { t with deferred := t.deferred.insert .restart, point := .checking phase n }
    else t.goto (.checking phase n)
  | .checking phase n, .flag b =>
    t.goto (if b then .connecting phase n else .trying phase (n + 1))
  | .connecting phase _, .done => { t with connected := true, point := .subscribing phase }
  | .connecting phase n, .failed => t.goto (.trying phase (n + 1))
  | .subscribing .setup, _ => (t.setStatus .started).goto .receiving
  | .subscribing .reconnect, _ => t.goto .receiving
  | .receiving, .operation .disconnected =>
    t.goto (if t.connected then .dropping else .trying .reconnect 1)
  | .receiving, .operation .subscribeFailed => t
  | .receiving, .operation .exitLoop =>
    (t.setStatus .stopping).goto (.stoppingSubscriber .stopped)
  | .dropping, _ => { t with connected := false, point := .trying .reconnect 1 }
  | .stoppingSubscriber ending, _ =>
    t.goto (if t.subscriber then .joiningSubscriber ending else .disconnecting ending)
  | .joiningSubscriber ending, _ => { t with subscriber := false, point := .disconnecting ending }
  | .disconnecting ending, _ => { t with connected := false, point := .deleting ending }
  | .deleting ending, _ => { t with created := false, point := .tearingDown ending }
  | .tearingDown ending, _ => { t with ready := false, point := .settling ending }
  | .settling .stopped, _ => (t.setStatus .stopped).withDeferred .empty
  | .settling (.failed left), _ => (t.setStatus .failedToStart).withDeferred left
  | .settling .exit, _ => (t.setStatus .stopped).goto .finished
  | .waiting left, r =>
    if left.isEmpty then
      match r with
      | .commands cs => t.act cs
      | _ => t
    else t.act left
  | _, _ => t

/-- The task goes on with a reply. Listeners are heard out first. -/
def resume (t : Mqtt) (r : Reply) : Mqtt :=
  match t.announcing with
  | some _ => { t with announcing := none }
  | none => t.move r

end Mqtt

end EdgeGateway
