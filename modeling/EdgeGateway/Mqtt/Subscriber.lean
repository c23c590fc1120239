import EdgeGateway.Mqtt
import EdgeGateway.Settings

/-!
# EdgeGateway.Mqtt.Subscriber

The subscriber of a client instance: it subscribes when told to, and switches the device by the
messages that come in.

* `Subscriber.request`, `Subscriber.resume` : what it wants at its point, and how it goes on.
* `Subscriber.meaning?` : what a message says about the device.
* `DeviceSwitch`        : the recorded state of the device output. It is driven on changes only.
-/

namespace EdgeGateway

/-- The recorded state of the device output. -/
structure DeviceSwitch where
  on : Bool := false
  deriving DecidableEq, Inhabited

/-- The new state, and what the output is driven to. None if it is there already. -/
def DeviceSwitch.set (s : DeviceSwitch) (on : Bool) : DeviceSwitch × Option Bool :=
  if s.on = on then (s, none) else (⟨on⟩, some on)

namespace Subscriber

inductive Point where
  | receiving
  | trying (attempt : Nat)
  | sleeping (attempt : Nat)
  | subscribing (attempt : Nat)
  | reporting
  | switching (on : Bool)
  | leaving
  | finished
  deriving DecidableEq, Inhabited

end Subscriber

structure Subscriber where
  attempts : Nat
  interval : Nat
  onMessage : Bytes
  offMessage : Bytes
  inbox : Inbox SubscriberMessage
  subscribed : Bool := false
  point : Subscriber.Point := .receiving
  deriving DecidableEq, Inhabited

namespace Subscriber

inductive Request where
  | proceed
  | receive
  | sleep (ms : Nat)
  | subscribe
  | unsubscribe
  /-- tells the task that subscribing has failed, unless its queue is full -/
  | report
  | drive (on : Bool)
  | finished
  deriving DecidableEq

inductive Reply where
  | done
  | failed
  | message (m : SubscriberMessage)
  deriving DecidableEq

def ofSettings (s : MqttSettings) : Subscriber :=
  { attempts := s.subscribeRetries.toNat
    interval := s.subscribeIntervalMs.toNat
    onMessage := Bytes.ofText s.onMessage
    offMessage := Bytes.ofText s.offMessage
    inbox := { depth := s.queueDepth.toNat } }

def isReceiving (s : Subscriber) : Bool := s.point = .receiving

/-- What a message says about the device. The text for on is looked at first. -/
def meaning? (s : Subscriber) (payload : Bytes) : Option Bool :=
  if payload = s.onMessage then some true
  else if payload = s.offMessage then some false
  else none

def request (s : Subscriber) : Request :=
  match s.point with
  | .receiving => .receive
  | .trying _ => .proceed
  | .sleeping _ => if s.interval = 0 then .proceed else .sleep s.interval
  | .subscribing _ => .subscribe
  | .reporting => .report
  | .switching on => .drive on
  | .leaving => if s.subscribed then .unsubscribe else .proceed
  | .finished => .finished

def resume (s : Subscriber) (r : Reply) : Subscriber :=
  match s.point, r with
  | .receiving, .message .subscribe => { s with point := .trying 1 }
  | .receiving, .message (.message payload) =>
    match s.meaning? payload with
    | some on => { s with point := .switching on }
    | none => s
  | .receiving, .message .stop => { s with point := .leaving }
  | .trying n, _ =>
    if s.attempts < n then { s with point := .reporting }
    else if n = 1 then { s with point := .subscribing n }
    else { s with point := .sleeping n }
  | .sleeping n, _ => { s with point := .subscribing n }
  | .subscribing _, .done => { s with subscribed := true, point := .receiving }
  | .subscribing n, .failed => { s with point := .trying (n + 1) }
  | .reporting, _ => { s with point := .receiving }
  | .switching _, _ => { s with point := .receiving }
  | .leaving, _ => { s with subscribed := false, point := .finished }
  | _, _ => s

end Subscriber

end EdgeGateway
