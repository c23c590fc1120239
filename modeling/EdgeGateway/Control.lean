import EdgeGateway.Address
import EdgeGateway.Signal
import EdgeGateway.Status
import EdgeGateway.Text.Quoted

/-!
# EdgeGateway.Control

What an operator can ask for, from the console or over the air.

* `ControlCommand.ofBytes?` : a target byte and an action byte.
* `Reroute`      : a change of the default route on its way. The network stack is told first; if it
  agrees, the resolver gets the servers of the link one by one, and only then the route changes.
* `ControlError` : why something cannot be done.
-/

namespace EdgeGateway

inductive ControlError where
  | notRegistered (kind : LinkKind)
  | invalidDefault (kind : LinkKind)
  | appNotRegistered
  | netStack (reason : String)
  | invalidControl (command : List UInt8)
  deriving DecidableEq

/-- Two digits a byte, in brackets. -/
def byteListText (bs : List UInt8) : String :=
  let digits (b : UInt8) : String :=
    String.ofList (if b < 16 then '0' :: Nat.toDigits 16 b.toNat else Nat.toDigits 16 b.toNat)
  "[" ++ ", ".intercalate (bs.map digits) ++ "]"

namespace ControlError

def name : ControlError → String
  | .notRegistered _ => "NotRegistered"
  | .invalidDefault _ => "InvalidDefault"
  | .appNotRegistered => "AppNotRegistered"
  | .netStack _ => "NetStack"
  | .invalidControl _ => "InvalidControl"

def message : ControlError → String
  | .notRegistered kind => kind.text ++ " is not registered"
  | .invalidDefault kind => kind.text ++ " cannot be the default I/O"
  | .appNotRegistered => "MQTT is not registered"
  | .netStack reason => "network stack rejected the route change: " ++ Text.quoted reason
  | .invalidControl command => "malformed control command " ++ byteListText command

end ControlError

inductive ControlCommand where
  | link (kind : LinkKind) (c : Command)
  | app (c : Command)
  | makeDefault (kind : LinkKind)
  deriving DecidableEq

/-- The application has no route to be the default of. -/
def ControlCommand.ofBytes? : List UInt8 → Option ControlCommand
  | [target, action] =>
    let command? : Option (Option Command) :=
      if action = 1 then some (some .stop)
      else if action = 2 then some (some .start)
      else if action = 3 then some (some .restart)
      else if action = 4 then some none
      else none
    let link? : Option (Option LinkKind) :=
      if target = 0x01 then some (some .wifi)
      else if target = 0x02 then some (some .cellular)
      else if target = 0x10 then some none
      else none
    match link?, command? with
    | some (some kind), some (some c) => some (.link kind c)
    | some (some kind), some none => some (.makeDefault kind)
    | some none, some (some c) => some (.app c)
    | _, _ => none
  | _ => none

/-- A change of the default route on its way. -/
inductive Reroute where
  /-- the network stack is asked -/
  | routing (kind : LinkKind)
  /-- the server at `index` is set next -/
  | resolving (kind : LinkKind) (index : Nat) (servers : List IpAddress)
  | ended (result : Except ControlError Unit)

namespace Reroute

/-- Only a registered link can carry the default route. -/
def start (kind : LinkKind) (registered : Bool) : Reroute :=
  if kind = .none then .ended (.error (.invalidDefault kind))
  else if registered then .routing kind
  else .ended (.error (.notRegistered kind))

/-- The stack has answered; `servers` are the ones the link publishes at this moment. -/
def routed (kind : LinkKind) (refusal : Option String) (servers : List IpAddress) : Reroute :=
  match refusal with
  | some reason => .ended (.error (.netStack reason))
  | none => .resolving kind 0 servers

end Reroute

end EdgeGateway
