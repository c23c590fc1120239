import EdgeGateway.Call

/-!
# EdgeGateway.Bench.Script

What the parts of a bench are told to answer.

* `Action`    : something that happens to the gateway, between calls or within one.
* `Entry`     : how one call goes: what happens while it is under way, and what it brings.
* `Script`    : the entries still to come, under the names of the calls they are for.
* `Call.name` : the name of a call. Gates go by these names too. Questions, keys and printed lines
  have none.
-/

namespace EdgeGateway

namespace Bench

inductive Action where
  | notifyLink (kind : LinkKind) (c : Command)
  | notifyApp (c : Command)
  /-- a link is told that its address is lost -/
  | ipLost (kind : LinkKind)
  /-- the manager of a link loses the address -/
  | loseAddress (kind : LinkKind)
  | brokerLost
  | brokerMessage (payload : Bytes)
  | setConnected (b : Bool)
  | setAdvertising (b : Bool)
  deriving DecidableEq

structure Entry where
  fault : Option String := none
  /-- an address to report instead of the usual one, or that there is none -/
  address : Option (Option IpAddress) := none
  handle : Option UInt32 := none
  data : Option Bytes := none
  actions : List Action := []
  deriving DecidableEq

structure Script where
  entries : List (String × List Entry) := []
  deriving DecidableEq

namespace Script

/-- More entries for a name, after those it has. -/
def append (s : Script) (name : String) (more : List Entry) : Script :=
  match s.entries.lookup name with
  | some _ =>
    ⟨s.entries.map fun (key, es) => if key = name then (key, es ++ more) else (key, es)⟩
  | none => ⟨s.entries ++ [(name, more)]⟩

/-- The next entry for a name. A call without one goes as usual. -/
def take (s : Script) (name : String) : Script × Entry :=
  match s.entries.lookup name with
  | some (e :: _) =>
    (⟨s.entries.map fun (key, es) => if key = name then (key, es.drop 1) else (key, es)⟩, e)
  | _ => (s, {})

end Script

end Bench

/-- The pause of a thread goes by the name of the thread. -/
def Actor.pauseName (a : Actor) : String := "sleep " ++ a.name

def ModemCall.name : ModemCall → String
  | .mode => "modem.mode"
  | .dial _ _ => "modem.connect"
  | .change _ _ => "modem.change"
  | .hangUp _ => "modem.disconnect"

def Call.name (a : Actor) : Call → Option String
  | .linkBringUp => some "link.init"
  | .linkConnect => some "link.connect"
  | .linkDisconnect => some "link.disconnect"
  | .linkTearDown => some "link.deinit"
  | .wifiBringUp => some "wifi.init"
  | .wifiConnect .. => some "wifi.connect"
  | .wifiDisconnect => some "wifi.disconnect"
  | .wifiTearDown => some "wifi.deinit"
  | .modemBringUp => some "modem.init"
  | .modem c => some c.name
  | .modemTearDown => some "modem.deinit"
  | .openPort _ => some "uicc.open"
  | .closePort _ => some "uicc.close"
  | .exchange _ _ => some "uicc.transreceive"
  | .notify _ => some "gatt.notify"
  | .advertise => some "gatt.advertise"
  | .clientBringUp => some "mqtt.init"
  | .clientCreate .. => some "mqtt.create"
  | .clientConnect .. => some "mqtt.connect"
  | .clientSubscribe .. => some "mqtt.subscribe"
  | .clientUnsubscribe .. => some "mqtt.unsubscribe"
  | .clientDisconnect => some "mqtt.disconnect"
  | .clientDelete => some "mqtt.delete"
  | .clientTearDown => some "mqtt.deinit"
  | .setRoute _ => some "net.default"
  | .setServer _ _ => some "net.dns"
  | .drive _ => some "output.set"
  | .status r s => some ("status " ++ r.name ++ " " ++ s.text)
  | .sleep _ => some a.pauseName
  | .askConnected _ | .askServers _ _ | .askAdvertising | .readKey | .print _ => none

end EdgeGateway
