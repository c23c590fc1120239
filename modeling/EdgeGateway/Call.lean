import EdgeGateway.Gatt
import EdgeGateway.Link
import EdgeGateway.Modem
import EdgeGateway.Text.Quoted

/-!
# EdgeGateway.Call

The calls that tasks make to the parts of the board, and the answers they get.

* `Actor`  : who makes a call.
* `Call`   : a call with its arguments. Questions about the state of a part are calls as well.
* `Lock`   : a part that serves one caller at a time.
-/

namespace EdgeGateway

inductive Actor where
  | wifi
  | ppp
  | bridge
  | mqtt
  | subscriber
  | console
  | shutdown
  | expiry
  | job
  | main
  deriving DecidableEq, Inhabited

def Actor.name : Actor → String
  | .wifi => "wifi"
  | .ppp => "ppp"
  | .bridge => "ble-modem"
  | .mqtt => "mqtt"
  | .subscriber => "mqtt-subscriber"
  | .console => "console"
  | .shutdown => "shutdown"
  | .expiry => "sim-dhcp"
  | .job => "bg"
  | .main => "main"

/-- A task that publishes a status. -/
inductive Reporter where
  | link (kind : LinkKind)
  | mqtt
  deriving DecidableEq, Inhabited

def Reporter.name : Reporter → String
  | .link kind => kind.text
  | .mqtt => "MQTT"

/-- What a link is made of. -/
inductive Medium where
  /-- a transport of no particular kind -/
  | plain
  | wifi
  | modem
  deriving DecidableEq, Inhabited

inductive Lock where
  | client
  | server
  | modem
  | net
  | output
  deriving DecidableEq, Inhabited

inductive Call where
  | linkBringUp
  | linkConnect
  | linkDisconnect
  | linkTearDown
  | wifiBringUp
  | wifiConnect (ssid password : String) (security : WifiSecurity) (timeout : Option Nat)
  | wifiDisconnect
  | wifiTearDown
  | modemBringUp
  | modem (c : ModemCall)
  | modemTearDown
  | openPort (port : String)
  | closePort (handle : UInt32)
  | exchange (handle : UInt32) (command : Bytes)
  | notify (n : Notification)
  | advertise
  | clientBringUp
  | clientCreate (host : String) (port : UInt16) (tls : Option TlsMaterial)
  | clientConnect (id username password : String) (keepAliveSecs timeoutMs : Nat)
  | clientSubscribe (topic : String) (qos : Qos)
  | clientUnsubscribe (topic : String) (qos : Qos)
  | clientDisconnect
  | clientDelete
  | clientTearDown
  | setRoute (kind : LinkKind)
  | setServer (index : Nat) (ip : IpAddress)
  | drive (on : Bool)
  | status (reporter : Reporter) (status : Status)
  | sleep (ms : Nat)
  | askConnected (medium : Medium)
  | askServers (medium : Medium) (count : Nat)
  | askAdvertising
  | readKey
  | print (lines : List String)
  deriving DecidableEq, Inhabited

/-- The part a call needs for itself. -/
def Call.lock? : Call → Option Lock
  | .modemBringUp | .modem _ | .modemTearDown | .askServers .modem _ => some .modem
  | .notify _ | .advertise | .askAdvertising => some .server
  | .clientBringUp | .clientCreate .. | .clientConnect .. | .clientSubscribe ..
  | .clientUnsubscribe .. | .clientDisconnect | .clientDelete | .clientTearDown => some .client
  | .setRoute _ | .setServer .. => some .net
  | .drive _ => some .output
  | _ => none

/-- Why a call fails. -/
inductive Fault where
  | connect (e : ConnectError)
  | modem (e : ModemError)
  | other (reason : String)
  deriving DecidableEq

inductive Answer where
  | done
  | failed (f : Fault)
  | address (ip : Option IpAddress)
  | handle (h : UInt32)
  | data (bytes : Bytes)
  | mode (m : ModemMode)
  | flag (b : Bool)
  | servers (dns : List IpAddress)
  | key (c : Option Char)
  deriving DecidableEq

def Answer.succeeded : Answer → Bool
  | .failed _ => false
  | _ => true

/-- A fault as the transport of a link reports it. -/
def Fault.toConnectError : Fault → ConnectError
  | .connect e => e
  | .modem e => .failed e.message
  | .other reason => .failed (Text.quoted reason)

def Fault.toModemError : Fault → ModemError
  | .modem e => e
  | .connect e => .failed e.message
  | .other reason => .failed reason

/-- An answer as an arbiter errand takes it. -/
def Answer.toModem : Answer → ModemAnswer
  | .failed f => .failed f.toModemError
  | .mode m => .mode m
  | .address ip => .address ip
  | _ => .done

end EdgeGateway
