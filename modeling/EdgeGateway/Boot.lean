import EdgeGateway.Settings.Reader
import EdgeGateway.System.Step

/-!
# EdgeGateway.Boot

Putting the gateway together.

* `System.ofSettings` : nothing running yet.
* `System.boot`       : the settings are checked, the board has to provide what enabled features
  need, and the tasks are started: the bridge first, so that status changes can be notified, then
  the links and the broker task.
-/

namespace EdgeGateway

/-- What the board provides, beside the network stack. -/
structure Provided where
  wifi : Bool := true
  modem : Bool := true
  /-- the radio stack and the card channel -/
  ble : Bool := true
  /-- the broker client and the device output -/
  mqtt : Bool := true
  console : Bool := true
  deriving DecidableEq, Inhabited

inductive BootError where
  | invalidSettings (fault : SettingsFault)
  | missing (part : String)
  | invalidTable (e : TableError)

namespace BootError

def name : BootError → String
  | .invalidSettings _ => "Config"
  | .missing _ => "MissingCollaborator"
  | .invalidTable _ => "Table"

def message : BootError → String
  | .invalidSettings fault => "invalid config: " ++ (Settings.Error.invalid fault).message
  | .missing part => part ++ " is enabled but the platform did not provide it"
  | .invalidTable e => "invalid attribute table: " ++ e.message

end BootError

def Link.ofPolicy (kind : LinkKind) (policy : RetryPolicy) : Link := { kind, policy }

def Mqtt.ofSettings (s : MqttSettings) : Mqtt :=
  { policy := s.retryPolicy, operations := { depth := s.queueDepth.toNat } }

def Gatt.ofSettings (s : BleSettings) : Except TableError Gatt :=
  Gatt.ofCapacity s.transreceiveCapacity.toNat s.localMtu.toNat

namespace System

def ofSettings (settings : Settings) (clientSuffix : String) : System :=
  { settings, clientSuffix, defaultLink := settings.defaultLink }

def addLink (s : System) : LinkKind → System
  | .wifi => { s with wifi := some (.ofPolicy .wifi s.settings.wifi.retryPolicy) }
  | .cellular => { s with cellular := some (.ofPolicy .cellular s.settings.cellular.retryPolicy) }
  | .none => s

def addMqtt (s : System) : System := { s with mqtt := some (.ofSettings s.settings.mqtt) }

def addArbiter (s : System) : System := { s with arbiter := some {} }

def addBridge (s : System) : System :=
  { s with bridge := some (.ofSettings s.settings.ble s.arbiter.isSome) }

def addGatt (s : System) : Except TableError System :=
  (Gatt.ofSettings s.settings.ble).map fun g => { s with gatt := some g }

/-! ## Starting tasks -/

def startLink (s : System) : LinkKind → System
  | .wifi => s.spawn .wifi (.link .wifi) none
  | .cellular => s.spawn .ppp (.link .cellular) none
  | .none => s

def startBridge (s : System) : System := s.spawn .bridge .bridge none

def startMqtt (s : System) : System := s.spawn .mqtt .mqtt none

/-- The console starts once, if there is one. -/
def startConsole (s : System) : System :=
  { s with console := some {} }.spawn .console .console none

def startShutdown (s : System) : System := s.spawn .shutdown (.shutdown .notifying) none

def startJob (s : System) (e : Errand) : System := s.spawn .job .job (some e)

def startChore (s : System) (c : Chore) : System :=
  { s with choreResult := none }.spawn .main (.chore c) none

/-! ## Boot -/

/-- The first enabled feature that the board does not provide. -/
def missing? (f : Features) (p : Provided) : Option String :=
  ([ (f.wifi && !p.wifi, "wifi"), (f.cellular && !p.modem, "modem"),
      (f.bleModem && !p.ble, "ble"), (f.mqtt && !p.mqtt, "mqtt"),
      (f.console && !p.console, "console") ].find? (·.1)).map (·.2)

/-- The gateway as it stands before any of its tasks has moved. -/
def boot (settings : Settings) (clientSuffix : String) (p : Provided) :
    Except BootError System :=
  match settings.fault? with
  | some fault => .error (.invalidSettings fault)
  | none =>
    let f := settings.features
    match missing? f p with
    | some part => .error (.missing part)
    | none => do
      let s := ofSettings settings clientSuffix
      let s := if p.modem then s.addArbiter else s
      let s := if f.wifi then s.addLink .wifi else s
      let s := if f.cellular then s.addLink .cellular else s
      let s ← if f.bleModem then s.addBridge.addGatt.mapError .invalidTable else pure s
      let s := if f.mqtt then s.addMqtt else s
      let s := if f.bleModem then s.startBridge else s
      let s := if f.wifi then s.startLink .wifi else s
      let s := if f.cellular then s.startLink .cellular else s
      let s := if f.mqtt then s.startMqtt else s
      return { s with controlled := f.bleModem }

end System

end EdgeGateway
