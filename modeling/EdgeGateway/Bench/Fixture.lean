import EdgeGateway.Bench

/-!
# EdgeGateway.Bench.Fixture

What is put on the bench.

* `Fixture`        : a choice of parts of the gateway, with or without the tasks that run them.
* `Bench.assemble` : the choice between scripted parts. Tasks start one after the other.
* `Bench.boot`     : a whole gateway between scripted parts.
* `Bench.simulate` : a whole gateway on the simulated board.
-/

namespace EdgeGateway.Bench

/-- Whether a part is only known to the others, or its task runs too. -/
inductive Presence where
  | registered
  | running
  deriving DecidableEq, Inhabited

inductive WifiPresence where
  | registered
  /-- the task runs over a plain transport -/
  | plain
  | running
  deriving DecidableEq, Inhabited

inductive BlePresence where
  /-- the attribute server alone -/
  | server
  /-- with the queue of the bridge, which nobody reads -/
  | queue
  | running
  deriving DecidableEq, Inhabited

structure Fixture where
  wifi : Option WifiPresence := none
  cellular : Option Presence := none
  modem : Bool := false
  mqtt : Option Presence := none
  ble : Option BlePresence := none
  /-- client writes reach the control point -/
  controlled : Bool := true
  deriving DecidableEq, Inhabited

namespace Fixture

/-- The chosen parts, before any task has been started. -/
def system (f : Fixture) (settings : Settings) (suffix : String) : System :=
  let s := System.ofSettings settings suffix
  let s := { s with
    plainWifi := f.wifi = some .plain, controlled := f.controlled, observed := true }
  let s := if f.modem then s.addArbiter else s
  let s := if f.wifi.isSome then s.addLink .wifi else s
  let s := if f.cellular.isSome then s.addLink .cellular else s
  let s := if f.ble.isSome && f.ble ≠ some .server then s.addBridge else s
  let s := if f.ble.isSome then s.addGatt.toOption.getD s else s
  if f.mqtt.isSome then s.addMqtt else s

/-- The tasks to start, in order. -/
def launches (f : Fixture) : List (System → System) :=
  (if f.ble = some .running then [System.startBridge] else []) ++
  (if f.wifi.isSome && f.wifi ≠ some .registered then [(·.startLink .wifi)] else []) ++
  (if f.cellular = some .running then [(·.startLink .cellular)] else []) ++
  (if f.mqtt = some .running then [System.startMqtt] else [])

end Fixture

/-- Each task runs until it waits before the next one starts. -/
def assemble (settings : Settings) (suffix : String) (f : Fixture) (parts : Parts)
    (held : List String) : Bench :=
  let b : Bench :=
    { system := f.system settings suffix, stand := .scripted parts, held
      started := !f.launches.isEmpty }
  f.launches.foldl (fun b start => { b with system := start b.system }.settle) b

/-- The calls that bring up the parts of a gateway, which go ahead one by one. -/
def bringUpCalls : List String := ["wifi.init", "modem.init", "mqtt.init"]

def boot (settings : Settings) (suffix : String) (provided : Provided) (parts : Parts)
    (held : List String) : Except BootError Bench :=
  (System.boot settings suffix provided).map fun system =>
    let b : Bench :=
      { system, stand := .scripted parts, held := bringUpCalls ++ held
        hasConsole := settings.features.console }
    bringUpCalls.foldl (fun b name => (b.openGate name).settle) b.settle

def simulate (settings : Settings) (suffix : String) (lifetime : Option Nat)
    (held : List String) : Except BootError Bench :=
  (System.boot settings suffix {}).map fun system =>
    let b : Bench :=
      { system, stand := .simulated (.ofLifetime lifetime), held
        hasConsole := settings.features.console }
    b.settle

end EdgeGateway.Bench
