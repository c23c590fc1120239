import EdgeGateway.Bench.Script

/-!
# EdgeGateway.Bench.Parts

The scripted parts of a bench. A call that its entry does not fail has the effect it would have on
the real part, as far as later calls can tell.

* `Parts.enter`  : what a call does before anything can hold it up.
* `Parts.begin`  : its entry is taken.
* `Parts.finish` : its effect and its answer, once the actions of the entry have happened.
-/

namespace EdgeGateway.Bench

structure Parts where
  script : Script := {}
  connected : Bool := false
  mode : Option ModemMode := none
  advertising : Bool := false
  /-- there is a broker client, which delivers what happens -/
  client : Bool := false
  /-- the Wi-Fi manager knows whom to tell of a lost address -/
  wifiHook : Bool := false
  /-- the modem manager knows whom to tell of a lost address -/
  modemHook : Bool := false
  wifiServers : List IpAddress := [.v4 192 168 1 1]
  modemServers : List IpAddress := [.v4 10 64 0 1, .v4 10 64 0 9]

namespace Parts

def wifiAddress : IpAddress := .v4 192 168 1 20
def modemAddress : IpAddress := .v4 10 64 0 2
def portHandle : UInt32 := 7

/-- The status word that follows an echoed command. -/
def statusWord : Bytes := [0x90, 0x00]

def connectFault (text : String) : ConnectError :=
  if text = "Timeout" then .timeout
  else if text = "ModemInUse" then .modemInUse
  else .failed text

def modemFault (text : String) : ModemError :=
  if text = "NotOpen" then .notOpen
  else if text = "InUse" then .inUse
  else if text = "Timeout" then .timeout
  else .failed text

/-- The fault an entry names, in the terms of the part. -/
def faultFor (text : String) : Call → Fault
  | .linkBringUp | .linkConnect | .linkDisconnect | .linkTearDown => .connect (connectFault text)
  | .modemBringUp | .modem _ | .modemTearDown => .modem (modemFault text)
  | _ => .other text

/-- A deleted client delivers nothing any more. -/
def enter (p : Parts) : Call → Parts
  | .clientDelete => { p with client := false }
  | _ => p

/-- A client that is being created delivers what happens within that call. -/
def begin (p : Parts) (name : Option String) (c : Call) : Parts × Entry :=
  let (script, e) := match name with
    | some name => p.script.take name
    | none => (p.script, {})
  let p := { p with script }
  match c with
  | .clientCreate .. => ({ p with client := true }, e)
  | _ => (p, e)

def finishModemCall (p : Parts) (e : Entry) : ModemCall → Parts × Answer
  | .mode =>
    match p.mode with
    | some m => (p, .mode m)
    | none => (p, .failed (.modem .notOpen))
  | .dial params _ =>
    if p.mode.isSome then (p, .failed (.modem .inUse))
    else if params.ppp then
      ({ p with mode := some .ppp, modemHook := params.tellsLink },
        .address (e.address.getD (some modemAddress)))
    else ({ p with mode := some .command }, .address none)
  | .change mode _ =>
    if p.mode.isSome then ({ p with mode := some mode }, .done)
    else (p, .failed (.modem .notOpen))
  | .hangUp _ =>
    if p.mode.isSome then ({ p with mode := none }, .done)
    else (p, .failed (.modem .notOpen))

/-- A call that does not fail. -/
def succeed (p : Parts) (e : Entry) : Call → Parts × Answer
  | .linkConnect =>
    ({ p with connected := true }, .address (e.address.getD (some wifiAddress)))
  | .wifiConnect .. =>
    ({ p with connected := true, wifiHook := true },
      .address (e.address.getD (some wifiAddress)))
  | .linkDisconnect | .wifiDisconnect => ({ p with connected := false }, .done)
  | .modem c => p.finishModemCall e c
  | .openPort _ => (p, .handle (e.handle.getD portHandle))
  | .exchange _ command => (p, .data (e.data.getD (command ++ statusWord)))
  | .advertise => ({ p with advertising := true }, .done)
  | .askAdvertising => (p, .flag p.advertising)
  | .askConnected _ => (p, .flag p.connected)
  | .askServers .plain _ => (p, .servers p.wifiServers)
  | .askServers .wifi count => (p, .servers (if p.connected then p.wifiServers.take count else []))
  | .askServers .modem count =>
    (p, .servers (if p.mode = some .ppp then p.modemServers.take count else []))
  | _ => (p, .done)

/-- A call that its entry fails leaves the part as it was; a client is not created after all. -/
def finish (p : Parts) (e : Entry) (c : Call) : Parts × Answer :=
  match e.fault with
  | none => p.succeed e c
  | some text =>
    let p := match c with
      | .clientCreate .. => { p with client := false }
      | _ => p
    (p, .failed (faultFor text c))

end Parts

end EdgeGateway.Bench
