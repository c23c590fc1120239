import EdgeGateway.Call

/-!
# EdgeGateway.Board

A simulated board. Its parts succeed after a while and report what they were asked for.

* `AddressLease` : the lifetime of an address. Every connect and every disconnect begins a new
  lease, and only the lease that is current when its lifetime ends reports a loss.
* `Board.enter`  : what a call does at once, and whether it takes a while.
* `Board.finish` : what it does at its end, and its answer.
* `Board.runOut` : the end of a lifetime.
-/

namespace EdgeGateway

/-- Leases are numbered; `current` is the number of the latest one. -/
structure AddressLease where
  lifetime : Option Nat
  current : UInt64 := 0
  deriving DecidableEq, Inhabited

namespace AddressLease

/-- A connect begins a lease. Its number is scheduled to expire if lifetimes are limited and there
is somebody to tell. -/
def renew (l : AddressLease) (tells : Bool) : AddressLease × Option UInt64 :=
  let number := l.current + 1
  ({ l with current := number }, if tells then l.lifetime.map fun _ => number else none)

/-- A disconnect begins a lease that nothing is scheduled for. -/
def drop (l : AddressLease) : AddressLease := { l with current := l.current + 1 }

/-- The lifetime of a lease has ended, and the lease is still the current one. -/
def expires (l : AddressLease) (number : UInt64) : Bool := l.current = number

end AddressLease

/-- A lifetime that is running. -/
structure Expiry where
  kind : LinkKind
  number : UInt64
  deriving DecidableEq, Inhabited

structure Board where
  wifiConnected : Bool := false
  wifiLease : AddressLease
  modemMode : Option ModemMode := none
  modemLease : AddressLease
  session : Option UInt32 := none
  advertising : Bool := false
  /-- there is a broker client -/
  client : Bool := false
  expiries : List Expiry := []
  deriving DecidableEq, Inhabited

namespace Board

def ofLifetime (lifetime : Option Nat) : Board :=
  { wifiLease := { lifetime }, modemLease := { lifetime } }

def wifiAssociateMs : Nat := 800
def modemDialMs : Nat := 1500
def modeSwitchMs : Nat := 200

def sessionHandle : UInt32 := 1

/-- What a call reports when it begins, and the pause it makes, if any. -/
def enter (b : Board) : Call → List String × Option Nat
  | .wifiConnect ssid _ security _ =>
    (["sim wifi: joining " ++ Text.quoted ssid ++ " (" ++ security.text ++ ")"],
      some wifiAssociateMs)
  | .modem (.dial _ _) => ([], if b.modemMode.isSome then none else some modemDialMs)
  | .modem (.change _ _) => ([], if b.modemMode.isSome then some modeSwitchMs else none)
  | .openPort port => (if b.session.isSome then [] else ["sim uicc: opened " ++ port], none)
  | .exchange handle command =>
    (if b.session = some handle then ["sim uicc: apdu " ++ Bytes.hex command] else [], none)
  | .notify n =>
    (["sim gatt: notify conn " ++ toString n.connection.toNat ++ " " ++ handleText n.handle ++
      " " ++ Bytes.hex n.value], none)
  | .clientCreate host port tls =>
    (["sim mqtt: client for " ++ host ++ ":" ++ toString port.toNat ++
      (if tls.isSome then " (tls)" else " (plain)")], none)
  | .clientConnect id _ _ _ _ => (["sim mqtt: connected as " ++ id], none)
  | .clientSubscribe topic qos =>
    (["sim mqtt: subscribed to " ++ topic ++ " (" ++ qos.text ++ ")"], none)
  | .clientDelete => (if b.client then ["sim mqtt: client deleted"] else [], none)
  | .setRoute kind => (["sim net: default route via " ++ kind.text], none)
  | .setServer index ip => (["sim net: dns[" ++ toString index ++ "] = " ++ ip.render], none)
  | .drive on => (["sim led: " ++ if on then "on" else "off"], none)
  | .sleep ms => ([], some ms)
  | _ => ([], none)

/-- How a call ends. -/
structure End where
  board : Board
  answer : Answer
  lines : List String := []
  /-- a lifetime begins to run -/
  scheduled : Option Expiry := none

/-- A lifetime that begins runs on from here. -/
def End.onward (e : End) : Board :=
  { e.board with expiries := e.board.expiries ++ e.scheduled.toList }

def scheduled (kind : LinkKind) (number : Option UInt64) : Option Expiry :=
  number.map fun n => { kind, number := n }

/-- A connect of the station, which may know whom to tell of a lost address. -/
def join (b : Board) (tells : Bool) : End :=
  let (lease, number) := b.wifiLease.renew tells
  ⟨{ b with wifiConnected := true, wifiLease := lease },
    .address (some (.v4 192 168 1 20)), [], scheduled .wifi number⟩

def leave (b : Board) : End :=
  ⟨{ b with wifiConnected := false, wifiLease := b.wifiLease.drop }, .done, [], none⟩

def endModemCall (b : Board) : ModemCall → End
  | .mode =>
    match b.modemMode with
    | some m => ⟨b, .mode m, [], none⟩
    | none => ⟨b, .failed (.modem .notOpen), [], none⟩
  | .dial params _ =>
    if b.modemMode.isSome then ⟨b, .failed (.modem .inUse), [], none⟩
    else if params.ppp then
      let (lease, number) := b.modemLease.renew params.tellsLink
      ⟨{ b with modemMode := some .ppp, modemLease := lease }, .address (some (.v4 10 64 0 2)),
        ["sim modem: PPP up on APN " ++ params.apn], scheduled .cellular number⟩
    else
      ⟨{ b with modemMode := some .command }, .address none,
        ["sim modem: opened in command mode"], none⟩
  | .change mode _ =>
    if b.modemMode.isSome then ⟨{ b with modemMode := some mode }, .done, [], none⟩
    else ⟨b, .failed (.modem .notOpen), [], none⟩
  | .hangUp _ =>
    let answer := if b.modemMode.isSome then .done else .failed (.modem .notOpen)
    ⟨{ b with modemMode := none, modemLease := b.modemLease.drop }, answer, [], none⟩

def pppServers : List IpAddress := [.v4 10 64 0 1, .v4 10 64 0 9]

def finish (b : Board) : Call → End
  | .wifiConnect .. => b.join true
  | .wifiDisconnect => b.leave
  | .modem c => b.endModemCall c
  | .openPort _ =>
    if b.session.isSome then ⟨b, .failed (.other "session already open"), [], none⟩
    else ⟨{ b with session := some sessionHandle }, .handle sessionHandle, [], none⟩
  | .closePort handle =>
    if b.session = some handle then ⟨{ b with session := none }, .done, [], none⟩
    else ⟨b, .failed (.other "no session"), [], none⟩
  | .exchange handle _ =>
    if b.session = some handle then ⟨b, .data [0x90, 0x00], [], none⟩
    else ⟨b, .failed (.other "no session"), [], none⟩
  | .advertise => ⟨{ b with advertising := true }, .done, [], none⟩
  | .askAdvertising => ⟨b, .flag b.advertising, [], none⟩
  | .clientCreate .. => ⟨{ b with client := true }, .done, [], none⟩
  | .clientDelete => ⟨{ b with client := false }, .done, [], none⟩
  | .askConnected _ => ⟨b, .flag b.wifiConnected, [], none⟩
  | .askServers .modem count =>
    ⟨b, .servers (if b.modemMode = some .ppp then pppServers.take count else []), [], none⟩
  | .askServers _ _ =>
    ⟨b, .servers (if b.wifiConnected then [.v4 192 168 1 1] else []), [], none⟩
  | _ => ⟨b, .done, [], none⟩

def lease (b : Board) : LinkKind → AddressLease
  | .wifi => b.wifiLease
  | _ => b.modemLease

/-- The lease a lifetime belongs to is still current. -/
def expires (b : Board) (e : Expiry) : Bool := (b.lease e.kind).expires e.number

/-- A lifetime has run out. The loss of the address is reported if its lease is still current. -/
def runOut (b : Board) (e : Expiry) : Board × Bool :=
  ({ b with expiries := b.expiries.erase e }, b.expires e)

/-- The link as the board's report names it. -/
def expiryLine (kind : LinkKind) : String :=
  "sim " ++ (match kind with
    | .wifi => "wifi"
    | _ => "ppp") ++ ": address expired"

end Board

end EdgeGateway
