import EdgeGateway.Modem

/-!
# EdgeGateway.Modem.Arbiter

Two parties want the one modem: the cellular link, for a long data session, and the modem bridge,
for short leases in command mode. The arbiter lets one of them at it at a time.

* `Arbiter` : whether an errand is at the modem, whether the link's session is open, and the lease.
* `Errand`  : an operation on its way. It waits for admission (`Arbiter.enter`), makes its modem
  calls one by one (`Errand.call?`, `Arbiter.answer`), and ends with an `Outcome`.

A lease ends with the modem back in its earlier mode, or closed if the lease opened it. A session
that is closed while the modem is leased passes to the lease, which then closes the modem.
-/

namespace EdgeGateway

/-- A held lease and how it has to leave the modem. -/
structure Lease where
  id : Nat
  openedByLease : Bool
  savedMode : ModemMode
  switchTimeout : Nat
  deriving DecidableEq, Inhabited

inductive ArbiterError where
  | alreadyInUse
  | busy
  | modeSwitchFailed (mode : ModemMode)
  | modem (e : ModemError)
  deriving DecidableEq

namespace ArbiterError

def name : ArbiterError → String
  | .alreadyInUse => "AlreadyInUse"
  | .busy => "Busy"
  | .modeSwitchFailed _ => "ModeSwitchFailed"
  | .modem _ => "Modem"

def message : ArbiterError → String
  | .alreadyInUse => "modem is already leased"
  | .busy => "modem is busy, try again later"
  | .modeSwitchFailed mode => "failed to switch modem to " ++ mode.text ++ " mode"
  | .modem e => e.message

end ArbiterError

structure Arbiter where
  /-- an errand is at the modem -/
  busy : Bool := false
  /-- the cellular link has the modem open -/
  dataSession : Bool := false
  lease : Option Lease := none
  /-- leases granted so far -/
  granted : Nat := 0
  deriving DecidableEq, Inhabited

/-- How an errand ended. -/
inductive Outcome where
  | leased (id : Nat)
  | released
  | opened (ip : Option IpAddress)
  | closed
  | refused (e : ArbiterError)
  deriving DecidableEq

inductive Errand where
  /-- wants a lease -/
  | acquire (timeout : Nat)
  /-- gives a lease back -/
  | release (id : Nat)
  /-- wants the data session -/
  | openData (params : DialParams) (timeout : Option Nat)
  /-- ends the data session -/
  | closeData (timeout : Option Nat)
  /-- asks the modem for its mode, to take it over for a lease -/
  | inspect (timeout : Nat)
  /-- opens the closed modem for a lease -/
  | openForLease (timeout : Nat)
  /-- takes the modem out of its data mode for a lease -/
  | switchForLease (timeout : Nat)
  /-- puts the modem back into its data mode after a lease -/
  | restore (lease : Lease)
  /-- closes the modem after a lease -/
  | closeAfterLease (lease : Lease)
  /-- opens the modem for the data session -/
  | dial (params : DialParams) (timeout : Option Nat)
  /-- closes the modem after the data session -/
  | hangUp (timeout : Option Nat)
  | ended (outcome : Outcome)
  deriving DecidableEq

namespace Errand

/-- The errand has been admitted and has not ended. -/
def isAtModem : Errand → Bool
  | .inspect _ | .openForLease _ | .switchForLease _ | .restore _ | .closeAfterLease _
  | .dial _ _ | .hangUp _ => true
  | _ => false

/-- The errand has made a call and goes on without letting the modem go. -/
def keepsModem : Errand → Bool
  | .openForLease _ | .switchForLease _ | .closeAfterLease _ => true
  | _ => false

/-- The modem call the errand makes next. An errand at the modem may have none to make. -/
def call? : Errand → Option ModemCall
  | .inspect _ => some .mode
  | .openForLease timeout => some (.dial .commandMode (some timeout))
  | .switchForLease timeout => some (.change .command timeout)
  | .restore lease =>
    if lease.savedMode = .ppp then some (.change .ppp lease.switchTimeout) else none
  | .closeAfterLease lease => if lease.openedByLease then some (.hangUp none) else none
  | .dial params timeout => some (.dial params timeout)
  | .hangUp timeout => some (.hangUp timeout)
  | _ => none

/-- How long the errand may wait for its turn; without limit if there is none. -/
def patience : Errand → Option Nat
  | .acquire timeout => some timeout
  | .openData _ timeout => timeout
  | .closeData timeout => timeout
  | _ => none

end Errand

namespace Arbiter

/-- Admission of a waiting errand, `expired` telling whether its patience has run out. None while
it has to wait on. -/
def enter (a : Arbiter) (expired : Bool) : Errand → Option (Arbiter × Errand)
  | .acquire timeout =>
    if a.busy then if expired then some (a, .ended (.refused .busy)) else none
    else if a.lease.isSome then some (a, .ended (.refused .alreadyInUse))
    else some ({ a with busy := true }, .inspect timeout)
  | .release id =>
    if a.busy then none
    else match a.lease with
      | some lease =>
        if lease.id = id then some ({ a with lease := none, busy := true }, .restore lease)
        else some (a, .ended .released)
      | none => some (a, .ended .released)
  | .openData params timeout =>
    if a.busy then if expired then some (a, .ended (.refused .busy)) else none
    else if a.lease.isSome then some (a, .ended (.refused .alreadyInUse))
    else some ({ a with busy := true }, .dial params timeout)
  | .closeData timeout =>
    if a.busy || (a.lease.isSome && !expired) then none
    else if !a.dataSession then some (a, .ended .closed)
    else match a.lease with
      | some lease =>
        some ({ a with
            lease := some { lease with openedByLease := true, savedMode := .command }
            dataSession := false }, .ended .closed)
      | none => some ({ a with busy := true }, .hangUp timeout)
  | _ => none

/-- The errand leaves the modem. -/
def finish (a : Arbiter) (outcome : Outcome) : Arbiter × Errand :=
  ({ a with busy := false }, .ended outcome)

/-- The errand leaves the modem with a lease on it. -/
def grant (a : Arbiter) (openedByLease : Bool) (savedMode : ModemMode) (timeout : Nat) :
    Arbiter × Errand :=
  let id := a.granted + 1
  ({ a with busy := false, granted := id, lease := some ⟨id, openedByLease, savedMode, timeout⟩ },
    .ended (.leased id))

/-- The modem's answer to the errand's call; an errand with no call to make goes on with `done`. -/
def answer (a : Arbiter) : Errand → ModemAnswer → Arbiter × Errand
  | .inspect timeout, .failed .notOpen => (a, .openForLease timeout)
  | .inspect _, .failed e => a.finish (.refused (.modem e))
  | .inspect timeout, .mode .ppp => (a, .switchForLease timeout)
  | .inspect timeout, .mode .command => a.grant false .command timeout
  | .openForLease _, .failed .timeout => a.finish (.refused .busy)
  | .openForLease _, .failed .inUse => a.finish (.refused .alreadyInUse)
  | .openForLease _, .failed e => a.finish (.refused (.modem e))
  | .openForLease timeout, .address _ => a.grant true .command timeout
  | .switchForLease _, .failed _ => a.finish (.refused (.modeSwitchFailed .command))
  | .switchForLease timeout, .done => a.grant false .ppp timeout
  | .restore lease, _ => (a, .closeAfterLease lease)
  | .closeAfterLease _, _ => a.finish .released
  | .dial _ _, .failed e => a.finish (.refused (.modem e))
  | .dial _ _, .address ip => { a with dataSession := true }.finish (.opened ip)
  | .hangUp _, .failed e => { a with dataSession := false }.finish (.refused (.modem e))
  | .hangUp _, .done => { a with dataSession := false }.finish .closed
  | e, _ => (a, e)

end Arbiter

end EdgeGateway
