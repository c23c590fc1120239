import EdgeGateway.Address
import EdgeGateway.Settings

/-!
# EdgeGateway.Modem

The cellular modem as its connection manager shows it: a mode while it is open, the calls made on
it, and the ways they fail.
-/

namespace EdgeGateway

inductive ModemMode where
  | command
  | ppp
  deriving DecidableEq, Inhabited

def ModemMode.text : ModemMode → String
  | .command => "command"
  | .ppp => "ppp"

inductive ModemError where
  | notOpen
  | inUse
  | timeout
  | failed (reason : String)
  deriving DecidableEq, Inhabited

def ModemError.message : ModemError → String
  | .notOpen => "modem is not open"
  | .inUse => "modem is in use by another session"
  | .timeout => "modem operation timed out"
  | .failed reason => "modem operation failed: " ++ reason

/-- How the modem is opened: for a data link, or in command mode. -/
structure DialParams where
  ppp : Bool
  apn : String := ""
  username : String := ""
  password : String := ""
  auth : PppAuth := .none
  /-- the cellular link is to be told if the address is lost -/
  tellsLink : Bool := false
  deriving DecidableEq, Inhabited

def DialParams.commandMode : DialParams := { ppp := false }

def CellularSettings.dialParams (s : CellularSettings) : DialParams :=
  { ppp := true, apn := s.apn, username := s.username, password := s.password, auth := s.auth }

/-- A call to the modem whose answer an arbiter errand waits for. -/
inductive ModemCall where
  | mode
  | dial (params : DialParams) (timeout : Option Nat)
  | change (mode : ModemMode) (timeout : Nat)
  | hangUp (timeout : Option Nat)
  deriving DecidableEq

inductive ModemAnswer where
  | failed (e : ModemError)
  | mode (m : ModemMode)
  | address (ip : Option IpAddress)
  | done
  deriving DecidableEq

end EdgeGateway
