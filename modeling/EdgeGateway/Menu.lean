import EdgeGateway.Control

/-!
# EdgeGateway.Menu

The console: numbered menus, read one key at a time.

* `Menu`        : the stack of open menus above the main menu.
* `Menu.lines`  : what the innermost menu shows, given a `View` of the gateway.
* `Menu.press`  : what a key does. A key outside a menu's range leaves that menu; the main menu is
  only drawn again.
-/

namespace EdgeGateway

/-- A letter in lower case; only ASCII letters have one here. -/
def lowerKey (c : Char) : Char := c.toLower

/-- The key lies between the ends of a range, regardless of case. A range from a digit to a letter
goes up to nine and on from `a`. -/
def isWithin (key low high : Char) : Bool :=
  let key := lowerKey key
  let low := lowerKey low
  let high := lowerKey high
  if low.isDigit = high.isDigit then low ≤ key && key ≤ high
  else if low.isDigit then (low ≤ key && key ≤ '9') || ('a' ≤ key && key ≤ high)
  else false

/-- A registered link as the console sees it. -/
structure LinkView where
  kind : LinkKind
  status : Status
  ip : Option IpAddress
  dns : List IpAddress

/-- The gateway as the console sees it. -/
structure View where
  links : List LinkView
  defaultLink : LinkKind
  /-- the status of the application, if there is one -/
  app : Option Status

namespace Menu

inductive Screen where
  | links
  | linkActions (kind : LinkKind)
  | apps
  | appActions
  deriving DecidableEq, Inhabited

end Menu

/-- The open menus, the innermost first. With none open the main menu shows. -/
structure Menu where
  screens : List Menu.Screen := []
  deriving DecidableEq, Inhabited

namespace Menu

def border : String := String.ofList (List.replicate 63 '=')

/-- The key of the nth entry, counted from one. -/
def entryKey (n : Nat) : Char := if n < 10 then Char.ofNat ('0'.toNat + n) else '?'

def label : LinkKind → String
  | .wifi => "Wi-Fi"
  | .cellular => "Cellular PPP"
  | .none => "None"

def entry (key : Char) (text : String) : String :=
  "  " ++ String.ofList [key] ++ "  " ++ text

def exitEntry : String := entry 'X' "Exit"

def linkEntries (v : View) : Nat → List LinkView → List String
  | _, [] => []
  | n, l :: rest =>
    entry (entryKey n) (label l.kind ++ (if l.kind = v.defaultLink then " (default)" else "")
      ++ " - " ++ l.status.text) :: linkEntries v (n + 1) rest

def appEntries (v : View) : List String :=
  match v.app with
  | some status => [entry '1' ("MQTT - " ++ status.text)]
  | none => []

/-- Making a link the default is offered where there is another one. -/
def offersDefault (v : View) : Bool := 1 < v.links.length

def lines (m : Menu) (v : View) : List String :=
  border :: match m.screens with
    | [] =>
      ["# Console Menu", entry '1' "Manage I/O"] ++
        (if v.app.isSome then [entry '2' "Manage Apps"] else []) ++ [exitEntry]
    | .links :: _ => "# Manage I/O" :: linkEntries v 1 v.links ++ [exitEntry]
    | .linkActions kind :: _ =>
      ["# Manage " ++ label kind, entry '1' "Stop", entry '2' "Start",
          entry '3' "Restart I/O"] ++
        (if offersDefault v then [entry '4' "Set as default I/O"] else []) ++ [exitEntry]
    | .apps :: _ => "# Manage Apps" :: appEntries v ++ [exitEntry]
    | .appActions :: _ =>
      ["# Manage MQTT", entry '1' "Stop", entry '2' "Start", entry '3' "Restart App", exitEntry]

def serverLines : Nat → List IpAddress → List String
  | _, [] => []
  | n, ip :: rest =>
    ("# DNS" ++ toString n ++ ": " ++ ip.render) :: serverLines (n + 1) rest

/-- The addresses of a link, shown when it is chosen. -/
def addressLines (l : LinkView) : List String :=
  ("# " ++ label l.kind ++ " IP: " ++ (l.ip.map IpAddress.render).getD "none") ::
    match l.dns with
    | [] => ["# DNS: none"]
    | [ip] => ["# DNS: " ++ ip.render]
    | servers => serverLines 1 servers

def leave (m : Menu) : Menu := ⟨m.screens.drop 1⟩

def enter (m : Menu) (s : Screen) : Menu := ⟨s :: m.screens⟩

def actionCommand? (key : Char) : Option Command :=
  if key = '1' then some .stop
  else if key = '2' then some .start
  else if key = '3' then some .restart
  else none

/-- The entry a key stands for, counted from zero. -/
def choice (key : Char) : Nat := key.toNat - '1'.toNat

/-- What a key leads to: the menu to show next, lines to print at once, and what to do. -/
structure Press where
  menu : Menu
  lines : List String := []
  action : Option ControlCommand := none

def press (m : Menu) (v : View) (key : Char) : Press :=
  let key := lowerKey key
  match m.screens with
  | [] =>
    if isWithin key '1' (if v.app.isSome then '2' else '1') then
      ⟨m.enter (if key = '1' then .links else .apps), [], none⟩
    else ⟨m, [], none⟩
  | .links :: _ =>
    if isWithin key '1' (entryKey v.links.length) then
      match v.links[choice key]? with
      | some l => ⟨m.enter (.linkActions l.kind), addressLines l, none⟩
      | none => ⟨m.leave, [], none⟩
    else ⟨m.leave, [], none⟩
  | .linkActions kind :: _ =>
    if isWithin key '1' (if offersDefault v then '4' else '3') then
      if key = '4' then ⟨m, [], some (.makeDefault kind)⟩
      else match actionCommand? key with
        | some c => ⟨m, [], some (.link kind c)⟩
        | none => ⟨m.leave, [], none⟩
    else ⟨m.leave, [], none⟩
  | .apps :: _ =>
    if isWithin key '1' (entryKey (if v.app.isSome then 1 else 0)) && v.app.isSome then
      ⟨m.enter .appActions, [], none⟩
    else ⟨m.leave, [], none⟩
  | .appActions :: _ =>
    if isWithin key '1' '3' then
      match actionCommand? key with
      | some c => ⟨m, [], some (.app c)⟩
      | none => ⟨m.leave, [], none⟩
    else ⟨m.leave, [], none⟩

end Menu

end EdgeGateway
