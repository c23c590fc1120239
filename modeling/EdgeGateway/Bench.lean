import EdgeGateway.Bench.Parts
import EdgeGateway.Board
import EdgeGateway.Boot

/-!
# EdgeGateway.Bench

A gateway on a bench: its parts answer from a script or are those of the simulated board, calls
can be held up by gates, and what the tasks do is recorded.

* `Bench.act`    : something happens to the gateway.
* `Bench.tick?`  : one move of one thread, or the end of a running lifetime.
* `Bench.settle` : moves until nothing can move any more.
-/

namespace EdgeGateway

namespace Bench

/-- What the gateway is connected to. -/
inductive Stand where
  | scripted (parts : Parts)
  | simulated (board : Board)

/-- What an actor did. -/
inductive Event where
  | call (c : Call)
  /-- a line of the simulated board's report -/
  | report (line : String)
  deriving DecidableEq

/-- What became of something that was done to the gateway. -/
inductive Result where
  | nothing
  | ok
  | control (e : ControlError)
  | noLink
  | noHook
  | noClient
  | noLease
  | refused
  /-- it has not ended yet -/
  | blocked
  | outcome (o : Outcome)
  | modem (e : ModemError)
  | response (r : Except GattStatus GattResponse)
  | flag (b : Bool)
  | value (v : Option Bytes)
  | servers (dns : List IpAddress)
  | messages (ms : List BridgeMessage)
  /-- a text was cut within a character -/
  | cutText

/-- An arbiter operation under way, and where a lease it is granted goes. -/
structure Job where
  thread : Nat
  name : String
  slot : Option String

end Bench

structure Bench where
  system : System
  stand : Bench.Stand
  /-- names of calls that are held up -/
  held : List String := []
  /-- threads let through a gate that stays held -/
  passed : List Nat := []
  /-- running lifetimes let through as well, or of no length -/
  elapsed : List Expiry := []
  trace : List (Actor × Bench.Event) := []
  /-- lines the console has printed -/
  lines : List String := []
  /-- keys typed and not yet read -/
  keys : List Char := []
  keysEnded : Bool := false
  jobs : List Bench.Job := []
  /-- leases kept, by slot -/
  leases : List (String × Nat) := []
  /-- there is a console to start -/
  hasConsole : Bool := true
  /-- threads whose end is waited for have been started -/
  started : Bool := false

namespace Bench

def record (b : Bench) (a : Actor) (es : List Event) : Bench :=
  { b with trace := b.trace ++ es.map fun e => (a, e) }

def reports (b : Bench) (a : Actor) (lines : List String) : Bench :=
  b.record a (lines.map .report)

/-! ## Actions -/

def ofControl : Except ControlError Unit → Result
  | .ok () => .ok
  | .error e => .control e

/-- The manager of a link lost the address and tells whom it knows. -/
def loseAddress (b : Bench) (p : Parts) (kind : LinkKind) : Bench × Result :=
  let (p, hook) := match kind with
    | .wifi => ({ p with connected := false }, p.wifiHook)
    | _ => (p, p.modemHook)
  let b := { b with stand := .scripted p }
  if hook then ({ b with system := (b.system.ipLost kind).1 }, .ok) else (b, .noHook)

/-- An event of the broker client, which there may not be. -/
def clientEvent (b : Bench) (p : Parts) (deliver : System → System) : Bench × Result :=
  if p.client then ({ b with system := deliver b.system }, .ok) else (b, .noClient)

def act (b : Bench) : Action → Bench × Result
  | .notifyLink kind c =>
    let (s, r) := b.system.notifyLink kind c
    ({ b with system := s }, ofControl r)
  | .notifyApp c =>
    let (s, r) := b.system.notifyApp c
    ({ b with system := s }, ofControl r)
  | .ipLost kind =>
    let (s, there) := b.system.ipLost kind
    ({ b with system := s }, if there then .ok else .noLink)
  | .loseAddress kind =>
    match b.stand with
    | .scripted p => b.loseAddress p kind
    | .simulated _ => (b, .noHook)
  | .brokerLost =>
    match b.stand with
    | .scripted p => b.clientEvent p System.brokerLost
    | .simulated _ => (b, .noClient)
  | .brokerMessage payload =>
    match b.stand with
    | .scripted p => b.clientEvent p (·.brokerMessage payload)
    | .simulated _ => (b, .noClient)
  | .setConnected on =>
    match b.stand with
    | .scripted p => ({ b with stand := .scripted { p with connected := on } }, .nothing)
    | .simulated _ => (b, .nothing)
  | .setAdvertising on =>
    match b.stand with
    | .scripted p => ({ b with stand := .scripted { p with advertising := on } }, .nothing)
    | .simulated _ => (b, .nothing)

/-! ## Calls -/

/-- A call begins. What the part does first is recorded with it. -/
def enter (b : Bench) (t : Thread) (c : Call) : Bench :=
  match b.stand with
  | .scripted p =>
    let b := { b with stand := .scripted (p.enter c) }
    if (c.name t.actor).isSome then b.record t.actor [.call c] else b
  | .simulated board =>
    let (lines, pause) := board.enter c
    (b.reports t.actor lines).record t.actor (pause.toList.map fun ms => .call (.sleep ms))

/-- The gate in front of a call's end. -/
def gate? (b : Bench) (t : Thread) (c : Call) : Option String :=
  match b.stand with
  | .scripted _ => c.name t.actor
  | .simulated board => (board.enter c).2.map fun _ => t.actor.pauseName

def isHeld (b : Bench) (t : Thread) (c : Call) : Bool :=
  (b.gate? t c).any fun g => b.held.contains g && !b.passed.contains t.id

/-- A lifetime begins to run. One of no length has passed at once. -/
def schedule (b : Bench) (e : Expiry) (lifetime : Nat) : Bench :=
  if lifetime = 0 then { b with elapsed := e :: b.elapsed }
  else b.record .expiry [.call (.sleep lifetime)]

/-- The call returns. -/
def finish (b : Bench) (t : Thread) (c : Call) : Bench :=
  match b.stand with
  | .scripted p =>
    let (p, entry) := p.begin (c.name t.actor) c
    let b := entry.actions.foldl (fun b a => (b.act a).1) { b with stand := .scripted p }
    match b.stand with
    | .scripted p =>
      let (p, a) := p.finish entry c
      { b with stand := .scripted p, system := b.system.answer t c a }
    | .simulated _ => b
  | .simulated board =>
    let e := board.finish c
    let b := { b with stand := .simulated e.onward, system := b.system.answer t c e.answer }
    let b := b.reports t.actor e.lines
    match e.scheduled with
    | some expiry => b.schedule expiry ((e.board.lease expiry.kind).lifetime.getD 0)
    | none => b

/-- The end of a call of a thread, if nothing holds it up. The console's own calls are answered
by the bench. -/
def return? (b : Bench) (t : Thread) (c : Call) : Option Bench :=
  if b.isHeld t c then none
  else
    let b := { b with passed := b.passed.filter (· ≠ t.id) }
    match c with
    | .readKey =>
      match b.keys with
      | key :: keys => some { b with keys, system := b.system.answer t c (.key (some key)) }
      | [] =>
        if b.keysEnded then some { b with system := b.system.answer t c (.key none) } else none
    | .print lines =>
      some { b with lines := b.lines ++ lines, system := b.system.answer t c .done }
    | c => some (b.finish t c)

/-! ## Moves -/

def move? (b : Bench) (t : Thread) : Option Bench :=
  match b.system.next t with
  | .blocked => none
  | .step s => some { b with system := s }
  | .start c s => some ({ b with system := s }.enter t c)
  | .inside c => b.return? t c

/-- A lifetime ends. If its lease is still current, the loss is reported and the link told. -/
def endLifetime (b : Bench) (board : Board) (e : Expiry) : Bench :=
  let (board, lost) := board.runOut e
  let b := { b with stand := .simulated board, elapsed := b.elapsed.erase e }
  if lost then
    { b with system := (b.system.ipLost e.kind).1 }.reports .expiry [Board.expiryLine e.kind]
  else b

def expire? (b : Bench) : Option Bench :=
  match b.stand with
  | .scripted _ => none
  | .simulated board =>
    let held := b.held.contains Actor.expiry.pauseName
    (board.expiries.find? fun e => b.elapsed.contains e || !held).map (b.endLifetime board)

/-- One move of the first thread that can make one. -/
def tick? (b : Bench) : Option Bench :=
  (b.system.threads.findSome? b.move?).or b.expire?

def run : Nat → Bench → Bench
  | 0, b => b
  | fuel + 1, b =>
    match b.tick? with
    | some b => run fuel b
    | none => b

/-- More moves than any sequence of tries of sensible settings takes. -/
def moveLimit : Nat := 4000000

/-- Everything moves until it is held up or waits. -/
def settle (b : Bench) : Bench := b.run moveLimit

/-! ## Gates -/

def hold (b : Bench) (name : String) : Bench :=
  { b with held := if b.held.contains name then b.held else name :: b.held }

def openGate (b : Bench) (name : String) : Bench := { b with held := b.held.filter (· ≠ name) }

/-- The thread is at the gate. -/
def isAt (b : Bench) (name : String) (t : Thread) : Bool :=
  match t.stage with
  | .inside c => b.gate? t c = some name
  | _ => false

/-- Those who are at the gate now get through, the gate stays held. -/
def pass (b : Bench) (name : String) : Bench :=
  let waiting := b.system.threads.filter (b.isAt name)
  let b := { b with passed := b.passed ++ waiting.map Thread.id }
  match b.stand with
  | .scripted _ => b
  | .simulated board =>
    if name = Actor.expiry.pauseName then { b with elapsed := board.expiries } else b

end Bench

end EdgeGateway
