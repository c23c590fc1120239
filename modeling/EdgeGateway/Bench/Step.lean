import EdgeGateway.Bench

/-!
# EdgeGateway.Bench.Step

A session on the bench: one step after the other, each of them followed by as many moves as there
are.

* `Step`          : what can be done to the gateway or to the bench.
* `Bench.perform` : a step, the moves that follow, and what became of it.
* `Bench.take`    : what has been recorded since it was last asked for.
-/

namespace EdgeGateway.Bench

inductive Step where
  | act (a : Action)
  | script (name : String) (entries : List Entry)
  | hold (name : String)
  | openGate (name : String)
  | pass (name : String)
  | control (bytes : Bytes)
  | makeDefault (kind : LinkKind)
  | type (keys : List Char)
  | endKeys
  /-- a lease wanted for a slot -/
  | acquire (job : String) (slot : String) (timeout : Nat)
  /-- the lease of a slot given back -/
  | release (job : String) (slot : String)
  | openData (job : String) (params : DialParams) (timeout : Option Nat)
  | closeData (job : String) (timeout : Option Nat)
  | bringUpModem
  | tearDownModem
  | askServers (count : Nat)
  | event (e : GattEvent)
  | update (handle : UInt16) (value : Bytes)
  | advertise
  /-- a task reports its status to the status characteristic -/
  | announce (task : String) (status : Status)
  | attachControl
  /-- everything is taken from the queue of the bridge -/
  | drain
  /-- the queue of the bridge loses its reader -/
  | dropQueue
  | post (m : BridgeMessage)
  | drive (on : Bool)
  /-- every task is told to shut down -/
  | tellShutdown
  /-- the gateway shuts down, waiting for its tasks -/
  | shutdown

/-! ## Console -/

/-- The console starts with the first keys, if the gateway has one. -/
def startConsole (b : Bench) : Bench :=
  if b.system.console.isSome || !b.hasConsole then b
  else { b with system := b.system.startConsole, started := true }.settle

def typeKey (b : Bench) (key : Char) : Bench := { b with keys := b.keys ++ [key] }.settle

/-! ## Chores -/

def ofChore : ChoreResult → Result
  | .control r => ofControl r
  | .written r => .response r
  | .flag on => .flag on
  | .modem (.ok ()) => .ok
  | .modem (.error e) => .modem e
  | .servers dns => .servers dns
  | .nothing => .nothing

/-- A chore for the main thread; it is over when nothing moves any more. -/
def chore (b : Bench) (c : Chore) : Bench × Result :=
  let b := { b with system := b.system.startChore c }.settle
  (b, (b.system.choreResult.map ofChore).getD .nothing)

/-- What remains of a command: it is done, or a route change is to be carried out. -/
def finishControl (b : Bench) : Except ControlError Unit ⊕ Reroute → Bench × Result
  | .inl r => (b.settle, ofControl r)
  | .inr r => b.chore (.reroute r false)

def handleEvent (b : Bench) (e : GattEvent) : Bench × Result :=
  let (system, r) := b.system.handleEvent e
  let b := { b with system }
  match r with
  | .inl r => (b.settle, .response r)
  | .inr r => b.chore (.reroute r true)

def announce (b : Bench) (task : String) (status : Status) : Bench × Result :=
  match Gatt.statusText task status with
  | none => (b, .cutText)
  | some text =>
    let (b, _) := b.chore (.push Handle.statusValue text)
    (b, .value (b.system.gatt.bind (·.value? Handle.statusValue)))

/-! ## Jobs -/

/-- A lease that has been granted goes to its slot. -/
def keepLease (b : Bench) (slot : Option String) : Outcome → Bench
  | .leased id =>
    match slot with
    | some slot => { b with leases := (slot, id) :: b.leases.filter (·.1 ≠ slot) }
    | none => b
  | _ => b

/-- A job's end: it is forgotten, and its lease is kept. -/
def endJob (b : Bench) (thread : Nat) (o : Outcome) : Bench :=
  match b.jobs.find? (·.thread = thread) with
  | none => b
  | some job => { b with jobs := b.jobs.filter (·.thread ≠ thread) }.keepLease job.slot o

/-- An arbiter operation in a thread of its own. -/
def job (b : Bench) (name : String) (slot : Option String) (e : Errand) : Bench × Result :=
  let thread := b.system.nextThread
  let started : Bench :=
    { b with system := b.system.startJob e, jobs := b.jobs ++ [⟨thread, name, slot⟩] }
  let b := started.settle
  match b.system.outcomes.lookup thread with
  | none => (b, .blocked)
  | some o =>
    let outcomes := b.system.outcomes.filter (·.1 ≠ thread)
    ({ b with system := { b.system with outcomes } }.endJob thread o, .outcome o)

/-- The outcomes of jobs that were under way before, with their names. -/
def collect (b : Bench) : Bench × List (String × Outcome) :=
  let finished := b.system.outcomes.filterMap fun (thread, o) =>
    (b.jobs.find? (·.thread = thread)).map fun job => (job.name, o)
  let ended := b.system.outcomes.foldl (fun b (thread, o) => b.endJob thread o) b
  ({ ended with system := { ended.system with outcomes := [] } }, finished)

/-! ## The queue of the bridge -/

def drain (b : Bench) : Bench × Result :=
  match b.system.bridge with
  | none => (b, .messages [])
  | some bridge =>
    let system := { b.system with bridge := some { bridge with inbox := bridge.inbox.clear } }
    ({ b with system }.settle, .messages bridge.inbox.items)

def dropQueue (b : Bench) : Bench :=
  let bridge := b.system.bridge.map fun bridge => { bridge with inbox := bridge.inbox.close }
  { b with system := { b.system with bridge } }.settle

/-- A message straight to the queue, which may not be there. -/
def post (b : Bench) (m : BridgeMessage) : Bench × Result :=
  if b.system.bridge.isNone then (b, .refused)
  else match b.system.postToBridge m with
    | some system => ({ b with system }.settle, .ok)
    | none => (b, .refused)

/-! ## Steps -/

def perform (b : Bench) : Step → Bench × Result
  | .act a => let (b, r) := b.act a; (b.settle, r)
  | .script name entries =>
    match b.stand with
    | .scripted p =>
      ({ b with stand := .scripted { p with script := p.script.append name entries } }, .nothing)
    | .simulated _ => (b, .nothing)
  | .hold name => (b.hold name, .nothing)
  | .openGate name => ((b.openGate name).settle, .nothing)
  | .pass name => ((b.pass name).settle, .nothing)
  | .control bytes =>
    let (system, r) := b.system.control bytes
    { b with system }.finishControl r
  | .makeDefault kind => b.chore (.reroute (b.system.startReroute kind) false)
  | .type keys => (keys.foldl typeKey b.startConsole, .nothing)
  | .endKeys => ({ b with keysEnded := true }.settle, .nothing)
  | .acquire name slot timeout => b.job name (some slot) (.acquire timeout)
  | .release name slot =>
    match b.leases.lookup slot with
    | none => (b, .noLease)
    | some id =>
      { b with leases := b.leases.filter (·.1 ≠ slot) }.job name none (.release id)
  | .openData name params timeout => b.job name none (.openData params timeout)
  | .closeData name timeout => b.job name none (.closeData timeout)
  | .bringUpModem => b.chore .modemBringUp
  | .tearDownModem => b.chore .modemTearDown
  | .askServers count => b.chore (.askServers count)
  | .event e => b.handleEvent e
  | .update handle value => b.chore (.push handle value)
  | .advertise => b.chore .checkAdvertising
  | .announce task status => b.announce task status
  | .attachControl => ({ b with system := { b.system with controlled := true } }, .nothing)
  | .drain => b.drain
  | .dropQueue => (b.dropQueue, .nothing)
  | .post m => b.post m
  | .drive on => b.chore (.drive on)
  | .tellShutdown =>
    let s := b.system.notifyAll
    ({ b with system := (s.postToBridge .shutdown).getD s }.settle, .nothing)
  | .shutdown =>
    ({ b with system := b.system.startShutdown, started := true }.settle, .nothing)

/-- What the bench has seen since it was last asked. -/
structure Record where
  trace : List (Actor × Event)
  lines : List String
  finished : List (String × Outcome)

def take (b : Bench) : Bench × Record :=
  let (b, finished) := b.collect
  ({ b with trace := [], lines := [] }, ⟨b.trace, b.lines, finished⟩)

/-- The threads whose end is waited for, in the order in which they started; with or without the
tasks of the gateway. -/
def alive (b : Bench) (tasks : Bool) : List Actor :=
  (b.system.threads.filter fun t =>
    match t.role with
    | .console | .shutdown _ => true
    | role => tasks && role.isTask).map (·.actor)

end EdgeGateway.Bench
