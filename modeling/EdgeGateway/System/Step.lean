import EdgeGateway.System

/-!
# EdgeGateway.System.Step

How the threads of the gateway move.

* `System.intent`   : what a thread's task asks for where it is.
* `System.complete` : how the task goes on once it has it.
* `System.next`     : the move a thread can make: on its own, into a call, or none.
* `System.answer`   : a call returns.

Threads move one at a time and in any order; between two moves of a thread every other thread may
move, commands may be delivered and events may arrive.
-/

namespace EdgeGateway

/-- What a task asks for. -/
inductive Intent where
  /-- nothing; it has gone on by itself -/
  | proceed (s : System)
  | call (c : Call)
  | errand (e : Errand)
  /-- a value stored and, if the client wants it, notified -/
  | push (handle : UInt16) (value : Bytes)
  /-- something that is not there yet -/
  | wait

/-- What a task gets. -/
inductive Completion where
  | answer (a : Answer)
  | outcome (o : Outcome)
  | pushed (sent : Bool)

/-- What a thread can do. -/
inductive Move where
  | blocked
  | step (s : System)
  | start (c : Call) (s : System)
  | inside (c : Call)

/-- Why a connect over the modem fails, as the link sees it. -/
def ConnectError.ofArbiter : ArbiterError → ConnectError
  | .alreadyInUse | .modem .inUse => .modemInUse
  | .busy | .modem .timeout => .timeout
  | e => .failed e.message

def Fault.reason : Fault → String
  | .other reason => reason
  | .connect e => e.message
  | .modem e => e.message

namespace System

/-! ## Replies -/

def linkReply : Completion → Link.Reply
  | .answer (.failed f) => .failed f.toConnectError
  | .answer (.address (some ip)) => .address ip
  | .answer (.flag b) => .flag b
  | .answer (.servers dns) => .servers dns
  | .answer _ => .done
  | .outcome (.opened (some ip)) => .address ip
  | .outcome (.opened none) => .failed (.failed "ppp came up without an address")
  | .outcome (.refused e) => .failed (.ofArbiter e)
  | .outcome _ => .done
  | .pushed _ => .done

def mqttReply : Completion → Mqtt.Reply
  | .answer (.failed _) => .failed
  | _ => .done

def subscriberReply : Completion → Subscriber.Reply
  | .answer (.failed _) => .failed
  | _ => .done

def bridgeReply : Completion → Bridge.Reply
  | .answer (.failed _) => .failed
  | .answer (.flag b) => .flag b
  | .answer (.handle h) => .handle h
  | .answer (.data bytes) => .data bytes
  | .answer _ => .done
  | .outcome (.leased id) => .leased id
  | .outcome (.refused _) => .failed
  | .outcome _ => .done
  | .pushed sent => .flag sent

/-! ## Status changes -/

/-- A status change goes to the status characteristic, if there is one, then to the observer. -/
def announce (s : System) (t : Thread) (reporter : Reporter) (status : Status)
    (heard : System) : Intent :=
  let listeners := (if s.gatt.isSome then [false] else []) ++ (if s.observed then [true] else [])
  match listeners[t.told]? with
  | some false =>
    .push Handle.statusValue ((Gatt.statusText reporter.name status).getD [])
  | some true => .call (.status reporter status)
  | none => .proceed (heard.setThread { t with told := 0 })

/-! ## Links -/

def medium (s : System) : LinkKind → Medium
  | .wifi => if s.plainWifi then .plain else .wifi
  | .cellular => .modem
  | .none => .plain

/-- Name servers a medium is asked for. -/
def serverCount : Medium → Nat
  | .modem => 2
  | _ => 1

def timeoutMs (t : Option UInt64) : Option Nat := t.map UInt64.toNat

def wifiConnect (s : WifiSettings) : Call :=
  .wifiConnect s.ssid s.password s.security (timeoutMs s.connectTimeoutMs)

def linkIntent (s : System) (t : Thread) (l : Link) : Intent :=
  let m := s.medium l.kind
  let go (r : Link.Reply) : Intent := .proceed (s.setLink (l.resume r))
  match l.request with
  | .proceed => go .done
  | .announce status => s.announce t (.link l.kind) status (s.setLink (l.resume .done))
  | .bringUp =>
    .call (match m with
      | .plain => .linkBringUp
      | .wifi => .wifiBringUp
      | .modem => .modemBringUp)
  | .connect =>
    match m with
    | .plain => .call .linkConnect
    | .wifi => .call (wifiConnect s.settings.wifi)
    | .modem =>
      let c := s.settings.cellular
      .errand (.openData { c.dialParams with tellsLink := true } (timeoutMs c.connectTimeoutMs))
  | .disconnect =>
    match m with
    | .plain => .call .linkDisconnect
    | .wifi => .call .wifiDisconnect
    | .modem => .errand (.closeData (timeoutMs s.settings.cellular.disconnectTimeoutMs))
  | .askConnected =>
    match m with
    | .modem => go (.flag (s.arbiter.any (·.dataSession)))
    | m => .call (.askConnected m)
  | .askServers => .call (.askServers m (serverCount m))
  | .tearDown =>
    .call (match m with
      | .plain => .linkTearDown
      | .wifi => .wifiTearDown
      | .modem => .modemTearDown)
  | .wait limit =>
    if l.pending.bits ≠ 0 then
      .proceed (s.setLink ({ l with pending := .empty }.resume (.commands l.pending)))
    else if limit = some 0 then go (.commands .empty)
    else .wait
  | .finished => .proceed (s.endThread t)

/-! ## Broker task and subscriber -/

def clientId (s : System) : String :=
  s.settings.mqtt.clientName ++ if s.settings.mqtt.uniqueClientId then s.clientSuffix else ""

def mqttIntent (s : System) (t : Thread) (task : Mqtt) : Intent :=
  let c := s.settings.mqtt
  let set (task : Mqtt) : System := { s with mqtt := some task }
  let go (r : Mqtt.Reply) : Intent := .proceed (set (task.resume r))
  match task.request with
  | .proceed => go .done
  | .announce status => s.announce t .mqtt status (set (task.resume .done))
  | .bringUp => .call .clientBringUp
  | .create => .call (.clientCreate c.broker c.port c.tls)
  | .askDefaultReady => go (.flag s.defaultReady)
  | .connect =>
    .call (.clientConnect s.clientId c.username c.password c.keepAliveSecs.toNat
      c.timeoutMs.toNat)
  | .tell m =>
    match s.subscriber with
    | none => go .done
    | some b =>
      if !b.inbox.isOpen then go .done
      else match b.inbox.offer b.isReceiving m with
        | some inbox =>
          .proceed { set (task.resume .done) with subscriber := some { b with inbox } }
        | none => .wait
  | .receive =>
    match task.operations.take? with
    | some (op, operations) => .proceed (set ({ task with operations }.resume (.operation op)))
    | none => .wait
  | .disconnect => .call .clientDisconnect
  | .join =>
    if s.subscriber.isSome then .wait else go .done
  | .delete => .call .clientDelete
  | .tearDown => .call .clientTearDown
  | .wait limit =>
    if task.pending.bits ≠ 0 then
      .proceed (set ({ task with pending := .empty }.resume (.commands task.pending)))
    else if limit = some 0 then go (.commands .empty)
    else .wait
  | .finished =>
    .proceed ({ s with
      mqtt := some { task with operations := task.operations.close } }.endThread t)

def subscriberIntent (s : System) (t : Thread) (b : Subscriber) : Intent :=
  let c := s.settings.mqtt
  let set (b : Subscriber) : System := { s with subscriber := some b }
  match b.request with
  | .proceed => .proceed (set (b.resume .done))
  | .receive =>
    match b.inbox.take? with
    | some (m, inbox) => .proceed (set ({ b with inbox }.resume (.message m)))
    | none => .wait
  | .sleep ms => .call (.sleep ms)
  | .subscribe => .call (.clientSubscribe c.topic c.qos)
  | .unsubscribe => .call (.clientUnsubscribe c.topic c.qos)
  | .report =>
    .proceed { set (b.resume .done) with mqtt := s.mqtt.map (·.offer .subscribeFailed) }
  | .drive on =>
    if s.locked t (some .output) then .wait
    else match s.switch.set on with
      | (_, none) => .proceed (set (b.resume .done))
      | (_, some on) => .call (.drive on)
  | .finished => .proceed ({ s with subscriber := none }.endThread t)

/-! ## Modem bridge -/

def bridgeIntent (s : System) (t : Thread) (b : Bridge) : Intent :=
  let set (b : Bridge) : System := { s with bridge := some b }
  match b.request with
  | .proceed => .proceed (set (b.resume .done))
  | .receive =>
    match b.inbox.take? with
    | some (m, inbox) => .proceed (set ({ b with inbox }.resume (.message m)))
    | none => .wait
  | .askAdvertising => .call .askAdvertising
  | .advertise => .call .advertise
  | .acquire timeout => .errand (.acquire timeout)
  | .release id => .errand (.release id)
  | .openPort port => .call (.openPort port)
  | .closePort handle => .call (.closePort handle)
  | .exchange handle command => .call (.exchange handle command)
  | .push handle value => .push handle value
  | .inspect =>
    let capacity := s.gatt.bind Gatt.responseCapacity?
    let subscribed := s.gatt.any (·.canNotify Handle.transreceiveValue)
    .proceed (set (b.resume (.view capacity subscribed)))
  | .sleep ms => .call (.sleep ms)
  | .finished => .proceed ({ s with bridge := some { b with inbox := b.inbox.close } }.endThread t)

/-! ## Route changes, console, chores, shutdown -/

/-- The next step of a route change; `set` puts it back where it came from. -/
def rerouteIntent (s : System) (set : System → Reroute → System) : Reroute → Intent
  | .routing kind => .call (.setRoute kind)
  | .resolving _ index (ip :: _) => .call (.setServer index ip)
  | .resolving kind _ [] => .proceed (set (s.reroute kind) (.ended (.ok ())))
  | .ended _ => .wait

def rerouteReply (s : System) (a : Answer) : Reroute → Reroute
  | .routing kind =>
    let refusal := match a with
      | .failed f => some f.reason
      | _ => none
    Reroute.routed kind refusal (((s.link? kind).map (·.addressing.dns)).getD [])
  | .resolving kind index servers => .resolving kind (index + 1) (servers.drop 1)
  | r => r

def setConsole (s : System) (menu : Menu) (point : ConsolePoint) : System :=
  { s with console := some { menu, point } }

/-- The console goes on with what became of a command. -/
def afterCommand (s : System) (menu : Menu) : Except ControlError Unit ⊕ Reroute → System
  | .inl r => s.setConsole menu (.answering r)
  | .inr r => s.setConsole menu (.rerouting r)

def consoleIntent (s : System) (t : Thread) (c : Console) : Intent :=
  match c.point with
  | .drawing => .call (.print (c.menu.lines s.view))
  | .reading => .call .readKey
  | .handling key => .call (.print ("" :: (c.menu.press s.view key).lines))
  | .rerouting (.ended result) => .proceed (s.setConsole c.menu (.answering result))
  | .rerouting r => s.rerouteIntent (fun s r => s.setConsole c.menu (.rerouting r)) r
  | .answering (.ok ()) => .proceed (s.setConsole c.menu .drawing)
  | .answering (.error e) => .call (.print ["# " ++ e.message])
  | .finished => .proceed (s.endThread t)

def consoleComplete (s : System) (c : Console) (a : Answer) : System :=
  match c.point, a with
  | .drawing, _ => s.setConsole c.menu .reading
  | .reading, .key (some key) => s.setConsole c.menu (.handling key)
  | .reading, _ => s.setConsole c.menu .finished
  | .handling key, _ =>
    let p := c.menu.press s.view key
    match p.action with
    | none => s.setConsole p.menu .drawing
    | some command =>
      let (s, r) := s.dispatch command
      s.afterCommand p.menu r
  | .rerouting r, a => s.setConsole c.menu (.rerouting (s.rerouteReply a r))
  | .answering _, _ => s.setConsole c.menu .drawing
  | .finished, _ => s

/-- The chore is over. -/
def endChore (s : System) (t : Thread) (r : ChoreResult) : System :=
  { s.endThread t with choreResult := some r }

def choreIntent (s : System) (t : Thread) : Chore → Intent
  | .reroute (.ended result) written =>
    .proceed (s.endChore t
      (if written then .written (writeResult result) else .control result))
  | .reroute r written =>
    s.rerouteIntent (fun s r => s.setThread { t with role := .chore (.reroute r written) }) r
  | .push handle value => .push handle value
  | .checkAdvertising => .call .askAdvertising
  | .advertise => .call .advertise
  | .drive on =>
    if s.locked t (some .output) then .wait
    else match s.switch.set on with
      | (_, none) => .proceed (s.endChore t (.flag false))
      | (_, some on) => .call (.drive on)
  | .modemBringUp => .call .modemBringUp
  | .modemTearDown => .call .modemTearDown
  | .askServers count => .call (.askServers .modem count)

def choreComplete (s : System) (t : Thread) : Chore → Completion → System
  | .reroute r written, .answer a =>
    s.setThread { t with role := .chore (.reroute (s.rerouteReply a r) written) }
  | .push _ _, .pushed sent => s.endChore t (.flag sent)
  | .checkAdvertising, .answer (.flag on) =>
    if on then s.endChore t .nothing
    else s.setThread { t with role := .chore .advertise }
  | .advertise, _ => s.endChore t .nothing
  | .drive _, _ => s.endChore t (.flag true)
  | .modemBringUp, .answer a | .modemTearDown, .answer a =>
    s.endChore t (.modem (match a with
      | .failed f => .error f.toModemError
      | _ => .ok ()))
  | .askServers _, .answer (.servers dns) => s.endChore t (.servers dns)
  | _, _ => s.endChore t .nothing

/-- A shutdown for every task that waits for commands. -/
def notifyAll (s : System) : System :=
  { s with
    mqtt := s.mqtt.map (·.notify .shutdown)
    wifi := s.wifi.map (·.notify .shutdown)
    cellular := s.cellular.map (·.notify .shutdown) }

def shutdownIntent (s : System) (t : Thread) (point : ShutdownPoint) : Intent :=
  let goOn (s : System) (point : ShutdownPoint) : Intent :=
    .proceed (s.setThread { t with role := .shutdown point })
  match point with
  | .notifying => goOn s.notifyAll .tellingBridge
  | .tellingBridge =>
    if s.bridge.all (!·.inbox.isOpen) then goOn s .joining
    else match s.postToBridge .shutdown with
      | some s => goOn s .joining
      | none => .wait
  | .joining =>
    if s.threads.any (·.role.isTask) then .wait else .proceed (s.endThread t)

/-! ## Moves -/

/-- What the task of a thread asks for. -/
def intent (s : System) (t : Thread) : Intent :=
  match t.role with
  | .link kind =>
    match s.link? kind with
    | some l => s.linkIntent t l
    | none => .wait
  | .mqtt =>
    match s.mqtt with
    | some task => s.mqttIntent t task
    | none => .wait
  | .subscriber =>
    match s.subscriber with
    | some b => s.subscriberIntent t b
    | none => .wait
  | .bridge =>
    match s.bridge with
    | some b => s.bridgeIntent t b
    | none => .wait
  | .console =>
    match s.console with
    | some c => s.consoleIntent t c
    | none => .wait
  | .chore c => s.choreIntent t c
  | .shutdown point => s.shutdownIntent t point
  | .job => .wait

/-- The task of a thread gets what it asked for. -/
def complete (s : System) (t : Thread) (c : Completion) : System :=
  match t.role with
  | .link kind =>
    match s.link? kind with
    | some l =>
      if l.announcing.isSome then s.setThread { t with told := t.told + 1 }
      else s.setLink (l.resume (linkReply c))
    | none => s
  | .mqtt =>
    match s.mqtt with
    | some task =>
      if task.announcing.isSome then s.setThread { t with told := t.told + 1 }
      else
        let s := { s with mqtt := some (task.resume (mqttReply c)) }
        match task.point, c with
        | .creating, .answer (.failed _) => { s with subscriber := none }
        | .creating, _ => s.spawn .subscriber .subscriber none
        | _, _ => s
    | none => s
  | .subscriber =>
    { s with subscriber := s.subscriber.map (·.resume (subscriberReply c)) }
  | .bridge => { s with bridge := s.bridge.map (·.resume (bridgeReply c)) }
  | .console =>
    match s.console, c with
    | some console, .answer a => s.consoleComplete console a
    | _, _ => s
  | .chore chore => s.choreComplete t chore c
  | .job =>
    match c with
    | .outcome o => { s.endThread t with outcomes := s.outcomes ++ [(t.id, o)] }
    | _ => s
  | .shutdown _ => s

/-- A thread enters a call. A client instance comes with the queue of its subscriber, and the
output's state is recorded before it is driven. -/
def enterCall (s : System) (t : Thread) (c : Call) : System :=
  let s := s.setThread { t with stage := .inside c }
  match c with
  | .clientCreate .. => { s with subscriber := some (Subscriber.ofSettings s.settings.mqtt) }
  | .drive on => { s with switch := (s.switch.set on).1 }
  | _ => s

/-- A call starts once no other thread holds the part it is for. -/
def tryCall (s : System) (t : Thread) (c : Call) : Move :=
  if s.locked t c.lock? then .blocked else .start c (s.enterCall t c)

def errandMove (s : System) (t : Thread) (e : Errand) : Move :=
  match s.arbiter with
  | none => .blocked
  | some a =>
    match e with
    | .ended o =>
      let t := { t with errand := none }
      .step ((s.setThread t).complete t (.outcome o))
    | e =>
      if e.isAtModem then
        if s.locked t (some .modem) then .blocked
        else match e.call? with
          | some c => .start (.modem c) (s.enterCall t (.modem c))
          | none =>
            let (a, e) := a.answer e .done
            .step ({ s with arbiter := some a }.setThread { t with errand := some e })
      else match a.enter (e.patience = some 0) e with
        | some (a, e) =>
          .step ({ s with arbiter := some a }.setThread { t with errand := some e })
        | none => .blocked

def pushMove (s : System) (t : Thread) (handle : UInt16) (value : Bytes) : Move :=
  match s.gatt with
  | none => .step (s.complete t (.pushed false))
  | some g =>
    match g.push handle value with
    | (g, none) => .step ({ s with gatt := some g }.complete t (.pushed false))
    | (g, some n) =>
      .step ({ s with gatt := some g }.setThread { t with stage := .calling (.notify n) })

/-- The move a thread can make. -/
def next (s : System) (t : Thread) : Move :=
  match t.stage with
  | .inside c => .inside c
  | .calling c => s.tryCall t c
  | .free =>
    match t.errand with
    | some e => s.errandMove t e
    | none =>
      match s.intent t with
      | .proceed s => .step s
      | .call c => s.tryCall t c
      | .errand e => .step (s.setThread { t with errand := some e })
      | .push handle value => s.pushMove t handle value
      | .wait => .blocked

/-- The call a thread is inside returns. -/
def answer (s : System) (t : Thread) (c : Call) (a : Answer) : System :=
  let t := { t with stage := .free }
  let s := s.setThread t
  match t.errand with
  | some e =>
    match s.arbiter with
    | some arbiter =>
      let (arbiter, e) := arbiter.answer e a.toModem
      { s with arbiter := some arbiter }.setThread { t with errand := some e }
    | none => s
  | none =>
    match c with
    | .notify _ => s.complete t (.pushed a.succeeded)
    | _ => s.complete t (.answer a)

end System

end EdgeGateway
