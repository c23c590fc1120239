import EdgeGateway.Boot
import EdgeGateway.Proofs.Bridge.Turn
import EdgeGateway.Proofs.Gateway.Frame
import EdgeGateway.Proofs.Mqtt.Turn
import Mathlib.Logic.Function.Basic

/-!
# EdgeGateway.Proofs.Gateway.Crew

The tasks of a gateway without the threads that run them.

* `Link.Advances`, `Bridge.Advances`, `Mqtt.Advances` : a task goes on, with what it asked for and
  what it got.
* `Outstanding` : what has been brought up, opened or connected, and has not been undone since.
* `Crew`        : the tasks, their errands and the arbiter. What has been delivered to a task and
  not been read is left out.
* `Crew.Step`   : one task goes on, or one errand does.
-/

namespace EdgeGateway

/-! ## Tasks go on -/

/-- The link goes on with a reply to a request. What it reads may be any commands. -/
inductive Link.Advances (l : Link) : Link.Request → Link.Reply → Link → Prop where
  | heard {s : Status} : l.announcing = some s →
      Advances l (.announce s) .done { l with announcing := none }
  | turned {r : Link.Reply} {l' : Link} : l.announcing = none → l.Turn l.request r l' →
      Advances l l.request r l'
  | read {limit : Option Nat} {cs : Commands} {l' : Link} : l.announcing = none →
      l.Reads cs limit l' → Advances l (.wait limit) (.commands cs) l'

inductive Bridge.Advances (b : Bridge) : Bridge.Request → Bridge.Reply → Bridge → Prop where
  | turned {r : Bridge.Reply} {b' : Bridge} : b.Turn b.request r b' → Advances b b.request r b'
  | took {r : Bridge.Reply} {b' : Bridge} : b.point = .receiving → b.Takes r b' →
      Advances b .receive r b'

inductive Mqtt.Advances (t : Mqtt) : Mqtt.Request → Mqtt.Reply → Mqtt → Prop where
  | heard {s : Status} : t.announcing = some s →
      Advances t (.announce s) .done { t with announcing := none }
  | turned {r : Mqtt.Reply} {t' : Mqtt} : t.announcing = none → t.Turn t.request r t' →
      Advances t t.request r t'
  | received {op : Mqtt.Operation} {t' : Mqtt} : t.announcing = none → t.Receives op t' →
      Advances t .receive (.operation op) t'
  | read {limit : Option Nat} {cs : Commands} {t' : Mqtt} : t.announcing = none →
      t.Reads cs limit t' → Advances t (.wait limit) (.commands cs) t'

theorem Link.advances_of_fits {l : Link} {r : Link.Reply} (h : Fits l.request r) :
    l.Advances l.request r (l.resume r) := by
  cases ha : l.announcing with
  | none => exact .turned ha (turn_of_fits ha h)
  | some s =>
    have hq : l.request = .announce s := by simp only [request, ha]
    rw [hq] at h ⊢
    cases h
    simpa only [resume, ha] using Advances.heard ha

theorem Mqtt.advances_of_fits {t : Mqtt} {r : Mqtt.Reply} (h : Fits t.request r) :
    t.Advances t.request r (t.resume r) := by
  cases ha : t.announcing with
  | none => exact .turned ha (turn_of_fits ha h)
  | some s =>
    have hq : t.request = .announce s := by simp only [request, ha]
    rw [hq] at h ⊢
    cases h
    simpa only [resume, ha] using Advances.heard ha

/-! ## What is outstanding -/

structure Outstanding where
  modemUp : Bool := false
  modemOpen : Bool := false
  wifiConnected : Bool := false
  /-- sessions at the card -/
  sessions : List UInt32 := []
  clientUp : Bool := false
  clientCreated : Bool := false
  clientConnected : Bool := false
  deriving DecidableEq

namespace Outstanding

def afterLink (k : Outstanding) :
    LinkKind → Link.Request → Link.Reply → Outstanding
  | .cellular, .bringUp, .done => { k with modemUp := true }
  | .cellular, .tearDown, _ => { k with modemUp := false }
  | .wifi, .connect, .address _ => { k with wifiConnected := true }
  | .wifi, .disconnect, .done => { k with wifiConnected := false }
  | _, _, _ => k

def afterModem (k : Outstanding) : ModemCall → ModemAnswer → Outstanding
  | .dial _ _, .address _ => { k with modemOpen := true }
  | .hangUp _, .done => { k with modemOpen := false }
  | _, _ => k

def afterBridge (k : Outstanding) : Bridge.Request → Bridge.Reply → Outstanding
  | .openPort _, .handle h => if h = 0 then k else { k with sessions := h :: k.sessions }
  | .closePort h, .done => { k with sessions := k.sessions.erase h }
  | _, _ => k

def afterMqtt (k : Outstanding) : Mqtt.Request → Mqtt.Reply → Outstanding
  | .bringUp, .done => { k with clientUp := true }
  | .create, .done => { k with clientCreated := true }
  | .connect, .done => { k with clientConnected := true }
  | .disconnect, .done => { k with clientConnected := false }
  | .delete, .done => { k with clientCreated := false }
  | .tearDown, .done => { k with clientUp := false }
  | _, _ => k

theorem afterLink_eq (k : Outstanding) (kind : LinkKind) (q : Link.Request) (r : Link.Reply) :
    k.afterLink kind q r = { k with
      modemUp := (k.afterLink kind q r).modemUp
      wifiConnected := (k.afterLink kind q r).wifiConnected } := by
  unfold afterLink
  split <;> rfl

theorem afterModem_eq (k : Outstanding) (c : ModemCall) (x : ModemAnswer) :
    k.afterModem c x = { k with modemOpen := (k.afterModem c x).modemOpen } := by
  unfold afterModem
  split <;> rfl

theorem afterBridge_eq (k : Outstanding) (q : Bridge.Request) (r : Bridge.Reply) :
    k.afterBridge q r = { k with sessions := (k.afterBridge q r).sessions } := by
  unfold afterBridge
  (repeat' split) <;> rfl

theorem afterMqtt_eq (k : Outstanding) (q : Mqtt.Request) (r : Mqtt.Reply) :
    k.afterMqtt q r = { k with
      clientUp := (k.afterMqtt q r).clientUp
      clientCreated := (k.afterMqtt q r).clientCreated
      clientConnected := (k.afterMqtt q r).clientConnected } := by
  unfold afterMqtt
  split <;> rfl

end Outstanding

/-! ## The crew -/

structure Crew where
  link : LinkKind → Option Link
  bridge : Option Bridge
  mqtt : Option Mqtt
  arbiter : Option Arbiter
  errand : Task → Option Errand

/-- No task has moved yet. -/
structure Crew.New (w : Crew) : Prop where
  link : ∀ kind l, w.link kind = some l → ∃ policy, l = .ofPolicy kind policy
  bridge : ∀ b, w.bridge = some b → ∃ settings leases, b = (Bridge.ofSettings settings leases).own
  mqtt : ∀ t, w.mqtt = some t → ∃ settings, t = (Mqtt.ofSettings settings).own
  arbiter : ∀ a, w.arbiter = some a → a = {}
  errand : ∀ task, w.errand task = none

/-- The errand of a link that takes the modem. -/
def Link.Wants (l : Link) (e : Errand) : Prop :=
  (l.request = .connect ∧ ∃ params timeout, e = .openData params timeout) ∨
    (l.request = .disconnect ∧ ∃ timeout, e = .closeData timeout)

/-- The errand of the bridge, about its lease. -/
def Bridge.Wants (b : Bridge) (e : Errand) : Prop :=
  (∃ timeout, b.request = .acquire timeout ∧ e = .acquire timeout) ∨
    ∃ id, b.request = .release id ∧ e = .release id

namespace Crew

def setLink (w : Crew) (kind : LinkKind) (l : Link) : Crew :=
  { w with link := Function.update w.link kind (some l.own) }

def setBridge (w : Crew) (b : Bridge) : Crew := { w with bridge := some b.own }

def setMqtt (w : Crew) (t : Mqtt) : Crew := { w with mqtt := some t.own }

def setErrand (w : Crew) (task : Task) (e : Option Errand) : Crew :=
  { w with errand := Function.update w.errand task e }

def setArbiter (w : Crew) (a : Arbiter) : Crew := { w with arbiter := some a }

/-- The cellular link takes the modem through errands, and the arbiter's word for its state. -/
def Through (w : Crew) (kind : LinkKind) (q : Link.Request) (r : Link.Reply) : Prop :=
  kind = .cellular → q ≠ .connect ∧ q ≠ .disconnect ∧
    (q = .askConnected → r = .flag (w.arbiter.any (·.dataSession)))

/-- One task goes on, or one errand. If the surroundings are `tidy`, nothing fails that undoes
something. -/
inductive Step (tidy : Bool) : Crew × Outstanding → Crew × Outstanding → Prop where
  | link {w : Crew} {k : Outstanding} {kind : LinkKind} {l l' : Link} {q : Link.Request}
      {r : Link.Reply} : w.link kind = some l.own → w.errand (.link kind) = none →
      l.Advances q r l' → w.Through kind q r → (tidy = true → q = .disconnect → r = .done) →
      Step tidy (w, k) (w.setLink kind l', k.afterLink kind q r)
  | bridge {w : Crew} {k : Outstanding} {b b' : Bridge} {q : Bridge.Request} {r : Bridge.Reply} :
      w.bridge = some b.own → w.errand .bridge = none → b.Advances q r b' →
      (∀ timeout, q ≠ .acquire timeout) → (∀ id, q ≠ .release id) →
      (tidy = true → ∀ h, q = .closePort h → r = .done) →
      Step tidy (w, k) (w.setBridge b', k.afterBridge q r)
  | mqtt {w : Crew} {k : Outstanding} {t t' : Mqtt} {q : Mqtt.Request} {r : Mqtt.Reply} :
      w.mqtt = some t.own → t.Advances q r t' →
      (tidy = true → q = .disconnect ∨ q = .delete ∨ q = .tearDown → r = .done) →
      Step tidy (w, k) (w.setMqtt t', k.afterMqtt q r)
  | beginLink {w : Crew} {k : Outstanding} {l : Link} {e : Errand} :
      w.link .cellular = some l.own → w.errand (.link .cellular) = none → l.Wants e →
      Step tidy (w, k) (w.setErrand (.link .cellular) (some e), k)
  | beginBridge {w : Crew} {k : Outstanding} {b : Bridge} {e : Errand} :
      w.bridge = some b.own → w.errand .bridge = none → b.Wants e →
      Step tidy (w, k) (w.setErrand .bridge (some e), k)
  | enter {w : Crew} {k : Outstanding} {task : Task} {e e' : Errand} {a a' : Arbiter}
      {expired : Bool} : w.errand task = some e → w.arbiter = some a →
      a.enter expired e = some (a', e') →
      Step tidy (w, k) ((w.setErrand task (some e')).setArbiter a', k)
  | called {w : Crew} {k : Outstanding} {task : Task} {e : Errand} {a : Arbiter} {c : ModemCall}
      {x : ModemAnswer} : w.errand task = some e → w.arbiter = some a → e.call? = some c →
      (tidy = true → ∀ timeout, c = .hangUp timeout → x = .done) →
      Step tidy (w, k)
        ((w.setErrand task (some (a.answer e x).2)).setArbiter (a.answer e x).1, k.afterModem c x)
  | skip {w : Crew} {k : Outstanding} {task : Task} {e : Errand} {a : Arbiter} :
      w.errand task = some e → w.arbiter = some a → e.isAtModem = true → e.call? = none →
      Step tidy (w, k)
        ((w.setErrand task (some (a.answer e .done).2)).setArbiter (a.answer e .done).1, k)
  | endLink {w : Crew} {k : Outstanding} {l l' : Link} {o : Outcome} :
      w.link .cellular = some l.own → w.errand (.link .cellular) = some (.ended o) →
      l.Advances l.request (System.linkReply (.outcome o)) l' →
      Step tidy (w, k) ((w.setErrand (.link .cellular) none).setLink .cellular l', k)
  | endBridge {w : Crew} {k : Outstanding} {b b' : Bridge} {o : Outcome} :
      w.bridge = some b.own → w.errand .bridge = some (.ended o) →
      b.Turn b.request (System.bridgeReply (.outcome o)) b' →
      Step tidy (w, k) ((w.setErrand .bridge none).setBridge b', k)
  /-- a connection is lost -/
  | lose {w : Crew} {k : Outstanding} (wifi modem : Bool) : Step tidy (w, k)
      (w, { k with
        wifiConnected := k.wifiConnected && wifi
        modemOpen := k.modemOpen && modem })

end Crew

end EdgeGateway
