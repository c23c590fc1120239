import EdgeGateway.Proofs.Cues
import EdgeGateway.Proofs.Gateway.Run

/-!
# EdgeGateway.Proofs.Gateway.Schedule

Runs of a gateway that can be computed.

* `Gateway.Turn`  : which thread moves, whether its call succeeds, and what comes from outside.
* `Gateway.turn?` : the gateway after it, if it can be taken. It is a step of the gateway's
  (`Gateway.step_of_turn?`).
-/

namespace EdgeGateway

/-- What a call brings that succeeds on a board where everything is in place. -/
def Call.success : Call → Answer
  | .linkConnect | .wifiConnect .. | .modem (.dial ..) => .address (some (.v4 10 0 0 2))
  | .modem .mode => .mode .ppp
  | .askConnected _ | .askAdvertising => .flag true
  | .askServers .. => .servers []
  | .openPort _ => .handle 1
  | .exchange .. => .data []
  | .readKey => .key none
  | _ => .done

theorem Call.succeeds_success (c : Call) : c.Succeeds c.success := by
  cases c with
  | modem m => cases m <;> first | rfl | exact ⟨_, rfl⟩
  | _ => first | rfl | exact ⟨_, rfl⟩

theorem Call.succeeded_success (c : Call) : c.success.succeeded = true := by
  cases c with
  | modem m => cases m <;> rfl
  | _ => rfl

namespace Gateway

inductive Turn where
  /-- a thread moves, or enters a call -/
  | go (i : Nat)
  /-- the call of a thread succeeds -/
  | succeed (i : Nat)
  /-- the call of a thread fails -/
  | fail (i : Nat)
  | client (e : GattEvent)
  | message (payload : Bytes)
  | app (c : Command)
  | shutdown

/-- Something comes from outside. -/
def event? (g : Gateway) (s : System) : Option Gateway :=
  if s.threads.all (·.role.isOwn) then some { g with system := s } else none

def turn? (g : Gateway) : Turn → Option Gateway
  | .go i => (g.system.go? i).map fun (_, _, s) => { g with system := s }
  | .succeed i => (g.system.inCall? i).map fun (t, c) =>
    ⟨g.system.answer t c c.success, g.outstanding.after c c.success⟩
  | .fail i => (g.system.inCall? i).bind fun (t, c) =>
    let a : Answer := .failed (.modem .notOpen)
    if c.mayFail && !c.undoes then some ⟨g.system.answer t c a, g.outstanding.after c a⟩
    else none
  | .client e => g.event? (g.system.handleEvent e).1
  | .message payload => g.event? (g.system.brokerMessage payload)
  | .app c => g.event? (g.system.notifyApp c).1
  | .shutdown => g.event? g.system.startShutdown

variable {g g' : Gateway} {tidy : Bool}

/-- What a turn is: a thread goes on, a call returns, or something comes from outside. -/
inductive Takes (g : Gateway) : Turn → Gateway → Prop where
  | go {i : Nat} {t : Thread} {entered : Option Call} {s : System} :
      g.system.go? i = some (t, entered, s) → Takes g (.go i) { g with system := s }
  | returns {x : Turn} {t : Thread} {c : Call} {a : Answer} (hx : ∀ i, x ≠ .go i) :
      g.system.thread? t.id = some t → g.system.next t = .inside c → c.Brings a →
      (c.undoes = true → a.succeeded = true) →
      Takes g x ⟨g.system.answer t c a, g.outstanding.after c a⟩
  | outside {x : Turn} {s : System} (hx : ∀ i, x ≠ .go i) :
      g.system.Event s → s.Own → Takes g x { g with system := s }

theorem takes_of_turn? {x : Turn} (h : g.turn? x = some g') : g.Takes x g' := by
  have outside (hx : ∀ i, x ≠ .go i) {s : System} (he : g.system.Event s)
      (h : g.event? s = some g') : g.Takes x g' := by
    unfold event? at h
    split at h <;> cases h
    rename_i hown
    exact .outside hx he fun i t hi => List.all_eq_true.mp hown t (List.mem_of_find?_eq_some hi)
  cases x with
  | go i =>
    obtain ⟨⟨t, entered, s⟩, hgo, rfl⟩ := Option.map_eq_some_iff.mp h
    exact .go hgo
  | succeed i =>
    obtain ⟨⟨t, c⟩, hin, rfl⟩ := Option.map_eq_some_iff.mp h
    obtain ⟨-, ht, hm⟩ := System.inside_of_inCall? hin
    exact .returns nofun ht hm (.inl c.succeeds_success) fun _ => c.succeeded_success
  | fail i =>
    obtain ⟨⟨t, c⟩, hin, h⟩ := Option.bind_eq_some_iff.mp h
    obtain ⟨-, ht, hm⟩ := System.inside_of_inCall? hin
    dsimp only at h
    split at h <;> cases h
    rename_i hmay
    obtain ⟨hmay, hundo⟩ := Bool.and_eq_true_iff.mp hmay
    refine .returns nofun ht hm (.inr ⟨hmay, _, rfl⟩) fun hu => ?_
    rw [hu] at hundo
    cases hundo
  | client e => exact outside nofun (.gatt e) h
  | message payload => exact outside nofun (.brokerMessage payload) h
  | app c => exact outside nofun (.notifyApp c) h
  | shutdown => exact outside nofun .shutdown h

theorem step_of_turn? {x : Turn} (h : g.turn? x = some g') : Step tidy g g' := by
  cases takes_of_turn? h with
  | go hgo =>
    obtain ⟨-, ht, hgoes⟩ := System.goesOn_of_go? hgo
    cases hgoes with
    | step hm => exact .step ht hm
    | start hm => exact .start ht hm
  | returns _ ht hm hb hu => exact .answer ht hm hb fun _ => hu
  | outside _ he hown => exact .event he hown

theorem run_of_turns (g : Gateway) (xs : List Turn) :
    Relation.ReflTransGen (Step tidy) g (play turn? g xs) :=
  run_of_play turn? (fun _ _ _ => step_of_turn?) g xs

end Gateway

end EdgeGateway
