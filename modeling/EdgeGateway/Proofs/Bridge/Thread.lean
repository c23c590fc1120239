import EdgeGateway.Proofs.Bridge.Service
import EdgeGateway.Proofs.Call
import EdgeGateway.Proofs.Modem.Thread

/-!
# EdgeGateway.Proofs.Bridge.Thread

The modem bridge's thread in the gateway: whatever it does on its own, and whatever it gets for a
call, an errand or a push, is a move of `Service`, and it is blocked only where no message has
come.
-/

namespace EdgeGateway

/-- A move of the service takes the bridge and the server there, whatever was asked before.
`stored` and `stored'` tell whether a push is under way. -/
def Service.Leads (b : Bridge) (g : Gatt) (stored : Bool) (b' : Bridge) (g' : Gatt)
    (stored' : Bool) : Prop :=
  ∀ log, ∃ log', Service.Move ⟨b, g, log, stored⟩ ⟨b', g', log', stored'⟩

namespace System

/-- The thread runs the bridge, next to the attribute server. -/
structure RunsBridge (s : System) (t : Thread) (b : Bridge) (g : Gatt) : Prop where
  role : t.role = .bridge
  bridge : s.bridge = some b
  gatt : s.gatt = some g

namespace RunsBridge

variable {s s' : System} {t : Thread} {b : Bridge} {g : Gatt}

theorem complete (h : s.RunsBridge t b g) (c : Completion) :
    (s.complete t c).RunsBridge t (b.resume (bridgeReply c)) g := by
  refine ⟨h.role, ?_, ?_⟩
  · simp [System.complete, h.role, h.bridge]
  · simpa [System.complete, h.role] using h.gatt

theorem leads_of_fits {r : Bridge.Reply} (hf : Bridge.Fits b.request r)
    (ho : b.request.isOuter = true) : Service.Leads b g false (b.resume r) g false :=
  fun _ => ⟨_, .reply hf ho⟩

/-- What the thread does on its own. -/
theorem leads_of_proceed (h : s.RunsBridge t b g) (hi : s.bridgeIntent t b = .proceed s')
    (hq : b.request ≠ .finished) :
    ∃ b', s'.RunsBridge t b' g ∧ Service.Leads b g false b' g false := by
  cases hr : b.request with
  | proceed =>
    simp only [bridgeIntent, hr, Intent.proceed.injEq] at hi
    subst hi
    exact ⟨_, ⟨h.role, rfl, h.gatt⟩, leads_of_fits (hr ▸ .proceed) (hr ▸ rfl)⟩
  | receive =>
    simp only [bridgeIntent, hr] at hi
    split at hi <;> cases hi
    rename_i htake
    exact ⟨_, ⟨h.role, rfl, h.gatt⟩, fun _ => ⟨_, .receive hr htake⟩⟩
  | inspect =>
    simp only [bridgeIntent, hr, Intent.proceed.injEq, h.gatt] at hi
    subst hi
    exact ⟨_, ⟨h.role, rfl, rfl⟩, fun _ => ⟨_, .inspect hr⟩⟩
  | finished => exact absurd hr hq
  | _ => simp [bridgeIntent, hr] at hi

theorem fits_of_answer {c : Call} (hi : s.bridgeIntent t b = .call c) {a : Answer}
    (hb : c.Brings a) :
    Bridge.Fits b.request (bridgeReply (.answer a)) ∧ b.request.isOuter = true := by
  cases hr : b.request with
  | askAdvertising =>
    simp only [bridgeIntent, hr, Intent.call.injEq] at hi
    subst hi
    rcases hb with ⟨on, rfl⟩ | ⟨hf, -⟩
    · exact ⟨.askAdvertising, rfl⟩
    · cases hf
  | sleep ms =>
    simp only [bridgeIntent, hr, Intent.call.injEq] at hi
    subst hi
    rcases hb with hdone | ⟨hf, -⟩
    · cases hdone
      exact ⟨.sleep, rfl⟩
    · cases hf
  | advertise | closePort handle =>
    simp only [bridgeIntent, hr, Intent.call.injEq] at hi
    subst hi
    refine ⟨?_, rfl⟩
    rcases hb with hdone | ⟨-, f, rfl⟩
    · cases hdone
      constructor
    · constructor
  | openPort port =>
    simp only [bridgeIntent, hr, Intent.call.injEq] at hi
    subst hi
    rcases hb with ⟨handle, rfl⟩ | ⟨-, f, rfl⟩
    · exact ⟨.openPort, rfl⟩
    · exact ⟨.openPortFailed, rfl⟩
  | exchange handle command =>
    simp only [bridgeIntent, hr, Intent.call.injEq] at hi
    subst hi
    rcases hb with ⟨response, rfl⟩ | ⟨-, f, rfl⟩
    · exact ⟨.exchange, rfl⟩
    · exact ⟨.exchangeFailed, rfl⟩
  | receive =>
    simp only [bridgeIntent, hr] at hi
    split at hi <;> cases hi
  | _ => simp [bridgeIntent, hr] at hi

/-- What the thread does with the answer to a call. -/
theorem leads_of_answer (h : s.RunsBridge t b g) {c : Call} (hi : s.bridgeIntent t b = .call c)
    {a : Answer} (hb : c.Brings a) :
    ∃ b', (s.complete t (.answer a)).RunsBridge t b' g ∧ Service.Leads b g false b' g false := by
  obtain ⟨hf, ho⟩ := fits_of_answer hi hb
  exact ⟨_, h.complete _, leads_of_fits hf ho⟩

theorem fits_of_outcome {e : Errand} (hi : s.bridgeIntent t b = .errand e) {o : Outcome}
    (hb : e.Yields o) :
    Bridge.Fits b.request (bridgeReply (.outcome o)) ∧ b.request.isOuter = true := by
  cases hr : b.request with
  | acquire timeout =>
    simp only [bridgeIntent, hr, Intent.errand.injEq] at hi
    subst hi
    rcases hb with ⟨id, rfl⟩ | ⟨e, rfl⟩
    · exact ⟨.acquire, rfl⟩
    · exact ⟨.acquireFailed, rfl⟩
  | release id =>
    simp only [bridgeIntent, hr, Intent.errand.injEq] at hi
    subst hi
    cases hb
    exact ⟨.release, rfl⟩
  | receive =>
    simp only [bridgeIntent, hr] at hi
    split at hi <;> cases hi
  | _ => simp [bridgeIntent, hr] at hi

/-- What the thread does at the end of an errand. -/
theorem leads_of_outcome (h : s.RunsBridge t b g) {e : Errand}
    (hi : s.bridgeIntent t b = .errand e) {o : Outcome} (hb : e.Yields o) :
    ∃ b', (s.complete t (.outcome o)).RunsBridge t b' g ∧ Service.Leads b g false b' g false := by
  obtain ⟨hf, ho⟩ := fits_of_outcome hi hb
  exact ⟨_, h.complete _, leads_of_fits hf ho⟩

theorem request_of_push {handle : UInt16} {value : Bytes}
    (hi : s.bridgeIntent t b = .push handle value) : b.request = .push handle value := by
  cases hr : b.request with
  | push handle' value' =>
    simp only [bridgeIntent, hr, Intent.push.injEq] at hi
    rw [hi.1, hi.2]
  | receive =>
    simp only [bridgeIntent, hr] at hi
    split at hi <;> cases hi
  | _ => simp [bridgeIntent, hr] at hi

/-- What the thread does with a push: the value is stored, and the push is over unless a client
has to be told. -/
theorem leads_of_push (h : s.RunsBridge t b g) {handle : UInt16} {value : Bytes}
    (hi : s.bridgeIntent t b = .push handle value)
    (hm : s.pushMove t handle value = .step s') :
    ∃ g', Service.Leads b g false b g' true ∧
      (s'.RunsBridge t b g' ∨
        ∃ b', s'.RunsBridge t b' g' ∧ Service.Leads b g' true b' g' false) := by
  have hq := request_of_push hi
  refine ⟨(g.push handle value).1, fun log => ⟨log, .store hq rfl⟩, ?_⟩
  have h' (g' : Gatt) : RunsBridge { s with gatt := some g' } t b g' := ⟨h.role, h.bridge, rfl⟩
  simp only [pushMove, h.gatt] at hm
  split at hm
  · rename_i g' hp
    cases hm
    rw [hp]
    exact .inr ⟨_, (h' g').complete _, fun _ => ⟨_, .told false hq rfl⟩⟩
  · rename_i g' n hp
    cases hm
    rw [hp]
    exact .inl ⟨h.role, h.bridge, rfl⟩

/-- What the thread does once the client has been told, or could not be. -/
theorem leads_of_pushed (h : s.RunsBridge t b g) {handle : UInt16} {value : Bytes}
    (hi : s.bridgeIntent t b = .push handle value) (sent : Bool) :
    ∃ b', (s.complete t (.pushed sent)).RunsBridge t b' g ∧ Service.Leads b g true b' g false :=
  ⟨_, h.complete _, fun _ => ⟨_, .told sent (request_of_push hi) rfl⟩⟩

/-- A blocked thread waits for a message, and none has come. -/
theorem bridge_waits (hi : s.bridgeIntent t b = .wait) :
    b.request = .receive ∧ b.inbox.items = [] := by
  cases hr : b.request with
  | receive =>
    simp only [bridgeIntent, hr] at hi
    split at hi <;> cases hi
    exact ⟨rfl, Inbox.take?_eq_none.mp ‹_›⟩
  | _ => simp [bridgeIntent, hr] at hi

end RunsBridge

end System

end EdgeGateway
