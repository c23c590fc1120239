import EdgeGateway.Bridge

/-!
# EdgeGateway.Proofs.Bridge.Turn

All that the modem bridge can do.

* `Bridge.Fits`  : the replies a request can get. Messages are another matter.
* `Bridge.Turn`  : what the bridge does with such a reply, one case for each way on.
* `Bridge.Takes` : the same for a message, and for the end of messages.
* `Bridge.Asks`  : where a request is made.
-/

namespace EdgeGateway

namespace Bridge

@[simp] theorem goto_point (b : Bridge) (p : Point) : (b.goto p).point = p := rfl
@[simp] theorem goto_handle (b : Bridge) (p : Point) : (b.goto p).handle = b.handle := rfl
@[simp] theorem goto_leases (b : Bridge) (p : Point) : (b.goto p).leases = b.leases := rfl
@[simp] theorem goto_lease (b : Bridge) (p : Point) : (b.goto p).lease = b.lease := rfl

/-- A message is not a reply from outside. -/
inductive Fits : Request → Reply → Prop where
  | proceed : Fits .proceed .done
  | askAdvertising {on : Bool} : Fits .askAdvertising (.flag on)
  | advertise : Fits .advertise .done
  | advertiseFailed : Fits .advertise .failed
  | acquire {timeout id : Nat} : Fits (.acquire timeout) (.leased id)
  | acquireFailed {timeout : Nat} : Fits (.acquire timeout) .failed
  | release {id : Nat} : Fits (.release id) .done
  | openPort {port : String} {h : UInt32} : Fits (.openPort port) (.handle h)
  | openPortFailed {port : String} : Fits (.openPort port) .failed
  | closePort {h : UInt32} : Fits (.closePort h) .done
  | closePortFailed {h : UInt32} : Fits (.closePort h) .failed
  | exchange {h : UInt32} {command response : Bytes} : Fits (.exchange h command) (.data response)
  | exchangeFailed {h : UInt32} {command : Bytes} : Fits (.exchange h command) .failed
  | push {handle : UInt16} {value : Bytes} {sent : Bool} : Fits (.push handle value) (.flag sent)
  | inspect {capacity : Option Nat} {subscribed : Bool} : Fits .inspect (.view capacity subscribed)
  | sleep {ms : Nat} : Fits (.sleep ms) .done

theorem Fits.ne_message {q : Request} {r : Reply} (h : Fits q r) (m : BridgeMessage) :
    r ≠ .message m := by
  rintro rfl
  cases h

/-- What is answered elsewhere than at the attribute server and by messages. -/
def Request.isOuter : Request → Bool
  | .push _ _ | .inspect | .receive => false
  | _ => true

theorem fits_cases (q : Request) : (∃ r, Fits q r) ∨ q = .receive ∨ q = .finished := by
  cases q with
  | proceed => exact .inl ⟨_, .proceed⟩
  | askAdvertising => exact .inl ⟨.flag true, .askAdvertising⟩
  | advertise => exact .inl ⟨_, .advertise⟩
  | acquire timeout => exact .inl ⟨_, .acquireFailed⟩
  | release id => exact .inl ⟨_, .release⟩
  | openPort port => exact .inl ⟨_, .openPortFailed⟩
  | closePort h => exact .inl ⟨_, .closePort⟩
  | exchange h command => exact .inl ⟨_, .exchangeFailed⟩
  | push handle value => exact .inl ⟨.flag true, .push⟩
  | inspect => exact .inl ⟨.view none false, .inspect⟩
  | sleep ms => exact .inl ⟨_, .sleep⟩
  | receive => exact .inr (.inl rfl)
  | finished => exact .inr (.inr rfl)

/-- What is asked for where the lease is to be given back. -/
def giveBack (b : Bridge) : Request := b.lease.elim .proceed .release

/-- What the bridge does on a reply. -/
inductive Turn (b : Bridge) : Request → Reply → Bridge → Prop where
  | checked {on : Bool} : b.point = .checking →
      Turn b .askAdvertising (.flag on) (b.goto (if on then .receiving else .advertising))
  | advertised {r : Reply} : b.point = .advertising → Turn b .advertise r (b.goto .receiving)
  | leased {port : String} {id : Nat} : b.point = .acquiring port →
      Turn b (.acquire b.settings.acquireTimeout) (.leased id)
        { b with lease := some id, point := .opening port }
  | notLeased {port : String} : b.point = .acquiring port →
      Turn b (.acquire b.settings.acquireTimeout) .failed (b.goto .reporting)
  | opened {port : String} {h : UInt32} : b.point = .opening port → h ≠ 0 →
      Turn b (.openPort port) (.handle h)
        { b with handle := h, reassembler := b.reassembler.clear, point := .reporting }
  | notOpened {port : String} {r : Reply} : b.point = .opening port →
      r = .failed ∨ r = .handle 0 → Turn b (.openPort port) r b.giveUp
  | returned : b.point = .returning →
      Turn b b.giveBack .done { b with lease := none, point := .reporting }
  | reported {sent : Bool} : b.point = .reporting →
      Turn b (.push Handle.sessionValue (Bytes.ofUInt32 b.handle)) (.flag sent)
        (b.goto .receiving)
  | closed {h : UInt32} {next : Next} {r : Reply} : b.point = .closing h next →
      Turn b (.closePort h) r { b with reassembler := b.reassembler.clear, point := .clearing next }
  | cleared {next : Next} {sent : Bool} : b.point = .clearing next →
      Turn b (.push Handle.sessionValue (Bytes.ofUInt32 b.handle)) (.flag sent)
        (b.goto (.releasing next))
  | released {next : Next} : b.point = .releasing next →
      Turn b b.giveBack .done ({ b with lease := none }.afterSession next)
  | acknowledged {command : Option Bytes} {sent : Bool} : b.point = .acknowledging command →
      Turn b (.push Handle.ackValue [1]) (.flag sent)
        (b.goto (command.elim .receiving .exchanging))
  | exchanged {command response : Bytes} : b.point = .exchanging command →
      Turn b (.exchange b.handle command) (.data response) (b.goto (.answering response))
  | notExchanged {command : Bytes} : b.point = .exchanging command →
      Turn b (.exchange b.handle command) .failed (b.goto .receiving)
  | answered {response : Bytes} {capacity : Nat} : b.point = .answering response →
      Turn b .inspect (.view (some capacity) true) (b.respond response capacity)
  | unheard {response : Bytes} {capacity : Option Nat} {subscribed : Bool} :
      b.point = .answering response →
      Turn b .inspect (.view capacity subscribed) (b.goto .receiving)
  | notified {chunk next : Bytes} {rest : List Bytes} : b.point = .notifying chunk (next :: rest) →
      Turn b (.push Handle.transreceiveValue chunk) (.flag true)
        (b.goto (if b.settings.chunkInterval = 0 then .notifying next rest
          else .pausing next rest))
  | endOfBurst {chunk : Bytes} {rest : List Bytes} {sent : Bool} :
      b.point = .notifying chunk rest → rest = [] ∨ sent = false →
      Turn b (.push Handle.transreceiveValue chunk) (.flag sent) (b.goto .receiving)
  | paused {chunk : Bytes} {rest : List Bytes} : b.point = .pausing chunk rest →
      Turn b (.sleep b.settings.chunkInterval) .done (b.goto (.notifying chunk rest))

theorem request_of_returning {b : Bridge} (h : b.point = .returning) : b.request = b.giveBack := by
  simp only [request, h, giveBack]
  cases b.lease <;> rfl

theorem request_of_releasing {b : Bridge} {next : Next} (h : b.point = .releasing next) :
    b.request = b.giveBack := by
  simp only [request, h, giveBack]
  cases b.lease <;> rfl

theorem done_of_giveBack {b : Bridge} {r : Reply} (h : Fits b.giveBack r) : r = .done := by
  unfold giveBack at h
  cases hl : b.lease <;> rw [hl] at h <;> cases h <;> rfl

theorem turn_of_fits {b : Bridge} {r : Reply} (h : Fits b.request r) :
    Turn b b.request r (b.resume r) := by
  cases hp : b.point with
  | checking =>
    simp only [request, resume, hp] at h ⊢
    cases h
    exact .checked hp
  | advertising =>
    simp only [request, resume, hp] at h ⊢
    exact .advertised hp
  | receiving | finished =>
    simp only [request, hp] at h
    cases h
  | acquiring port =>
    simp only [request, hp] at h ⊢
    cases h with
    | acquire => simpa only [resume, hp] using Turn.leased hp
    | acquireFailed => simpa only [resume, hp] using Turn.notLeased hp
  | opening port =>
    simp only [request, hp] at h ⊢
    cases h with
    | @openPort _ h =>
      simp only [resume, hp]
      split
      · rename_i hz
        exact .notOpened hp (.inr (by rw [hz]))
      · rename_i hz
        exact .opened hp hz
    | openPortFailed => simpa only [resume, hp] using Turn.notOpened hp (.inl rfl)
  | returning =>
    rw [request_of_returning hp] at h ⊢
    rw [done_of_giveBack h]
    simpa only [resume, hp] using Turn.returned hp
  | reporting =>
    simp only [request, resume, hp] at h ⊢
    cases h
    exact .reported hp
  | closing handle next =>
    simp only [request, resume, hp] at h ⊢
    exact .closed hp
  | clearing next =>
    simp only [request, resume, hp] at h ⊢
    cases h
    exact .cleared hp
  | releasing next =>
    rw [request_of_releasing hp] at h ⊢
    rw [done_of_giveBack h]
    simpa only [resume, hp] using Turn.released hp
  | acknowledging command =>
    simp only [request, hp] at h ⊢
    cases h
    cases command with
    | none => simpa only [resume, hp, Option.elim] using Turn.acknowledged hp
    | some command => simpa only [resume, hp, Option.elim] using Turn.acknowledged hp
  | exchanging command =>
    simp only [request, hp] at h ⊢
    cases h with
    | exchange => simpa only [resume, hp] using Turn.exchanged hp
    | exchangeFailed => simpa only [resume, hp] using Turn.notExchanged hp
  | answering response =>
    simp only [request, hp] at h ⊢
    cases h with
    | @inspect capacity subscribed =>
      cases capacity with
      | none => simpa only [resume, hp] using Turn.unheard hp
      | some capacity =>
        cases subscribed with
        | false => simpa only [resume, hp] using Turn.unheard hp
        | true => simpa only [resume, hp] using Turn.answered hp
  | notifying chunk rest =>
    simp only [request, hp] at h ⊢
    cases h with
    | @push _ _ sent =>
      cases rest with
      | nil => simpa only [resume, hp] using Turn.endOfBurst hp (.inl rfl)
      | cons next rest =>
        cases sent with
        | true => simpa only [resume, hp] using Turn.notified hp
        | false => simpa only [resume, hp] using Turn.endOfBurst hp (.inr rfl)
  | pausing chunk rest =>
    simp only [request, hp] at h ⊢
    cases h
    simpa only [resume, hp] using Turn.paused hp

/-- A chunk is dropped, acknowledged, or has put a command together. -/
inductive Collected : Point → Prop where
  | dropped : Collected .receiving
  | joined {command : Option Bytes} : Collected (.acknowledging command)
  | complete {command : Bytes} : Collected (.exchanging command)

/-- What the bridge does with a message, or when no message will come any more. -/
inductive Takes (b : Bridge) : Reply → Bridge → Prop where
  | gone : Takes b (.message .disconnected) (b.closeSession .advertise)
  | told : Takes b (.message .shutdown) (b.closeSession .exit)
  | hungUp : Takes b .hungUp (b.closeSession .exit)
  | closes {w x y z : UInt8} : uint32Of w x y z = b.handle → b.handle ≠ 0 →
      Takes b (.message (.closePort [w, x, y, z])) (b.closeSession .serve)
  | opens {value : Bytes} {port : String} : b.handle = 0 → b.portName? value = some port →
      Takes b (.message (.openPort value))
        (b.goto (if b.leases then .acquiring port else .opening port))
  | collects {value : Bytes} {reassembler : Chunk.Reassembler} {p : Point} : b.handle ≠ 0 →
      Collected p → Takes b (.message (.transreceive value)) ({ b with reassembler }.goto p)
  | ignores {m : BridgeMessage} : Takes b (.message m) (b.goto .receiving)

theorem takes_openPort (b : Bridge) (value : Bytes) :
    Takes b (.message (.openPort value)) (b.openSession value) := by
  unfold openSession
  split
  · exact .ignores
  · rename_i port hport
    split
    · exact .ignores
    · rename_i hz
      have := Takes.opens (Decidable.not_not.mp hz) hport
      split <;> simpa only [*, if_true, if_false, Bool.false_eq_true] using this

theorem takes_closePort (b : Bridge) (value : Bytes) :
    Takes b (.message (.closePort value)) (b.closeFor value) := by
  unfold closeFor
  split
  · dsimp only
    split
    · exact .ignores
    · rename_i h
      obtain ⟨hz, he⟩ := not_or.mp h
      have he := Decidable.not_not.mp he
      exact .closes he (he ▸ hz)
  · exact .ignores

theorem takes_transreceive (b : Bridge) (value : Bytes) :
    Takes b (.message (.transreceive value)) (b.collect value) := by
  unfold collect
  split
  · exact .ignores
  · split
    · exact .ignores
    · rename_i h
      have hz : b.handle ≠ 0 := (not_or.mp h).1
      dsimp only
      split
      · exact .collects hz .joined
      · exact .collects hz .dropped
      · exact .collects hz .dropped
      · exact .collects hz .dropped
      · split
        · exact .collects hz .complete
        · exact .collects hz .joined

theorem takes_receive (b : Bridge) (m : BridgeMessage) : Takes b (.message m) (b.receive m) := by
  cases m with
  | disconnected => exact .gone
  | shutdown => exact .told
  | openPort value => exact b.takes_openPort value
  | closePort value => exact b.takes_closePort value
  | transreceive value => exact b.takes_transreceive value

/-! ## Where a request is made -/

/-- The handle may have changed, and is about to be published. -/
def isPublishing (b : Bridge) : Bool :=
  match b.point with
  | .reporting | .closing _ _ | .clearing _ => true
  | _ => false

/-- What is known of the bridge from its request. A value it pushes is its handle's, or one of
another characteristic. -/
def Asks (b : Bridge) : Request → Prop
  | .receive => b.point = .receiving
  | .finished => b.point = .finished
  | .closePort h => ∃ next, b.point = .closing h next
  | .exchange h command => b.handle = h ∧ b.point = .exchanging command
  | .push handle value =>
    (handle = Handle.sessionValue ∧ value = Bytes.ofUInt32 b.handle) ∨
      (handle ≠ Handle.sessionValue ∧ b.isPublishing = false)
  | _ => True

theorem asks_request (b : Bridge) : b.Asks b.request := by
  cases hp : b.point with
  | receiving | finished =>
    simp only [request, hp]
    exact hp
  | closing h next =>
    simp only [request, hp]
    exact ⟨next, hp⟩
  | exchanging command =>
    simp only [request, hp]
    exact ⟨rfl, hp⟩
  | reporting | clearing next =>
    simp only [request, hp]
    exact .inl ⟨rfl, rfl⟩
  | acknowledging command | notifying chunk rest =>
    simp only [request, hp]
    exact .inr ⟨by decide, by simp only [isPublishing, hp]⟩
  | returning | releasing next =>
    simp only [request, hp]
    split <;> trivial
  | _ =>
    simp only [request, hp]
    trivial

theorem asks_of_request {b : Bridge} {q : Request} (h : b.request = q) : b.Asks q :=
  h ▸ b.asks_request

theorem takes_message {b : Bridge} (h : b.request = .receive) (m : BridgeMessage) :
    Takes b (.message m) (b.resume (.message m)) := by
  have hp : b.point = .receiving := asks_of_request h
  simp only [resume, hp]
  exact b.takes_receive m

theorem takes_hungUp {b : Bridge} (h : b.request = .receive) :
    Takes b .hungUp (b.resume .hungUp) := by
  have hp : b.point = .receiving := asks_of_request h
  simpa only [resume, hp] using Takes.hungUp

end Bridge

end EdgeGateway
