import EdgeGateway.Proofs.Inbox
import EdgeGateway.Proofs.Mqtt.Turn

/-!
# EdgeGateway.Proofs.Mqtt.Sound

What holds of a broker task at each of its points (`Mqtt.Sound`).

A task that is not started has nothing in its queue that would end its loop, and a restart is
deferred only by a task that has been started.
-/

namespace EdgeGateway

namespace Commands

/-- Nothing but a restart. -/
def Defers (cs : Commands) : Prop := ∀ c, cs.contains c = true → c = .restart

theorem defers_of_isEmpty {cs : Commands} (h : cs.isEmpty = true) : cs.Defers := by
  intro c hc
  simp [isEmpty_iff.mp h] at hc

theorem Defers.dominant {cs : Commands} (h : cs.Defers) (he : cs.isEmpty = false) :
    cs.dominant = some .restart := by
  have hno : ∀ c, c ≠ .restart → cs.contains c = false := by
    intro c hne
    rw [Bool.eq_false_iff]
    exact fun hc => hne (h c hc)
  exact dominant_eq_restart (hno _ nofun) (hno _ nofun) (hno _ nofun) he

theorem Defers.insert {cs : Commands} (h : cs.Defers) : (cs.insert .restart).Defers := by
  intro c hc
  simp only [contains_insert, Bool.or_eq_true, decide_eq_true_eq] at hc
  rcases hc with rfl | hc
  · rfl
  · exact h c hc

/-- Neither a stop nor a start; the try count says that such a word can be there. -/
structure IsLeft (tries : Nat) (cs : Commands) : Prop where
  stop : cs.contains .stop = false
  start : cs.contains .start = false
  tries : cs.isEmpty = false → 1 ≤ tries

theorem isLeft_empty (tries : Nat) : IsLeft tries .empty := ⟨by simp, by simp, by simp⟩

theorem Defers.isLeft {tries : Nat} {cs : Commands} (h : cs.Defers)
    (ht : cs.isEmpty = false → 1 ≤ tries) : IsLeft tries cs where
  stop := Bool.eq_false_iff.mpr fun hc => nomatch h _ hc
  start := Bool.eq_false_iff.mpr fun hc => nomatch h _ hc
  tries := ht

end Commands

namespace Mqtt

/-- Nothing of the client is set up. -/
def Down (t : Mqtt) : Prop :=
  t.ready = false ∧ t.created = false ∧ t.connected = false ∧ t.subscriber = false

/-- A connect from the start: no restart is deferred, and no end of the loop queued. -/
def Fresh (t : Mqtt) : Prop :=
  t.status = .starting ∧ t.deferred.isEmpty = true ∧ .exitLoop ∉ t.operations.items

/-- A connect of the phase is going on. -/
def In (t : Mqtt) : Phase → Prop
  | .setup => t.Fresh ∧ t.subscriber = true
  | .reconnect => t.status = .started ∧ t.deferred.Defers ∧ 1 ≤ t.policy.attempts ∧
      t.subscriber = true

def Closes (t : Mqtt) (e : Ending) : Prop :=
  t.status ≠ .started ∧ t.deferred.Defers ∧
  (t.deferred.isEmpty = false → 1 ≤ t.policy.attempts) ∧
  match e with
  | .failed left => left.IsLeft t.policy.attempts
  | _ => True

def Sound (t : Mqtt) : Prop :=
  match t.point with
  | .opening => t.Down ∧ t.status ≠ .started ∧ t.deferred.isEmpty = true
  | .preparing => t.Down ∧ t.status = .starting ∧ t.deferred.isEmpty = true
  | .bringingUp => t.Down ∧ t.Fresh
  | .creating => t.created = false ∧ t.connected = false ∧ t.subscriber = false ∧ t.Fresh
  | .trying phase n => t.In phase ∧ 1 ≤ n
  | .pausing phase n | .checking phase n | .connecting phase n =>
    t.In phase ∧ 1 ≤ n ∧ n ≤ t.policy.attempts
  | .subscribing phase => t.In phase ∧ 1 ≤ t.policy.attempts
  | .receiving | .dropping => t.In .reconnect
  | .stoppingSubscriber e | .joiningSubscriber e => t.Closes e
  | .disconnecting e => t.Closes e ∧ t.subscriber = false
  | .deleting e => t.Closes e ∧ t.subscriber = false ∧ t.connected = false
  | .tearingDown e =>
    t.Closes e ∧ t.subscriber = false ∧ t.connected = false ∧ t.created = false
  | .settling e => t.Closes e ∧ t.Down
  | .waiting left => t.Down ∧ t.status ≠ .started ∧ t.deferred.isEmpty = true ∧
      left.IsLeft t.policy.attempts
  | .finished => t.Down ∧ t.status = .stopped

theorem closes_lose {t : Mqtt} {phase : Phase} {left : Commands}
    (hs : phase = .setup → t.status ≠ .started) (hd : t.deferred.Defers)
    (ht : t.deferred.isEmpty = false → 1 ≤ t.policy.attempts)
    (hl : left.IsLeft t.policy.attempts) : (t.lose phase left).Sound := by
  have hstatus : (t.lose phase left).status ≠ .started := by
    cases phase with
    | setup => exact hs rfl
    | reconnect => simp [lose, goto]
  simpa [Sound, Closes] using ⟨hstatus, hd, ht, hl⟩

theorem Fresh.lose {t : Mqtt} (h : t.Fresh) {left : Commands}
    (hl : left.IsLeft t.policy.attempts) : (t.lose .setup left).Sound := by
  obtain ⟨hs, hd, -⟩ := h
  exact closes_lose (fun _ => by simp [hs]) (Commands.defers_of_isEmpty hd) (by simp [hd]) hl

theorem In.lose {t : Mqtt} {phase : Phase} (h : t.In phase) {left : Commands}
    (hl : left.IsLeft t.policy.attempts) : (t.lose phase left).Sound := by
  cases phase with
  | setup => exact h.1.lose hl
  | reconnect => exact closes_lose nofun h.2.1 (fun _ => h.2.2.1) hl

theorem Acts.sound {t : Mqtt} {cs : Commands} {p : Point} {left : Commands} (h : t.Sound)
    (hp : t.point = .waiting left) (ha : Acts cs p) : (t.goto p).Sound := by
  simp only [Sound, hp] at h
  obtain ⟨hdown, hs, hd, -⟩ := h
  cases ha with
  | stay _ _ => exact ⟨hdown, hs, hd, Commands.isLeft_empty _⟩
  | setUp _ _ => exact ⟨hdown, hs, hd⟩
  | exit _ =>
    have hd' : (t.goto (.stoppingSubscriber .exit)).deferred.isEmpty = true := hd
    exact ⟨hs, Commands.defers_of_isEmpty hd', by simp [hd'], trivial⟩

/-- What is left for a task that is down, be it deferred or left over from a connect. -/
theorem withDeferred_eq {t : Mqtt} (h : t.deferred.Defers) (left : Commands) :
    t.withDeferred left = { t with
      deferred := {}
      point := .waiting (if left.isEmpty && !t.deferred.isEmpty then .only .restart else left) } := by
  cases he : t.deferred.isEmpty with
  | true => simp [withDeferred, Commands.dominant_eq_none.mpr he]
  | false => cases hl : left.isEmpty <;> simp [withDeferred, h.dominant he, hl]

theorem withDeferred_sound {t : Mqtt} (hdown : t.Down) (hs : t.status ≠ .started)
    (hd : t.deferred.Defers) (ht : t.deferred.isEmpty = false → 1 ≤ t.policy.attempts)
    {left : Commands} (hl : left.IsLeft t.policy.attempts) : (t.withDeferred left).Sound := by
  rw [withDeferred_eq hd]
  refine ⟨hdown, hs, Commands.isEmpty_default, ?_⟩
  dsimp only
  split
  · rename_i hc
    have he : t.deferred.isEmpty = false := by simpa using (Bool.and_eq_true_iff.mp hc).2
    exact Commands.Defers.isLeft (by simp [Commands.Defers]) fun _ => ht he
  · exact hl

theorem Turn.sound {t t' : Mqtt} {q : Request} {r : Reply} (h : t.Sound) (ht : Turn t q r t') :
    t'.Sound := by
  cases ht with
  | acted hp _ hacts => exact hacts.sound h hp
  | notBroughtUp hp =>
    simp only [Sound, hp] at h
    exact h.2.lose (Commands.isLeft_empty _)
  | notCreated hp =>
    simp only [Sound, hp] at h
    exact h.2.2.2.lose (Commands.isLeft_empty _)
  | exhausted hp _ =>
    simp only [Sound, hp] at h
    exact h.1.lose (Commands.isLeft_empty _)
  | stopped hp =>
    simp only [Sound, hp] at h
    obtain ⟨⟨-, hd, ht, -⟩, hdown⟩ := h
    exact withDeferred_sound (by simpa [Down] using hdown) (by simp) (by simpa using hd)
      (by simpa using ht) (Commands.isLeft_empty _)
  | failed hp =>
    simp only [Sound, hp] at h
    obtain ⟨⟨-, hd, ht, hl⟩, hdown⟩ := h
    exact withDeferred_sound (by simpa [Down] using hdown) (by simp) (by simpa using hd)
      (by simpa using ht) (by simpa using hl)
  | @connected phase n hp =>
    cases phase with
    | setup =>
      simp_all [Sound, In, Fresh]
      omega
    | reconnect => simp_all [Sound, In]
  | started hp =>
    simp only [Sound, hp] at h
    obtain ⟨⟨⟨-, hd, -⟩, hs⟩, ht⟩ := h
    exact ⟨by simp [goto], by simpa [goto] using Commands.defers_of_isEmpty hd,
      by simpa [goto] using ht, by simpa [goto] using hs⟩
  | prepared hp => simp_all [Sound, Down, Fresh, Inbox.clear]
  | _ hp => simp_all [Sound, Down, In, Fresh, Closes, goto]

theorem Receives.sound {t t' : Mqtt} {op : Operation} (h : t.Sound) (hr : Receives t op t') :
    t'.Sound := by
  cases hr with
  | subscribeFailed _ => exact h
  | disconnected hp => cases hc : t.connected <;> simp_all [Sound, In, goto]
  | exitLoop hp => simp_all [Sound, In, Closes, goto]

theorem Reads.sound {t t' : Mqtt} {cs : Commands} {limit : Option Nat} (h : t.Sound)
    (hr : Reads t cs limit t') : t'.Sound := by
  cases hr with
  | acted hp _ hacts => exact hacts.sound h hp
  | @abort phase n hp _ =>
    simp only [Sound, hp] at h
    obtain ⟨hin, h1, hn⟩ := h
    have hin : In { t with deferred := {} } phase := by
      cases phase with
      | setup => exact ⟨⟨hin.1.1, Commands.isEmpty_default, hin.1.2.2⟩, hin.2⟩
      | reconnect =>
        exact ⟨hin.1, Commands.defers_of_isEmpty Commands.isEmpty_default, hin.2.2⟩
    exact hin.lose ⟨by simp, by simp, fun _ => by dsimp only; omega⟩
  | @defer phase n hp _ _ hs =>
    simp only [Sound, hp] at h
    obtain ⟨hin, h1, hn⟩ := h
    cases phase with
    | setup => simp [hin.1.1] at hs
    | reconnect => exact ⟨⟨hin.1, hin.2.1.insert, hin.2.2⟩, h1, hn⟩
  | @retry phase n hp _ _ =>
    simp only [Sound, hp] at h
    cases phase <;> exact h

theorem Sound.heard {t : Mqtt} (h : t.Sound) : Sound { t with announcing := none } := by
  cases hp : t.point with
  | trying phase n | pausing phase n | checking phase n | connecting phase n | subscribing phase =>
    cases phase <;> simp_all [Sound, In, Fresh]
  | _ => simp_all [Sound, Down, In, Fresh, Closes]

theorem Sound.offer {t : Mqtt} (h : t.Sound) {op : Operation}
    (hop : op = .exitLoop → t.status = .started) : (t.offer op).Sound := by
  have hmem : t.status ≠ .started → .exitLoop ∉ t.operations.items →
      .exitLoop ∉ (t.operations.offerOrDrop t.isReceiving op).items := by
    intro hs hno hmem
    rcases Inbox.mem_offerOrDrop hmem with hm | rfl
    · exact hno hm
    · exact hs (hop rfl)
  unfold Mqtt.offer
  generalize t.operations.offerOrDrop t.isReceiving op = q at hmem ⊢
  cases hp : t.point with
  | trying phase n | pausing phase n | checking phase n | connecting phase n | subscribing phase =>
    cases phase <;> simp_all [Sound, In, Fresh]
  | _ => simp_all [Sound, Down, In, Fresh, Closes]

@[simp] theorem notify_point (t : Mqtt) (c : Command) : (t.notify c).point = t.point := by
  unfold Mqtt.notify
  split
  · split <;> rfl
  · rfl

@[simp] theorem notify_subscriber (t : Mqtt) (c : Command) :
    (t.notify c).subscriber = t.subscriber := by
  unfold Mqtt.notify
  split
  · split <;> rfl
  · rfl

theorem Sound.notify {t : Mqtt} (h : t.Sound) (c : Command) : (t.notify c).Sound := by
  unfold Mqtt.notify
  split
  · rename_i hs
    split
    · exact h
    · exact h.offer fun _ => by simpa [isStarted] using hs
  · exact h

end Mqtt

end EdgeGateway
