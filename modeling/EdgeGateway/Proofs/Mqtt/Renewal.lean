import EdgeGateway.Proofs.Mqtt.Stop

/-!
# EdgeGateway.Proofs.Mqtt.Renewal

A broker task that a restart makes clean up and set up again.

The restart comes as a command and as an operation that ends the loop. Whichever of the two is
read first, the command is kept until the cleanup is over, in the signal or deferred, and makes
the task set up again.

* `Mqtt.Renewing` : the task is on its way to the set-up (`Goes.renewing`).
* `Mqtt.Once`     : there is one such way before it (`Goes.once`).
* `Mqtt.Spent`    : nothing is left that would make it set up again (`Goes.spent`).
-/

namespace EdgeGateway

/-! ## On the way to the last step -/

theorem Commands.Defers.isEmpty {cs : Commands} (h : cs.Defers)
    (hr : cs.contains .restart = false) : cs.isEmpty = true := by
  rw [isEmpty_iff]
  intro c
  rw [Bool.eq_false_iff]
  intro hc
  rw [h c hc, hr] at hc
  cases hc

namespace Mqtt

/-- Wherever the task is, a restart is to be read or is carried, and nothing else is. -/
def Renewing (t : Mqtt) : Prop :=
  t.pending.Defers ∧
  match t.point with
  | .trying .reconnect _ | .pausing .reconnect _ | .checking .reconnect _
  | .connecting .reconnect _ | .subscribing .reconnect | .receiving | .dropping =>
    .exitLoop ∈ t.operations.items ∧ (t.pending.isEmpty = true → t.deferred.isEmpty = false)
  | .stoppingSubscriber e | .joiningSubscriber e | .disconnecting e | .deleting e
  | .tearingDown e | .settling e =>
    e ≠ .exit ∧ e.left.isEmpty = true ∧ (t.pending.isEmpty = true → t.deferred.isEmpty = false)
  | .waiting left => left.Defers ∧ (t.pending.isEmpty = true → left.isEmpty = false)
  | .opening | .preparing | .bringingUp => True
  | _ => False

theorem Renewing.withDeferred {t : Mqtt} (hp : t.pending.Defers) (hd : t.deferred.Defers)
    (hc : t.pending.isEmpty = true → t.deferred.isEmpty = false) {left : Commands}
    (hl : left.isEmpty = true) : (t.withDeferred left).Renewing := by
  have honly : (Commands.only .restart).isEmpty = false := rfl
  rw [withDeferred_eq hd]
  refine ⟨hp, ?_⟩
  dsimp only
  cases he : t.deferred.isEmpty with
  | true =>
    refine ⟨by simpa using Commands.defers_of_isEmpty hl, ?_⟩
    intro hempty
    rw [hc hempty] at he
    cases he
  | false =>
    have hleft : (if left.isEmpty && !false then Commands.only .restart else left) =
        .only .restart := by simp [hl]
    rw [hleft]
    exact ⟨by simp [Commands.Defers], fun _ => honly⟩

theorem Renewing.lose {t : Mqtt} (hp : t.pending.Defers)
    (hc : t.pending.isEmpty = true → t.deferred.isEmpty = false) (phase : Phase) :
    (t.lose phase .empty).Renewing := by
  simpa [Renewing] using ⟨hp, hc⟩

/-- A word that holds nothing but a restart, if it holds anything. -/
theorem Acts.of_defers {cs : Commands} {p : Point} (hd : cs.Defers) (he : cs.isEmpty = false)
    (ha : Acts cs p) : p = .opening := by
  cases ha with
  | setUp _ _ => rfl
  | stay _ hn =>
    rcases hn with hn | hn
    · cases he.symm.trans hn
    · cases hd _ hn
  | exit hn => cases hd _ hn

theorem Turn.renewing {t t' : Mqtt} {q : Request} {r : Reply} (h : t.Sound) (hr : t.Renewing)
    (hq : q ≠ .bringUp) (ht : Turn t q r t') : t'.Renewing := by
  obtain ⟨hpend, hr⟩ := hr
  cases ht with
  | acted hp hl hacts =>
    simp only [hp] at hr
    rw [hacts.of_defers hr.1 hl]
    exact ⟨hpend, trivial⟩
  | stopped hp =>
    simp only [Sound, hp] at h
    simp only [hp] at hr
    exact .withDeferred (by simpa using hpend) (by simpa using h.1.2.1) (by simpa using hr.2.2) rfl
  | failed hp =>
    simp only [Sound, hp] at h
    simp only [hp] at hr
    exact .withDeferred (by simpa using hpend) (by simpa using h.1.2.1) (by simpa using hr.2.2)
      hr.2.1
  | broughtUp hp | notBroughtUp hp => exact absurd rfl hq
  | prepared hp =>
    simp only [Sound, hp] at h
    exact ⟨hpend, by simp [h.1.1]⟩
  | @exhausted phase n hp _ =>
    simp only [hp] at hr
    cases phase with
    | setup => exact hr.elim
    | reconnect => exact .lose hpend hr.2 _
  | created hp | notCreated hp | started hp => simp [hp] at hr
  | exited hp => simp [hp] at hr
  | @first phase hp _ | @pause phase n hp _ _ | @routed phase n hp | @unrouted phase n hp
  | @connected phase n hp | @notConnected phase n hp =>
    simp only [hp] at hr
    cases phase with
    | setup => exact hr.elim
    | reconnect => exact ⟨hpend, hr⟩
  | opened _ => exact ⟨by simpa [goto] using hpend, trivial⟩
  | reconnected hp | dropped hp | stopTold hp _ | noSubscriber hp _ | joined hp
  | disconnected hp _ | deleted hp _ | tornDown hp _ =>
    simp only [hp] at hr
    exact ⟨hpend, hr⟩

theorem Receives.renewing {t t' : Mqtt} {op : Operation} {operations : Inbox Operation}
    (htake : t.operations.take? = some (op, operations)) (hr : t.Renewing)
    (ht : Receives { t with operations } op t') : t'.Renewing := by
  obtain ⟨hpend, hr⟩ := hr
  have hp : t.point = .receiving := ht.point_eq
  have hitems := (Inbox.items_of_take htake).1
  simp only [hp, hitems, List.mem_cons] at hr
  obtain ⟨hx, hc⟩ := hr
  cases ht with
  | disconnected _ =>
    have hx : .exitLoop ∈ operations.items := hx.resolve_left (by simp)
    cases hn : t.connected <;> simpa [Renewing, goto] using ⟨hpend, hx, hc⟩
  | subscribeFailed _ =>
    have hx : .exitLoop ∈ operations.items := hx.resolve_left (by simp)
    simpa [Renewing, hp] using ⟨hpend, hx, hc⟩
  | exitLoop _ => simpa [Renewing, goto] using ⟨hpend, hc⟩

/-- What has been read is nothing but a restart, and it is deferred if it comes in a pause. -/
theorem Reads.renewing {t t' : Mqtt} {limit : Option Nat} (h : t.Sound) (hr : t.Renewing)
    (ht : Reads { t with pending := {} } t.pending limit t') : t'.Renewing := by
  obtain ⟨hpend, hr⟩ := hr
  have hnone : Commands.Defers {} := Commands.defers_of_isEmpty rfl
  cases ht with
  | abort hp hc =>
    rcases Bool.or_eq_true_iff.mp hc with hc | hc <;> cases hpend _ hc
  | @defer phase n hp _ _ _ =>
    have hp : t.point = .pausing phase n := hp
    simp only [hp] at hr
    cases phase with
    | setup => exact hr.elim
    | reconnect =>
      refine ⟨hnone, hr.1, fun _ => ?_⟩
      exact Commands.isEmpty_eq_false_of_contains (c := .restart) (by simp)
  | @retry phase n hp _ hc =>
    have hp : t.point = .pausing phase n := hp
    simp only [hp] at hr
    simp only [Sound, hp] at h
    cases phase with
    | setup => exact hr.elim
    | reconnect =>
      have hstarted : Mqtt.isStarted { t with pending := {} } = true := by
        simpa [isStarted] using h.1.1
      have hempty : t.pending.isEmpty = true := hpend.isEmpty (by simpa [hstarted] using hc)
      exact ⟨hnone, hr.1, fun _ => hr.2 hempty⟩
  | @acted left p hp hl hacts =>
    have hp : t.point = .waiting left := hp
    simp only [hp] at hr
    have hne : t.pending.isEmpty = false := by
      rw [Bool.eq_false_iff]
      intro hempty
      cases hl.symm.trans (hr.2 hempty)
    rw [hacts.of_defers hpend hne]
    exact ⟨hnone, trivial⟩

theorem Renewing.offer {t : Mqtt} (hr : t.Renewing) (op : Operation) : (t.offer op).Renewing := by
  obtain ⟨hpend, hr⟩ := hr
  have hmem : .exitLoop ∈ t.operations.items →
      .exitLoop ∈ (t.operations.offerOrDrop t.isReceiving op).items :=
    Inbox.mem_offerOrDrop_of_mem
  unfold Mqtt.offer
  generalize t.operations.offerOrDrop t.isReceiving op = q at hmem ⊢
  refine ⟨hpend, ?_⟩
  cases hp : t.point with
  | trying phase n | pausing phase n | checking phase n | connecting phase n
  | subscribing phase => cases phase <;> simp_all
  | _ => simp_all

theorem Goes.renewing {t t' : Mqtt} (h : t.Sound) (hr : t.Renewing) (hq : t.request ≠ .bringUp)
    (hg : t.Goes t') : t'.Renewing := by
  cases hg with
  | same | heard _ => exact hr
  | turned _ ht => exact ht.renewing h hr hq
  | received _ htake ht => exact ht.renewing htake hr
  | read _ _ ht => exact ht.renewing h hr
  | expired _ hb ht => exact (ht.of_expired hb).renewing h hr
  | reported => exact hr.offer _

/-! ### One restart is one restart -/

/-- Before the client library is brought up. -/
def Point.isOpening : Point → Bool
  | .opening | .preparing | .bringingUp => true
  | _ => false

/-- The restart is to be read or is carried, and not both. -/
def Once (t : Mqtt) : Prop :=
  (t.pending.isEmpty = true ∨ t.carries = false) ∧
  (t.point.isOpening = true → t.pending.isEmpty = true)

/-- Nothing is left that would make the task set up again. -/
structure Spent (t : Mqtt) : Prop where
  pending : t.pending.isEmpty = true
  carries : t.carries = false
  untold : .exitLoop ∉ t.operations.items
  point : t.point ≠ .opening ∧ t.point ≠ .preparing

theorem carries_of_left {t : Mqtt} {left : Commands} (hp : t.point = .waiting left)
    (hl : left.isEmpty = false) : t.carries = true := by
  simp [carries, Mqtt.left, hp, hl]

theorem Turn.opening {t t' : Mqtt} {q : Request} {r : Reply} (ht : Turn t q r t')
    (hp : t'.point.isOpening = true) :
    t.point = .opening ∧ t'.point = .preparing ∨ t.point = .preparing ∨
      t'.point = .opening ∧ ∃ left, t.point = .waiting left ∧ left.isEmpty = false := by
  cases ht with
  | opened hp' => exact .inl ⟨hp', rfl⟩
  | prepared hp' => exact .inr (.inl hp')
  | acted hp' hl hacts =>
    cases hacts with
    | setUp _ _ => exact .inr (.inr ⟨rfl, _, hp', hl⟩)
    | stay _ _ | exit _ => cases hp
  | broughtUp hp' =>
    dsimp only at hp
    split at hp <;> cases hp
  | _ => simp [goto, withDeferred, Point.isOpening] at hp

theorem Goes.bringingUp {t t' : Mqtt} (hg : t.Goes t') (hp : t'.point = .bringingUp) :
    t.point = .bringingUp ∨ t.point = .preparing := by
  cases hg with
  | same | heard _ | reported => exact .inl hp
  | turned _ ht =>
    rcases ht.opening (by rw [hp]; rfl) with ⟨-, hp'⟩ | hp' | ⟨hp', -⟩
    · cases hp.symm.trans hp'
    · exact .inr hp'
    · cases hp.symm.trans hp'
  | received _ _ ht =>
    cases ht with
    | disconnected _ => cases hc : t.connected <;> simp [goto, hc] at hp
    | subscribeFailed _ => exact .inl hp
    | exitLoop _ => cases hp
  | read _ _ ht =>
    cases ht with
    | acted _ _ hacts => cases hacts <;> cases hp
    | _ => simp [goto] at hp
  | expired _ _ ht => cases ht <;> simp [goto] at hp

theorem Sound.spent_of_bringingUp {t : Mqtt} (h : t.Sound) (hp : t.point = .bringingUp)
    (ho : t.Once) : t.Spent := by
  simp only [Sound, hp] at h
  obtain ⟨-, -, hd, hx⟩ := h
  exact ⟨ho.2 (by rw [hp]; rfl), by simp [carries, Mqtt.left, hp, hd], hx, by simp [hp]⟩

theorem Turn.operations_eq {t t' : Mqtt} {q : Request} {r : Reply} (ht : Turn t q r t') :
    t'.operations = t.operations ∨ t'.operations = t.operations.clear := by
  cases ht with
  | prepared _ => exact .inr rfl
  | _ => exact .inl (by simp [goto, withDeferred])

theorem Turn.once {t t' : Mqtt} {q : Request} {r : Reply} (h : t.Sound) (ho : t.Once)
    (ht : Turn t q r t') : t'.Once := by
  obtain ⟨hone, hopening⟩ := ho
  rw [Once, ht.pending_eq]
  constructor
  · rcases hone with hempty | hc
    · exact .inl hempty
    · right
      rcases ht.falls h 0 with ⟨hc', -⟩ | ⟨he, -⟩
      · cases hc.symm.trans hc'
      · exact he.trans hc
  · intro hp
    rcases ht.opening hp with ⟨hp, -⟩ | hp | ⟨-, left, hp, hl⟩
    · exact hopening (by rw [hp]; rfl)
    · exact hopening (by rw [hp]; rfl)
    · -- the commands left over are carried, so that none are pending
      refine hone.resolve_right ?_
      simp [carries_of_left hp hl]

theorem Receives.once {t t' : Mqtt} {op : Operation} {operations : Inbox Operation}
    (ho : t.Once) (htake : t.operations.take? = some (op, operations))
    (ht : Receives { t with operations } op t') : t'.Once := by
  have hpend : t'.pending = t.pending := ht.pending_eq
  rw [Once, hpend, (ht.falls htake 0).1]
  refine ⟨ho.1, ?_⟩
  intro hp
  have hat : t.point = .receiving := ht.point_eq
  cases ht with
  | disconnected _ => cases hc : t.connected <;> simp [goto, hc, Point.isOpening] at hp
  | subscribeFailed _ => simp [hat, Point.isOpening] at hp
  | exitLoop _ => cases hp

theorem Goes.once {t t' : Mqtt} (h : t.Sound) (ho : t.Once) (hg : t.Goes t') : t'.Once := by
  have read {limit : Option Nat}
      (hr : Reads { t with pending := {} } t.pending limit t') : t'.Once := by
    have hp : t'.pending = {} := hr.pending_eq
    exact ⟨.inl (by rw [hp]; rfl), fun _ => by rw [hp]; rfl⟩
  cases hg with
  | same | heard _ | reported => exact ho
  | turned _ ht => exact ht.once h ho
  | received _ htake ht => exact ht.once ho htake
  | read _ _ ht => exact read ht
  | expired _ hb ht => exact read (ht.of_expired hb)

theorem Turn.spent {t t' : Mqtt} {q : Request} {r : Reply} (h : t.Sound) (hs : t.Spent)
    (ht : Turn t q r t') : t'.Spent := by
  have hnot (hp : t'.point.isOpening = true) : t'.point ≠ .opening ∧ t'.point ≠ .preparing := by
    rcases ht.opening hp with ⟨hp, -⟩ | hp | ⟨-, left, hp, hl⟩
    · exact absurd hp hs.point.1
    · exact absurd hp hs.point.2
    · cases hs.carries.symm.trans (carries_of_left hp hl)
  refine ⟨by rw [ht.pending_eq]; exact hs.pending, ?_, ?_, ?_⟩
  · rcases ht.falls h 0 with ⟨hc, -⟩ | ⟨he, -⟩
    · cases hs.carries.symm.trans hc
    · exact he.trans hs.carries
  · rcases ht.operations_eq with he | he <;> rw [he]
    · exact hs.untold
    · simp [Inbox.clear]
  · cases hp : t'.point with
    | opening | preparing => exact hp ▸ hnot (by rw [hp]; rfl)
    | _ => simp

theorem Receives.spent {t t' : Mqtt} {op : Operation} {operations : Inbox Operation}
    (hs : t.Spent) (htake : t.operations.take? = some (op, operations))
    (ht : Receives { t with operations } op t') : t'.Spent := by
  have hpend : t'.pending = t.pending := ht.pending_eq
  have hcarries := (ht.falls htake 0).1.trans hs.carries
  have hat : t.point = .receiving := ht.point_eq
  have hx := hs.untold
  rw [(Inbox.items_of_take htake).1, List.mem_cons, not_or] at hx
  refine ⟨by rw [hpend]; exact hs.pending, hcarries, ?_, ?_⟩
  · cases ht <;> simpa [goto] using hx.2
  · cases ht with
    | disconnected _ => cases hc : t.connected <;> simp [goto]
    | subscribeFailed _ => simp [hat]
    | exitLoop _ => simp [goto]

theorem Reads.spent {t t' : Mqtt} {limit : Option Nat} (hs : t.Spent)
    (ht : Reads { t with pending := {} } t.pending limit t') : t'.Spent := by
  have hnone := Commands.isEmpty_iff.mp hs.pending
  have hdeferred : t.deferred.isEmpty = true := by
    have hc := hs.carries
    simp only [carries, Bool.or_eq_false_iff, Bool.not_eq_false'] at hc
    exact hc.1
  cases ht with
  | abort _ hc => simp [hnone] at hc
  | defer _ _ hc _ => simp [hnone] at hc
  | retry _ _ _ =>
    exact ⟨Commands.isEmpty_default, by simp [carries, Mqtt.left, goto, hdeferred], hs.untold,
      by simp [goto]⟩
  | acted _ _ hacts =>
    cases hacts with
    | stay _ _ =>
      exact ⟨Commands.isEmpty_default, by simp [carries, Mqtt.left, goto, hdeferred],
        hs.untold, by simp [goto]⟩
    | setUp _ hc => simp [hnone] at hc
    | exit hc => simp [hnone] at hc

theorem Spent.offer {t : Mqtt} (hs : t.Spent) {op : Operation} (hop : op ≠ .exitLoop) :
    (t.offer op).Spent :=
  ⟨hs.pending, hs.carries,
    fun hx => hs.untold ((Inbox.mem_offerOrDrop hx).resolve_right hop.symm), hs.point⟩

theorem Goes.spent {t t' : Mqtt} (h : t.Sound) (hs : t.Spent) (hg : t.Goes t') : t'.Spent := by
  cases hg with
  | same => exact hs
  | heard _ => exact ⟨hs.pending, hs.carries, hs.untold, hs.point⟩
  | turned _ ht => exact ht.spent h hs
  | received _ htake ht => exact ht.spent hs htake
  | read _ _ ht => exact ht.spent hs
  | expired _ hb ht => exact (ht.of_expired hb).spent hs
  | reported => exact hs.offer nofun

/-! ### A restart comes -/

theorem Goes.isOpen {t t' : Mqtt} (hg : t.Goes t') :
    t'.operations.isOpen = t.operations.isOpen := by
  cases hg with
  | same | heard _ => rfl
  | turned _ ht => rcases ht.operations_eq with he | he <;> rw [he]; rfl
  | received _ htake ht =>
    rw [← (Inbox.items_of_take htake).2]
    cases ht <;> simp [goto]
  | read _ _ ht | expired _ _ ht => cases ht <;> simp [goto]
  | reported => exact Inbox.isOpen_offerOrDrop _ _ _

theorem isOpen_notify (t : Mqtt) (c : Command) :
    (t.notify c).operations.isOpen = t.operations.isOpen := by
  unfold Mqtt.notify
  split
  · split
    · rfl
    · exact Inbox.isOpen_offerOrDrop _ _ _
  · rfl

/-- A started task is in its loop or reconnects. -/
theorem Sound.of_started {t : Mqtt} (h : t.Sound) (hs : t.status = .started) :
    t.In .reconnect ∧
      ((∃ n, t.point = .trying .reconnect n ∨ t.point = .pausing .reconnect n ∨
        t.point = .checking .reconnect n ∨ t.point = .connecting .reconnect n) ∨
      t.point = .subscribing .reconnect ∨ t.point = .receiving ∨ t.point = .dropping) := by
  cases hp : t.point with
  | trying phase n | pausing phase n | checking phase n | connecting phase n
  | subscribing phase => cases phase <;> simp_all [Sound, In, Fresh]
  | _ => simp_all [Sound, Closes, Fresh]

theorem notify_of_started {t : Mqtt} (hs : t.status = .started) :
    t.notify .restart = { t.offer .exitLoop with pending := t.pending.insert .restart } := by
  simp [Mqtt.notify, isStarted, hs, Mqtt.offer]

theorem Sound.renewing {t : Mqtt} (h : t.Sound) (hs : t.status = .started)
    (hroom : t.operations.accepts t.isReceiving = true) (hp : t.pending.isEmpty = true) :
    (t.notify .restart).Renewing := by
  have hx : .exitLoop ∈ (t.operations.offerOrDrop t.isReceiving .exitLoop).items :=
    Inbox.mem_offerOrDrop_self hroom
  have hne : (t.pending.insert .restart).isEmpty = false :=
    Commands.isEmpty_eq_false_of_contains (c := .restart) (by simp)
  rw [notify_of_started hs]
  refine ⟨(Commands.defers_of_isEmpty hp).insert, ?_⟩
  obtain ⟨-, ⟨n, hat | hat | hat | hat⟩ | hat | hat | hat⟩ := h.of_started hs <;>
    simpa [Mqtt.offer, hat, hne] using hx

theorem Sound.once {t : Mqtt} (h : t.Sound) (hs : t.status = .started)
    (hd : t.deferred.isEmpty = true) : (t.notify .restart).Once := by
  rw [notify_of_started hs]
  obtain ⟨-, ⟨n, hat | hat | hat | hat⟩ | hat | hat | hat⟩ := h.of_started hs <;>
    simp [Once, carries, Mqtt.left, Point.isOpening, Mqtt.offer, hat, hd]

end Mqtt

end EdgeGateway
