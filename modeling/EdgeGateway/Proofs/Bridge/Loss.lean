import EdgeGateway.Proofs.Bridge.Handling

/-!
# EdgeGateway.Proofs.Bridge.Loss

The client goes. The bridge gets to know from a message, and the message is lost if the queue is
full (`Service.loss_fate`).

* `Bridge.Point.aim`   : what the bridge goes on with after what it is at.
* `Bridge.MayStayOpen` : for some answers a session is left open once all is handled.
* `Bridge.advertises`  : advertising is seen to before all is handled.
* `Service.Ended`      : the session is over, and the gateway may be found again.
-/

namespace EdgeGateway

namespace Bridge

variable {b b' : Bridge} {q : Request} {r : Reply} {h : UInt32}

/-! ## Sessions that stay open -/

/-- What the bridge goes on with once it is through with what it is at. -/
def Point.aim : Point → Next
  | .checking | .advertising => .advertise
  | .closing _ next | .clearing next | .releasing next => next
  | .finished => .exit
  | _ => .serve

def Point.isOpening : Point → Bool
  | .acquiring _ | .opening _ => true
  | _ => false

/-- The value that a client writes to close the session with this handle. -/
def names (h : UInt32) : Bytes → Bool
  | [w, x, y, z] => uint32Of w x y z = h
  | _ => false

/-- A session may be open after the messages, if the bridge comes to them with this handle. The
card may give any handle to a new one. -/
def LeavesOpen (b : Bridge) : UInt32 → List BridgeMessage → Prop
  | h, [] => h ≠ 0
  | _, .disconnected :: rest => b.LeavesOpen 0 rest
  | _, .shutdown :: _ => False
  | h, .openPort value :: rest =>
    if h = 0 ∧ (b.portName? value).isSome = true then ∃ h', b.LeavesOpen h' rest
    else b.LeavesOpen h rest
  | h, .closePort value :: rest => b.LeavesOpen (if names h value then 0 else h) rest
  | h, .transreceive _ :: rest => b.LeavesOpen h rest

/-- The bridge may have this handle when it comes to its queue. -/
def Comes (b : Bridge) (h : UInt32) : Prop :=
  b.point.aim ≠ .exit ∧ (h = b.handle ∨ b.point.isOpening = true)

def MayStayOpen (b : Bridge) : Prop := ∃ h, b.Comes h ∧ b.LeavesOpen h b.inbox.items

/-! ## Advertising -/

/-- The client's departure is among the messages, and the bridge is still there to hear of it. -/
def heard : List BridgeMessage → Bool
  | [] | .shutdown :: _ => false
  | .disconnected :: _ => true
  | _ :: rest => heard rest

def advertises (b : Bridge) : Bool :=
  match b.point.aim with
  | .serve => heard b.inbox.items
  | .advertise => true
  | .exit => false

/-- Advertising was found to be on, or was asked for. -/
def onAir : Request × Reply → Bool
  | (.askAdvertising, .flag on) => on
  | (.advertise, _) => true
  | _ => false

/-! ## A reply -/

theorem onAir_giveBack (b : Bridge) : onAir (b.giveBack, .done) = false := by
  unfold giveBack
  cases b.lease <;> rfl

theorem Turn.aim (ht : Turn b q r b') :
    b'.point.aim = b.point.aim ∧ onAir (q, r) = false ∨
      b.point.aim = .advertise ∧ b'.point.aim = .serve ∧ onAir (q, r) = true := by
  cases ht with
  | @checked on hp =>
    cases on with
    | true => exact .inr ⟨by rw [hp]; rfl, rfl, rfl⟩
    | false => exact .inl ⟨by rw [hp]; rfl, rfl⟩
  | advertised hp => exact .inr ⟨by rw [hp]; rfl, rfl, rfl⟩
  | notOpened hp _ =>
    refine .inl ⟨?_, rfl⟩
    unfold giveUp
    split <;> rw [hp] <;> rfl
  | returned hp => exact .inl ⟨by rw [hp]; rfl, b.onAir_giveBack⟩
  | @released next hp =>
    refine .inl ⟨?_, b.onAir_giveBack⟩
    rw [hp]
    cases next <;> rfl
  | @acknowledged command _ hp =>
    refine .inl ⟨?_, rfl⟩
    cases command <;> rw [hp] <;> rfl
  | answered hp =>
    refine .inl ⟨?_, rfl⟩
    rcases b.respond_cases _ _ with he | ⟨chunk, rest, he⟩ <;> rw [he, hp] <;> rfl
  | notified hp =>
    refine .inl ⟨?_, rfl⟩
    split <;> rw [hp] <;> rfl
  | leased hp | notLeased hp | opened hp _ | reported hp | closed hp | cleared hp | exchanged hp
  | notExchanged hp | unheard hp | endOfBurst hp _ | paused hp =>
    exact .inl ⟨by rw [hp]; rfl, rfl⟩

theorem Turn.advertises (ht : Turn b q r b') :
    (b'.advertises || onAir (q, r)) = b.advertises := by
  unfold Bridge.advertises
  rcases ht.aim with ⟨ha, ho⟩ | ⟨ha, ha', ho⟩
  · rw [ha, ht.fixed.inbox, ho, Bool.or_false]
  · rw [ha, ho, Bool.or_true]

/-- The handle changes only where a session is opened. -/
theorem Turn.handle (ht : Turn b q r b') :
    b.point.isOpening = true ∨ b'.handle = b.handle ∧ b'.point.isOpening = false := by
  cases ht with
  | leased hp | notLeased hp | opened hp _ | notOpened hp _ => exact .inl (by rw [hp]; rfl)
  | @checked on _ => cases on <;> exact .inr ⟨rfl, rfl⟩
  | @released next _ => cases next <;> exact .inr ⟨rfl, rfl⟩
  | @acknowledged command _ _ => cases command <;> exact .inr ⟨rfl, rfl⟩
  | answered _ =>
    rcases b.respond_cases _ _ with he | ⟨chunk, rest, he⟩ <;> rw [he] <;> exact .inr ⟨rfl, rfl⟩
  | notified _ =>
    right
    split <;> exact ⟨rfl, rfl⟩
  | _ => exact .inr ⟨rfl, rfl⟩

theorem Turn.aim_exit (ht : Turn b q r b') : b'.point.aim = .exit ↔ b.point.aim = .exit := by
  rcases ht.aim with ⟨ha, -⟩ | ⟨ha, ha', -⟩
  · rw [ha]
  · simp [ha, ha']

theorem Turn.comes_of_comes (ht : Turn b q r b') (hc : b'.Comes h) : b.Comes h := by
  refine ⟨fun he => hc.1 (ht.aim_exit.mpr he), ?_⟩
  rcases ht.handle with ho | ⟨hh, ho⟩
  · exact .inr ho
  · rcases hc.2 with rfl | ho'
    · exact .inl hh
    · rw [ho] at ho'
      cases ho'

theorem Turn.comes (ht : Turn b q r b') (hno : b.point.isOpening = false) (hc : b.Comes h) :
    b'.Comes h := by
  refine ⟨fun he => hc.1 (ht.aim_exit.mp he), ?_⟩
  rcases ht.handle with ho | ⟨hh, -⟩
  · rw [hno] at ho
    cases ho
  · exact .inl ((hc.2.resolve_right (by simp [hno])).trans hh.symm)

/-- Where a session is being opened the arbiter and the card may answer so that the bridge has any
given handle. -/
theorem exists_comes (hs : b.Sound) (hop : b.point.isOpening = true) (h : UInt32) :
    ∃ r, Fits b.request r ∧ b.request.isOuter = true ∧ (b.resume r).Comes h := by
  cases hp : b.point with
  | acquiring port =>
    have hq : b.request = .acquire b.settings.acquireTimeout := by simp only [request, hp]
    refine ⟨.leased 0, by rw [hq]; exact .acquire, by rw [hq]; rfl, ?_⟩
    simp only [resume, hp]
    exact ⟨by simp [Point.aim], .inr rfl⟩
  | opening port =>
    have hq : b.request = .openPort port := by simp only [request, hp]
    refine ⟨.handle h, by rw [hq]; exact .openPort, by rw [hq]; rfl, ?_⟩
    simp only [Bridge.Sound, hp] at hs
    simp only [resume, hp]
    split
    · rename_i hz
      rw [giveUp]
      split <;> exact ⟨by simp [goto, Point.aim], .inl (hz.trans hs.1.symm)⟩
    · exact ⟨by simp [Point.aim], .inl rfl⟩
  | _ =>
    rw [hp] at hop
    cases hop

theorem leavesOpen_congr (hs : b'.settings = b.settings) {items : List BridgeMessage} :
    b'.LeavesOpen h items ↔ b.LeavesOpen h items := by
  induction items generalizing h with
  | nil => rfl
  | cons m rest ih =>
    have hport (value : Bytes) : b'.portName? value = b.portName? value := by
      simp only [portName?, hs]
    cases m <;> simp only [LeavesOpen, ih, hport]

theorem Turn.mayStayOpen (ht : Turn b q r b') (hc : b'.MayStayOpen) : b.MayStayOpen := by
  obtain ⟨h, hcomes, hopen⟩ := hc
  rw [ht.fixed.inbox, leavesOpen_congr ht.fixed.settings] at hopen
  exact ⟨h, ht.comes_of_comes hcomes, hopen⟩

/-! ## A message -/

theorem comes_closeSession (b : Bridge) (next : Next) :
    (b.closeSession next).Comes h ↔ next ≠ .exit ∧ h = 0 := by
  unfold closeSession
  split
  · rename_i hz
    simp [Comes, Point.aim, Point.isOpening, hz]
  · simp [Comes, Point.aim, Point.isOpening]

theorem comes_goto (b : Bridge) (p : Point) :
    (b.goto p).Comes h ↔ p.aim ≠ .exit ∧ (h = b.handle ∨ p.isOpening = true) := Iff.rfl

theorem comes_receiving (b : Bridge) : (b.goto .receiving).Comes h ↔ h = b.handle := by
  simp [comes_goto, Point.aim, Point.isOpening]

theorem comes_openSession (b : Bridge) (value : Bytes) : (b.openSession value).Comes h ↔
    b.handle = 0 ∧ (b.portName? value).isSome = true ∨ h = b.handle := by
  unfold openSession
  split
  · rename_i hn
    rw [comes_receiving, hn]
    simp
  · rename_i port hport
    simp only [hport, Option.isSome_some, and_true]
    split
    · rename_i hz
      rw [comes_receiving]
      simp [hz]
    · rename_i hz
      split <;> simp_all [comes_goto, Point.aim, Point.isOpening]

theorem comes_closeFor (b : Bridge) (value : Bytes) :
    (b.closeFor value).Comes h ↔ h = if names b.handle value then 0 else b.handle := by
  unfold closeFor
  split
  · rename_i w x y z
    dsimp only
    split
    · rename_i hno
      rw [comes_receiving, names]
      rcases hno with hz | hne
      · rw [hz]
        split
        · rename_i he
          rw [← of_decide_eq_true he]
        · rfl
      · simp [hne]
    · rename_i hyes
      simp only [not_or, not_not] at hyes
      simp [comes_closeSession, names, hyes.2]
  · rename_i hno
    have hnames : names b.handle value = false := by
      unfold names
      split
      · exact absurd rfl (hno _ _ _ _)
      · rfl
    rw [comes_receiving, hnames]
    rfl

theorem comes_collect (b : Bridge) (value : Bytes) :
    (b.collect value).Comes h ↔ h = b.handle := by
  have ht := b.takes_transreceive value
  generalize b.collect value = b' at ht
  cases ht with
  | ignores => exact b.comes_receiving
  | collects _ hc => cases hc <;> simp [Comes, goto, Point.aim, Point.isOpening]

/-- The messages leave a session open if the others do, from what the first sets going. -/
theorem leavesOpen_cons (b : Bridge) (m : BridgeMessage) (rest : List BridgeMessage) :
    b.LeavesOpen b.handle (m :: rest) ↔ ∃ h, (b.receive m).Comes h ∧ b.LeavesOpen h rest := by
  cases m with
  | disconnected => simp [LeavesOpen, receive, comes_closeSession]
  | shutdown => simp [LeavesOpen, receive, comes_closeSession]
  | openPort value =>
    simp only [LeavesOpen, receive, comes_openSession]
    split
    · simp [*]
    · simp [*]
  | closePort value => simp [LeavesOpen, receive, comes_closeFor]
  | transreceive value => simp [LeavesOpen, receive, comes_collect]

/-- With the message taken the answers that leave a session open are the same. -/
theorem mayStayOpen_receive (hp : b.point = .receiving) {m : BridgeMessage}
    {inbox : Inbox BridgeMessage} (ht : b.inbox.take? = some (m, inbox)) :
    (receive { b with inbox } m).MayStayOpen ↔ b.MayStayOpen := by
  have hfixed := fixed_receive { b with inbox } m
  have hsame : LeavesOpen { b with inbox } b.handle (m :: inbox.items) ↔
      b.LeavesOpen b.handle b.inbox.items := by
    rw [(Inbox.items_of_take ht).1]
    exact @leavesOpen_congr b { b with inbox } _ rfl _
  have hcons := leavesOpen_cons { b with inbox } m inbox.items
  simp only [MayStayOpen, hfixed.inbox, leavesOpen_congr hfixed.settings, ← hcons, hsame]
  simp [Comes, hp, Point.aim, Point.isOpening]

theorem aim_closeSession (b : Bridge) (next : Next) : (b.closeSession next).point.aim = next := by
  unfold closeSession
  split <;> rfl

/-- The bridge goes on serving after any message but two. -/
theorem Takes.aim {m : BridgeMessage} (ht : Takes b (.message m) b') (hd : m ≠ .disconnected)
    (hs : m ≠ .shutdown) : b'.point.aim = .serve := by
  cases ht with
  | gone => exact absurd rfl hd
  | told => exact absurd rfl hs
  | closes _ _ => exact b.aim_closeSession _
  | opens _ _ => split <;> rfl
  | collects _ hc => cases hc <;> rfl
  | ignores => rfl

theorem aim_receive (b : Bridge) (m : BridgeMessage) : (b.receive m).point.aim =
    if m = .disconnected then .advertise else if m = .shutdown then .exit else .serve := by
  cases m with
  | disconnected | shutdown => exact b.aim_closeSession _
  | openPort value | closePort value | transreceive value =>
    exact (b.takes_receive _).aim nofun nofun

theorem advertises_receive (b : Bridge) (m : BridgeMessage) :
    (b.receive m).advertises = heard (m :: b.inbox.items) := by
  unfold advertises
  rw [aim_receive, (b.fixed_receive m).inbox]
  cases m <;> rfl

/-- With the client's departure in the last place no session stays open. -/
theorem not_leavesOpen_of_last (b : Bridge) (items : List BridgeMessage) :
    ¬ b.LeavesOpen h (items ++ [.disconnected]) := by
  induction items generalizing h with
  | nil => simp [LeavesOpen]
  | cons m rest ih =>
    cases m with
    | openPort value =>
      simp only [List.cons_append, LeavesOpen]
      split
      · exact not_exists.mpr fun _ => ih
      · exact ih
    | shutdown => exact not_false
    | disconnected | closePort value | transreceive value => exact ih

theorem heard_of_last {items : List BridgeMessage} (h : .shutdown ∉ items) :
    heard (items ++ [.disconnected]) = true := by
  induction items with
  | nil => rfl
  | cons m rest ih =>
    simp only [List.mem_cons, not_or] at h
    cases m with
    | disconnected => rfl
    | shutdown => exact absurd rfl h.1
    | openPort value | closePort value | transreceive value => exact ih h.2

/-! ## Rank -/

/-- How far the bridge is from its next message. -/
def Point.stage : Point → Nat
  | .receiving | .finished => 0
  | .advertising => 1
  | .checking => 2
  | .reporting => 3
  | .returning => 4
  | .opening _ | .releasing _ => 5
  | .acquiring _ | .clearing _ | .notifying _ _ | .pausing _ _ => 6
  | .closing _ _ | .answering _ => 7
  | .exchanging _ => 8
  | .acknowledging _ => 9

theorem Point.stage_lt (p : Point) : p.stage < 10 := by
  cases p <;> simp only [stage] <;> omega

/-- What is left of a burst. -/
def Point.burst : Point → Nat
  | .notifying _ rest => 2 * rest.length
  | .pausing _ rest => 2 * rest.length + 1
  | _ => 0

theorem Turn.falls (ht : Turn b q r b') : b'.point.stage < b.point.stage ∨
    b'.point.stage = b.point.stage ∧ b'.point.burst < b.point.burst := by
  cases ht with
  | @checked on hp => cases on <;> simp [hp, Point.stage]
  | notOpened hp _ =>
    unfold giveUp
    split <;> simp [hp, Point.stage]
  | @released next hp => cases next <;> simp [hp, Point.stage, afterSession]
  | @acknowledged command _ hp => cases command <;> simp [hp, Point.stage]
  | @answered response capacity hp =>
    rcases b.respond_cases response capacity with he | ⟨chunk, rest, he⟩ <;>
      simp [he, hp, Point.stage]
  | notified hp =>
    right
    rw [hp]
    split
    · exact ⟨rfl, by simp [Point.burst]⟩
    · refine ⟨rfl, ?_⟩
      simp only [goto_point, Point.burst, List.length_cons]
      omega
  | paused hp => simp [hp, Point.stage, Point.burst]
  | advertised hp | leased hp | notLeased hp | opened hp _ | returned hp | reported hp | closed hp
  | cleared hp | exchanged hp | notExchanged hp | unheard hp | endOfBurst hp _ =>
    simp [hp, Point.stage]

end Bridge

namespace Service

variable {leases : Bool} {w w' : Service} {log : List (Bridge.Request × Bridge.Reply)}

/-- What the bridge has in its queue, what it is at, and how far it is with that. -/
def rank (w : Service) : ℕ ×ₗ ℕ :=
  toLex (10 * w.bridge.inbox.items.length + w.bridge.point.stage,
    2 * w.bridge.point.burst + if w.stored then 0 else 1)

theorem Handling.falls (h : Handling w w') : w'.rank < w.rank := by
  rw [rank, rank, Prod.Lex.toLex_lt_toLex]
  rcases h.cases with ⟨r, ht, -, hs⟩ | ⟨hb, -, hs, hs'⟩ | ⟨m, inbox, -, htake, hb, -⟩
  · rw [ht.fixed.inbox, hs]
    rcases ht.falls with hlt | ⟨heq, hlt⟩
    · left
      dsimp only
      omega
    · right
      refine ⟨by rw [heq], ?_⟩
      rw [if_neg Bool.false_ne_true]
      dsimp only
      omega
  · right
    rw [hb, hs, hs']
    exact ⟨rfl, Nat.lt_succ_self _⟩
  · left
    have hstage := w'.bridge.point.stage_lt
    have hinbox : w'.bridge.inbox = inbox := by
      rw [hb]
      exact (Bridge.fixed_receive _ m).inbox
    rw [hinbox, (Inbox.items_of_take htake).1, List.length_cons]
    dsimp only
    omega

/-! ## One move -/

theorem Handling.mayStayOpen (h : Handling w w') (ho : w'.bridge.MayStayOpen) :
    w.bridge.MayStayOpen := by
  rcases h.cases with ⟨r, ht, -⟩ | ⟨hb, -⟩ | ⟨m, inbox, hq, htake, hb, -⟩
  · exact ht.mayStayOpen ho
  · rwa [hb] at ho
  · have hp : w.bridge.point = .receiving := Bridge.asks_of_request hq
    rw [hb] at ho
    exact (Bridge.mayStayOpen_receive hp htake).mp ho

theorem Handling.advertises (h : Handling w w') : ∃ added, w'.log = added ++ w.log ∧
    (w'.bridge.advertises || added.any Bridge.onAir) = w.bridge.advertises := by
  rcases h.cases with ⟨r, ht, hlog, -⟩ | ⟨hb, hlog, -⟩ | ⟨m, inbox, hq, htake, hb, hlog⟩
  · refine ⟨[(w.bridge.request, r)], hlog, ?_⟩
    rw [List.any_cons, List.any_nil, Bool.or_false]
    exact ht.advertises
  · exact ⟨[], hlog, by rw [hb, List.any_nil, Bool.or_false]⟩
  · have hp : w.bridge.point = .receiving := Bridge.asks_of_request hq
    refine ⟨[(.receive, .message m)], hlog, ?_⟩
    have hitems := (Inbox.items_of_take htake).1
    rw [hb, Bridge.advertises_receive, Bridge.advertises, hp, hitems]
    exact Bool.or_false _

/-- A session that may stay open still may after some move. -/
theorem exists_mayStayOpen (hs : w.bridge.Sound) (ho : w.bridge.MayStayOpen) (hni : ¬ w.Idle) :
    ∃ w', Handling w w' ∧ w'.bridge.MayStayOpen := by
  obtain ⟨handle, hcomes, hopen⟩ := ho
  have turned {r : Bridge.Reply} {w' : Service} (h : Handling w w')
      (ht : Bridge.Turn w.bridge w.bridge.request r w'.bridge) (hc : w'.bridge.Comes handle) :
      ∃ w', Handling w w' ∧ w'.bridge.MayStayOpen := by
    rw [← ht.fixed.inbox, ← Bridge.leavesOpen_congr ht.fixed.settings] at hopen
    exact ⟨w', h, handle, hc, hopen⟩
  by_cases hop : w.bridge.point.isOpening = true
  · obtain ⟨r, hf, houter, hc⟩ := Bridge.exists_comes hs hop handle
    have hm : Handling w (w.replied r) := ⟨.reply hf houter, hni⟩
    exact turned hm (Bridge.turn_of_fits hf) hc
  · have hop := Bool.eq_false_of_not_eq_true hop
    have hmove : ∃ w', Handling w w' := by
      rcases w.exists_move with hq | ⟨w', hm⟩
      · have hp : w.bridge.point = .finished := Bridge.asks_of_request hq
        exact absurd (by rw [hp]; rfl) hcomes.1
      · exact ⟨w', hm, hni⟩
    obtain ⟨w', h⟩ := hmove
    rcases h.cases with ⟨r, ht, -⟩ | ⟨hb, -⟩ | ⟨m, inbox, hq, htake, hb, -⟩
    · exact turned h ht (ht.comes hop hcomes)
    · exact ⟨w', h, handle, by rwa [hb], by rwa [hb]⟩
    · have hp : w.bridge.point = .receiving := Bridge.asks_of_request hq
      refine ⟨w', h, ?_⟩
      rw [hb]
      exact (Bridge.mayStayOpen_receive hp htake).mpr ⟨handle, hcomes, hopen⟩

/-! ## Once all is handled -/

/-- No session is open and no lease is held. Since the log was as given, advertising was found to
be on, or was asked for. -/
structure Ended (log : List (Bridge.Request × Bridge.Reply)) (w : Service) : Prop where
  sessions : w.sessions = []
  held : w.held = []
  advertising : ∃ since, w.log = since ++ log ∧ since.any Bridge.onAir = true

/-- At rest the bridge's handle tells what is open and held, and nothing is left to be done about
advertising. -/
theorem Sound.rest (hs : w.Sound leases) (hr : AtRest Handling w) :
    (w.bridge.MayStayOpen ↔ w.sessions ≠ []) ∧ (w.sessions = [] → w.held = []) ∧
      w.bridge.advertises = false := by
  have hb := hs.bridge
  have hsessions := hs.sessions
  have hheld := hs.held
  rcases rest_iff.mp hr with ⟨hq, hitems⟩ | hq
  · have hp : w.bridge.point = .receiving := Bridge.asks_of_request hq
    simp only [Bridge.Sound, hp] at hb
    simp only [Bridge.openSessions, Bridge.openHandle, hp] at hsessions
    refine ⟨?_, fun he => ?_, ?_⟩
    · simp [Bridge.MayStayOpen, Bridge.Comes, Bridge.LeavesOpen, hp, hitems, hsessions,
        Bridge.Point.aim, Bridge.Point.isOpening]
    · have hz : w.bridge.handle = 0 := by simpa [hsessions] using he
      rw [hheld, hb.lease_eq_none hz]
      rfl
    · simp only [Bridge.advertises, hp, hitems, Bridge.Point.aim, Bridge.heard]
  · have hp : w.bridge.point = .finished := Bridge.asks_of_request hq
    simp only [Bridge.Sound, hp] at hb
    simp only [Bridge.openSessions, Bridge.openHandle, hp, hb.1, if_pos] at hsessions
    refine ⟨?_, fun _ => ?_, ?_⟩
    · simp [Bridge.MayStayOpen, Bridge.Comes, hp, hsessions, Bridge.Point.aim]
    · rw [hheld, hb.2]
      rfl
    · simp only [Bridge.advertises, hp, Bridge.Point.aim]

/-- No session stays open, and advertising has been seen to since, or will be. -/
structure Ending (leases : Bool) (log : List (Bridge.Request × Bridge.Reply)) (w : Service) :
    Prop where
  reachable : w.Reachable leases
  closes : ¬ w.bridge.MayStayOpen
  advertising : ∃ since, w.log = since ++ log ∧
    (w.bridge.advertises || since.any Bridge.onAir) = true

theorem ending_iff (h : w.Reachable leases) (hlog : w.log = log) :
    Ending leases log w ↔ ¬ w.bridge.MayStayOpen ∧ w.bridge.advertises = true := by
  constructor
  · rintro ⟨-, ho, since, hsince, hair⟩
    have hnil : since = [] := List.self_eq_append_left.mp (hlog.symm.trans hsince)
    rw [hnil, List.any_nil, Bool.or_false] at hair
    exact ⟨ho, hair⟩
  · rintro ⟨ho, hair⟩
    exact ⟨h, ho, [], hlog, by rw [hair, Bool.true_or]⟩

theorem Ending.handling (h : Ending leases log w) (hm : Handling w w') :
    Ending leases log w' := by
  obtain ⟨hreach, ho, since, hlog, hair⟩ := h
  obtain ⟨added, hadded, heq⟩ := hm.advertises
  refine ⟨hreach.steps (.single (.move hm.1)), fun ho' => ho (hm.mayStayOpen ho'),
    added ++ since, ?_, ?_⟩
  · rw [hadded, hlog, List.append_assoc]
  · rwa [List.any_append, ← Bool.or_assoc, heq]

theorem Ending.rest (h : Ending leases log w) (hr : AtRest Handling w) : Ended log w := by
  obtain ⟨hreach, ho, since, hlog, hair⟩ := h
  obtain ⟨hiff, hheld, hno⟩ := (Sound.reach hreach).rest hr
  have hsessions : w.sessions = [] := not_not.mp fun hne => ho (hiff.mpr hne)
  rw [hno, Bool.false_or] at hair
  exact ⟨hsessions, hheld hsessions, since, hlog, hair⟩

theorem Ending.settles (h : Ending leases log w) : Settles Handling (Ended log) w :=
  Settles.of_invariant rank (fun _ _ h hm => h.handling hm) (fun _ _ _ hm => hm.falls)
    (fun _ h hr => h.rest hr) h

theorem ending_of_settles (hs : Settles Handling (Ended log) w) (h : w.Reachable leases)
    (hlog : ∃ since, w.log = since ++ log) : Ending leases log w := by
  induction hs with
  | rest hr hended =>
    obtain ⟨hiff, -, -⟩ := (Sound.reach h).rest hr
    obtain ⟨since, hsince, hair⟩ := hended.advertising
    exact ⟨h, fun ho => hiff.mp ho hended.sessions, since, hsince, by rw [hair, Bool.or_true]⟩
  | @move w hm _ ih =>
    obtain ⟨since, hsince⟩ := hlog
    have next {w' : Service} (hw : Handling w w') : ¬ w'.bridge.MayStayOpen ∧
        (w.bridge.advertises || since.any Bridge.onAir) = true := by
      obtain ⟨added, hadded, heq⟩ := hw.advertises
      have hlog' : w'.log = added ++ since ++ log := by
        rw [hadded, hsince, List.append_assoc]
      obtain ⟨-, ho, since', hsince', hair⟩ :=
        ih w' hw (h.steps (.single (.move hw.1))) ⟨_, hlog'⟩
      rw [← List.append_cancel_right (hlog'.symm.trans hsince'), List.any_append,
        ← Bool.or_assoc, heq] at hair
      exact ⟨ho, hair⟩
    obtain ⟨w', hw⟩ := hm
    refine ⟨h, fun ho => ?_, since, hsince, (next hw).2⟩
    obtain ⟨w'', hw', ho'⟩ := exists_mayStayOpen (Sound.reach h).bridge ho hw.2
    exact (next hw').1 ho'

/-- Nothing but the attribute server's part changes at once; the bridge is told if its queue has
room. -/
theorem handle_disconnected (hkept : w.Kept) (connection : UInt16) :
    (w.handle (.disconnected connection)).1.log = w.log ∧
    (w.bridge.inbox.hasRoom w.bridge.isReceiving = true →
      (w.handle (.disconnected connection)).1.bridge =
        { w.bridge with inbox := w.bridge.inbox.put .disconnected }) ∧
    (w.bridge.inbox.hasRoom w.bridge.isReceiving = false →
      (w.handle (.disconnected connection)).1.bridge = w.bridge ∧
      (w.handle (.disconnected connection)).2 = .error .insufficientResources) := by
  have hopen := hkept.isOpen
  simp only [handle, Gatt.handle, Inbox.offer, Inbox.accepts, hopen, Bool.true_and]
  cases w.bridge.inbox.hasRoom w.bridge.isReceiving <;> simp

/-- What follows when a client has gone, once the bridge has handled all that has come. The
session is over and the gateway may be found again for all answers exactly if the messages in the
queue see to it. They do if the queue had room for one more, unless the bridge was about to end.
Else the bridge does not hear of the client's departure. -/
theorem loss_fate (h : w.Reachable leases) (connection : UInt16) :
    let w' := (w.handle (.disconnected connection)).1
    (Settles Handling (Ended w.log) w' ↔
      ¬ w'.bridge.MayStayOpen ∧ w'.bridge.advertises = true) ∧
    (w.bridge.inbox.hasRoom w.bridge.isReceiving = true → w.bridge.point.aim ≠ .exit →
      .shutdown ∉ w.bridge.inbox.items → Settles Handling (Ended w.log) w') ∧
    (w.bridge.inbox.hasRoom w.bridge.isReceiving = false → w'.bridge = w.bridge ∧
      (w.handle (.disconnected connection)).2 = .error .insufficientResources) := by
  intro w'
  have h' : w'.Reachable leases := h.handle _
  obtain ⟨hlog, hroom, hfull⟩ := handle_disconnected h.kept connection
  have hiff : Settles Handling (Ended w.log) w' ↔
      ¬ w'.bridge.MayStayOpen ∧ w'.bridge.advertises = true := by
    rw [← ending_iff h' hlog]
    exact ⟨fun hs => ending_of_settles hs h' ⟨[], hlog⟩, Ending.settles⟩
  refine ⟨hiff, fun hr haim hshutdown => ?_, hfull⟩
  have hb : w'.bridge = { w.bridge with inbox := w.bridge.inbox.put .disconnected } := hroom hr
  refine hiff.mpr ⟨?_, ?_⟩
  · rintro ⟨handle, -, hopen⟩
    rw [hb] at hopen
    exact Bridge.not_leavesOpen_of_last _ _ hopen
  · rw [hb, Bridge.advertises]
    dsimp only
    split
    · exact Bridge.heard_of_last hshutdown
    · rfl
    · exact absurd ‹_› haim

/-- A client of a bridge with a session goes, and there is room to tell the bridge. -/
theorem loss_fate_with_room : ∃ log, let w := serving 10 log
    w.Reachable true ∧ Settles Handling (Ended log) (w.handle (.disconnected 1)).1 := by
  obtain ⟨log, h⟩ := reachable_serving 10
  exact ⟨log, h, (loss_fate h 1).2.1 rfl nofun nofun⟩

/-- A client writes a chunk, which fills the queue, and goes at once. The bridge handles the
chunk and then waits, with the session still open. -/
theorem session_outlives_client : ∃ log,
    let w := ((serving 1 log).handle (.request (.write Handle.transreceiveValue [0]))).1
    w.Reachable true ∧ w.bridge.inbox.items.length = 1 ∧
      (w.handle (.disconnected 1)).2 = .error .insufficientResources ∧
      ∃ w', Relation.ReflTransGen Handling (w.handle (.disconnected 1)).1 w' ∧ w'.Idle ∧
        w'.sessions = [7] ∧ w'.held = [1] := by
  obtain ⟨log, h⟩ := reachable_serving 1
  let w := ((serving 1 log).handle (.request (.write Handle.transreceiveValue [0]))).1
  let w₁ := (w.handle (.disconnected 1)).1
  have hw : w.Reachable true := h.handle _
  have hb : w.bridge = { (serving 1 log).bridge with inbox.items := [.transreceive [0]] } := by
    have hlaid := h.kept.laid
    have hroom : ([0] : Bytes).length ≤ (serving 1 log).gatt.transreceiveCapacity :=
      Nat.le_of_ble_eq_true rfl
    simp only [w, handle, hlaid.write_transreceive hroom]
    rfl
  have hfull : w.bridge.inbox.hasRoom w.bridge.isReceiving = false := by
    rw [hb]
    rfl
  obtain ⟨hb₁, hrefused⟩ := (handle_disconnected hw.kept 1).2.2 hfull
  have hb₁ : w₁.bridge = w.bridge := hb₁
  let inbox := w₁.bridge.inbox.clear
  let w₂ := { w₁ with bridge.inbox := inbox }.replied (.message (.transreceive [0]))
  have hq : w₁.bridge.request = .receive := by
    rw [hb₁, hb]
    rfl
  have htake : w₁.bridge.inbox.take? = some (.transreceive [0], inbox) := by
    simp only [inbox, hb₁, hb]
    rfl
  have hb₂ : w₂.bridge = (serving 1 log).bridge := by
    have hq' : Bridge.request { w₁.bridge with inbox } = .receive := hq
    have hresume := Bridge.resume_message hq' (.transreceive [0])
    simp only [w₂, replied, hresume]
    simp only [inbox, hb₁, hb]
    rfl
  have hmove : Handling w₁ w₂ := by
    refine ⟨.receive hq htake, fun hi => ?_⟩
    have hitems := hi.2
    rw [hb₁, hb] at hitems
    cases hitems
  have hs := Sound.reach ((hw.handle _).steps (.single (.move hmove.1)))
  refine ⟨log, hw, by rw [hb]; rfl, hrefused, w₂, .single hmove, ?_, ?_, ?_⟩
  · exact ⟨by rw [hb₂]; rfl, by rw [hb₂]; rfl⟩
  · rw [hs.sessions, hb₂]
    rfl
  · rw [hs.held, hb₂]
    rfl

end Service

end EdgeGateway
