import EdgeGateway.Proofs.Gateway.BroughtUp
import EdgeGateway.Proofs.Mqtt.Sound

/-!
# EdgeGateway.Proofs.Gateway.Owned

Whatever is outstanding, some task is still to undo it.

* `Link.MayHold`  : the cellular link may have the data session open.
* `Mqtt.Undone`   : what the broker task has undone of its client on its way out.
* `Arbiter.Owned` : the open modem is the data session's, or a lease is to close it.
* `Crew.Owns`     : all of it. It holds as long as nothing fails that undoes something
  (`Crew.Owns.step`), and when all tasks are over nothing is left (`Crew.Owns.nothing_left`).
-/

namespace EdgeGateway

namespace Link

variable {l l' : Link} {q : Request} {r : Reply} {cs : Commands} {limit : Option Nat}

/-- The data session may be open. It has been asked for before the task leaves. -/
def MayHold (l : Link) : Prop :=
  match l.point with
  | .left _ | .closing | .finished => False
  | _ => True

/-- A transport that has been disconnected is held no more. -/
theorem Turn.holds (hs : l.Sound) (ht : Turn l q r l') (hr : q = .disconnect → r = .done)
    {k : Outstanding} (h : k.wifiConnected = true → l.Holds)
    (hk : (k.afterLink .wifi q r).wifiConnected = true) : l'.Holds := by
  by_cases hd : q = .disconnect
  · rw [hd, hr hd] at hk
    cases hk
  by_cases hc : ∃ ip, q = .connect ∧ r = .address ip
  · exact ht.holds_of hs (.inl hc)
  · refine ht.holds_of hs (.inr ⟨h ?_, hd⟩)
    have hsame : (k.afterLink .wifi q r).wifiConnected = k.wifiConnected := by
      unfold Outstanding.afterLink
      split <;> simp_all
    exact hsame ▸ hk

theorem Advances.holds (hs : l.Sound) (ha : l.Advances q r l')
    (hr : q = .disconnect → r = .done) {k : Outstanding} (h : k.wifiConnected = true → l.Holds)
    (hk : (k.afterLink .wifi q r).wifiConnected = true) : l'.Holds := by
  cases ha with
  | heard _ => exact h hk
  | turned _ ht => exact ht.holds hs hr h hk
  | read _ hread => exact hread.holds hs (h hk)

/-- The task leaves without a disconnect only if the arbiter knows of no session. -/
theorem Turn.mayHold (ht : Turn l q r l') (hd : q ≠ .disconnect)
    (hr : q = .askConnected → r = .flag true) (h : l.MayHold) : l'.MayHold := by
  cases ht with
  | discarded _ | disconnected _ => exact absurd rfl hd
  | down _ _ | denied _ => cases hr rfl
  | stay hp | reconnect hp | exit hp | close hp => simp [MayHold, hp] at h
  | acted _ _ hacts => cases hacts <;> trivial
  | opened _ => cases l.ready <;> trivial
  | _ => trivial

theorem Advances.mayHold (ha : l.Advances q r l') (hd : q ≠ .disconnect)
    (hr : q = .askConnected → r = .flag true) (h : l.MayHold) : l'.MayHold := by
  cases ha with
  | heard _ => exact h
  | turned _ ht => exact ht.mayHold hd hr h
  | read _ hread =>
    cases hread with
    | acted _ _ hacts => cases hacts <;> trivial
    | abort _ _ | retry _ _ => trivial

end Link

namespace Mqtt

variable {t t' : Mqtt} {q : Request} {r : Reply}

def Undone (t : Mqtt) : Prop :=
  match t.point with
  | .opening | .preparing | .bringingUp | .creating | .disconnecting _ | .waiting _ =>
    t.subscriber = false
  | .deleting _ => t.subscriber = false ∧ t.connected = false
  | .tearingDown _ => t.subscriber = false ∧ t.connected = false ∧ t.created = false
  | .settling _ => t.Down
  | .finished => t.Down ∧ t.status = .stopped
  | _ => True

/-- The task's record of its client is what is outstanding. -/
def Records (t : Mqtt) (k : Outstanding) : Prop :=
  k.clientUp = t.ready ∧ k.clientCreated = t.created ∧ k.clientConnected = t.connected

theorem undone_own : t.own.Undone ↔ t.Undone := Iff.rfl

theorem records_own {k : Outstanding} : t.own.Records k ↔ t.Records k := Iff.rfl

theorem Acts.undone {cs left : Commands} {p : Point} (h : t.Undone) (hp : t.point = .waiting left)
    (ha : Acts cs p) : (t.goto p).Undone := by
  simp only [Undone, hp] at h
  cases ha with
  | stay _ _ | setUp _ _ => exact h
  | exit _ => trivial

theorem Advances.undone (h : t.Undone) (ha : t.Advances q r t') : t'.Undone := by
  cases ha with
  | heard _ => exact h
  | turned _ ht =>
    generalize t.request = q at ht
    cases ht with
    | acted hp _ hacts => exact hacts.undone h hp
    | prepared hp =>
      simp only [Undone, hp] at h
      cases t.ready <;> cases t.created <;> first | exact h | trivial
    | broughtUp hp =>
      simp only [Undone, hp] at h
      cases t.created <;> first | exact h | trivial
    | _ hp => simp_all [Undone, Down, goto, withDeferred]
  | received _ hr =>
    cases hr with
    | disconnected _ => cases t.connected <;> trivial
    | subscribeFailed _ => exact h
    | exitLoop _ => trivial
  | read _ hr =>
    cases hr with
    | acted hp _ hacts => exact hacts.undone h hp
    | _ => simp [Undone, goto]

theorem Advances.records {k : Outstanding} (h : t.Records k) (ha : t.Advances q r t')
    (hr : q = .disconnect ∨ q = .delete ∨ q = .tearDown → r = .done) :
    t'.Records (k.afterMqtt q r) := by
  obtain ⟨hup, hc, hn⟩ := h
  cases ha with
  | heard _ => exact ⟨hup, hc, hn⟩
  | received _ hrec => cases hrec <;> simp [Records, goto, Outstanding.afterMqtt, hup, hc, hn]
  | read _ hread => cases hread <;> simp [Records, goto, Outstanding.afterMqtt, hup, hc, hn]
  | turned hno ht =>
    generalize hq : t.request = q at ht hr ⊢
    cases ht with
    | disconnected hp hq' =>
      rcases hq' with rfl | rfl
      · cases hr (.inl rfl)
        exact ⟨hup, hc, rfl⟩
      · have hoff : t.connected = false := by simpa [request, hno, hp] using hq
        exact ⟨hup, hc, hn.trans hoff⟩
    | deleted hp hq' =>
      rcases hq' with rfl | rfl
      · cases hr (.inr (.inl rfl))
        exact ⟨hup, rfl, hn⟩
      · have hoff : t.created = false := by simpa [request, hno, hp] using hq
        exact ⟨hup, hc.trans hoff, hn⟩
    | tornDown hp hq' =>
      rcases hq' with rfl | rfl
      · cases hr (.inr (.inr rfl))
        exact ⟨rfl, hc, hn⟩
      · have hoff : t.ready = false := by simpa [request, hno, hp] using hq
        exact ⟨hup.trans hoff, hc, hn⟩
    | dropped _ =>
      cases hr (.inl rfl)
      exact ⟨hup, hc, rfl⟩
    | _ => simp_all [Records, Outstanding.afterMqtt, goto, withDeferred]

end Mqtt

/-! ## The modem -/

namespace Arbiter

variable {a a' : Arbiter} {e e' : Errand} {o : Option Errand} {expired : Bool} {c : ModemCall}
  {x : ModemAnswer} {k : Outstanding}

/-- A lease closes the modem, or its release under way does. -/
def Closes (a : Arbiter) (o : Option Errand) : Prop :=
  (∃ lease, a.lease = some lease ∧ lease.openedByLease = true) ∨
    ∃ lease, (o = some (.restore lease) ∨ o = some (.closeAfterLease lease)) ∧
      lease.openedByLease = true

/-- Someone is still to close the modem, `o` being the errand of the bridge. -/
def Owned (a : Arbiter) (o : Option Errand) : Prop := a.dataSession = true ∨ a.Closes o

/-- Only a release closes the modem without a lease being out. -/
theorem Closes.change (h : a.Closes o) (h₁ : ∀ lease, o ≠ some (.restore lease))
    (h₂ : ∀ lease, o ≠ some (.closeAfterLease lease)) (o' : Option Errand) : a.Closes o' := by
  rcases h with hl | ⟨lease, ho | ho, -⟩
  · exact .inl hl
  · exact absurd ho (h₁ lease)
  · exact absurd ho (h₂ lease)

theorem Owned.change (h : a.Owned o) (h₁ : ∀ lease, o ≠ some (.restore lease))
    (h₂ : ∀ lease, o ≠ some (.closeAfterLease lease)) (o' : Option Errand) : a.Owned o' :=
  h.imp_right fun hc => hc.change h₁ h₂ o'

theorem Owned.enter_link {l : Link} (hon : l.On a.dataSession (some e))
    (he : a.enter expired e = some (a', e')) (h : a.Owned o) : a'.Owned o := by
  cases e with
  | openData params timeout =>
    simp only [enter] at he
    (repeat' split at he) <;> cases he <;> exact h
  | closeData timeout =>
    simp only [enter] at he
    split at he
    · cases he
    · split at he
      · cases he
        exact h
      · split at he <;> cases he
        · exact .inr (.inl ⟨_, rfl, rfl⟩)
        · exact h
  | acquire timeout | release id => exact hon.elim
  | _ => cases he

theorem Owned.enter_bridge (he : a.enter expired e = some (a', e')) (h : a.Owned (some e)) :
    a'.Owned (some e') := by
  cases entry_of_enter he with
  | restore _ hl =>
    rcases h with hs | hc
    · exact .inl hs
    · obtain ⟨lease, hl', ho⟩ | ⟨lease, ho | ho, -⟩ := hc
      · cases hl.symm.trans hl'
        exact .inr (.inr ⟨_, .inl rfl, ho⟩)
      · cases ho
      · cases ho
  | handOver _ hl => exact .inr (.inl ⟨_, rfl, rfl⟩)
  | refused hm _ =>
    exact h.change (fun _ h => by cases h; cases hm) (fun _ h => by cases h; cases hm) _
  | _ => exact h.change nofun nofun _

theorem Owned.answer_link {l : Link} (hon : l.On a.dataSession (some e)) (hc : e.call? = some c)
    (hx : ∀ timeout, c = .hangUp timeout → x = .done)
    (h : k.modemOpen = true → a.Owned o) (hk : (k.afterModem c x).modemOpen = true) :
    (a.answer e x).1.Owned o := by
  cases e with
  | dial params timeout =>
    cases hc
    cases x with
    | address ip => exact .inl rfl
    | _ => exact h hk
  | hangUp timeout =>
    cases hc
    cases hx _ rfl
    cases hk
  | acquire timeout | release id | openData params timeout | closeData timeout | ended o => cases hc
  | _ => exact hon.elim

/-- With no lease out and none on its way back, the open modem is the data session's. -/
theorem Owned.session (h : a.Owned o) (hout : a.out = none)
    (h₁ : ∀ lease, o = some (.restore lease) → lease.openedByLease = false)
    (h₂ : ∀ lease, o = some (.closeAfterLease lease) → lease.openedByLease = false) :
    a.dataSession = true := by
  rcases h with hs | ⟨lease, hl, -⟩ | ⟨lease, ho | ho, hopened⟩
  · exact hs
  · simp [out, hl] at hout
  · rw [h₁ lease ho] at hopened
    cases hopened
  · rw [h₂ lease ho] at hopened
    cases hopened

theorem Owned.restored {lease : Lease} (h : a.Owned (some (.restore lease))) :
    a.Owned (some (.closeAfterLease lease)) := by
  rcases h with hs | hl | ⟨lease', ho | ho, hopened⟩
  · exact .inl hs
  · exact .inr (.inl hl)
  · cases ho
    exact .inr (.inr ⟨lease, .inr rfl, hopened⟩)
  · cases ho

theorem Owned.answer_bridge {b : Bridge} (hon : b.On a.out (some e)) (hc : e.call? = some c)
    (hx : ∀ timeout, c = .hangUp timeout → x = .done)
    (h : k.modemOpen = true → a.Owned (some e)) (hk : (k.afterModem c x).modemOpen = true) :
    (a.answer e x).1.Owned (some (a.answer e x).2) := by
  cases e with
  | inspect timeout =>
    cases hc
    have hs := (h hk).session hon.2 nofun nofun
    cases x with
    | failed error => cases error <;> exact .inl hs
    | mode m => cases m <;> exact .inl hs
    | _ => exact .inl hs
  | openForLease timeout =>
    cases hc
    cases x with
    | address ip => exact .inr (.inl ⟨_, rfl, rfl⟩)
    | failed error =>
      have hs := (h hk).session hon.2 nofun nofun
      cases error <;> exact .inl hs
    | _ => exact .inl ((h hk).session hon.2 nofun nofun)
  | switchForLease timeout =>
    cases hc
    have hs := (h hk).session hon.2 nofun nofun
    cases x <;> exact .inl hs
  | restore lease =>
    simp only [Errand.call?, Option.ite_none_right_eq_some] at hc
    obtain ⟨-, hc⟩ := hc
    cases hc
    exact (h hk).restored
  | closeAfterLease lease =>
    simp only [Errand.call?, Option.ite_none_right_eq_some] at hc
    obtain ⟨-, hc⟩ := hc
    cases hc
    cases hx _ rfl
    cases hk
  | dial params timeout | hangUp timeout => exact hon.elim
  | acquire timeout | release id | openData params timeout | closeData timeout | ended o => cases hc

/-- A lease that has not opened the modem does not close it. -/
theorem Owned.skip {b : Bridge} (hon : b.On a.out (some e)) (hm : e.isAtModem = true)
    (hc : e.call? = none) (h : a.Owned (some e)) :
    (a.answer e .done).1.Owned (some (a.answer e .done).2) := by
  cases e with
  | restore lease => exact h.restored
  | closeAfterLease lease =>
    have hno : lease.openedByLease = false := by simpa [Errand.call?] using hc
    exact .inl (h.session hon.2 nofun fun lease' ho => by cases ho; exact hno)
  | inspect timeout | openForLease timeout | switchForLease timeout | dial params timeout
  | hangUp timeout => cases hc
  | _ => cases hm

end Arbiter

/-! ## The card -/

theorem Outstanding.sessions_afterBridge (k : Outstanding) {q : Bridge.Request} {r : Bridge.Reply}
    (hr : ∀ h, q = .closePort h → r = .done) :
    (k.afterBridge q r).sessions = Bridge.openAfter k.sessions (q, r) := by
  cases q with
  | openPort port =>
    cases r with
    | handle h =>
      simp only [afterBridge, Bridge.openAfter]
      split <;> rfl
    | _ => rfl
  | closePort h =>
    cases hr h rfl
    rfl
  | _ => cases r <;> rfl

theorem Bridge.openAfter_of_errand {b : Bridge} (hb : b.Acquires ∨ b.Returns) (r : Bridge.Reply)
    (sessions : List UInt32) : Bridge.openAfter sessions (b.request, r) = sessions := by
  rcases hb with ⟨port, hp⟩ | hp | ⟨next, hp⟩
  · simp only [request, hp]
    cases r <;> rfl
  all_goals
    simp only [request, hp]
    cases b.lease <;> cases r <;> rfl

theorem Bridge.On.place {b : Bridge} {out : Option Nat} {e : Errand} (h : b.On out (some e)) :
    b.Acquires ∨ b.Returns := by
  cases e with
  | ended o =>
    cases o with
    | leased id | refused e => exact .inl h.1
    | released => exact .inr h.1
    | opened ip | closed => exact h.elim
  | acquire timeout | inspect timeout | openForLease timeout | switchForLease timeout =>
    exact .inl h.1
  | release id | restore lease | closeAfterLease lease => exact .inr h.1
  | openData params timeout | closeData timeout | dial params timeout | hangUp timeout =>
    exact h.elim

/-! ## All of it -/

namespace Crew

structure Owns (w : Crew) (k : Outstanding) : Prop where
  wifi : k.wifiConnected = true → ∃ l, w.link .wifi = some l ∧ l.Holds
  session : w.session = true → ∃ l, w.link .cellular = some l ∧ l.MayHold
  modem : k.modemOpen = true → ∃ a, w.arbiter = some a ∧ a.Owned (w.errand .bridge)
  sessions : k.sessions = w.bridge.elim [] Bridge.openSessions
  client : ∀ t, w.mqtt = some t → t.Records k
  noClient : w.mqtt = none →
    k.clientUp = false ∧ k.clientCreated = false ∧ k.clientConnected = false
  undone : ∀ t, w.mqtt = some t → t.Undone

variable {w w' : Crew} {k k' : Outstanding}

namespace Owns

theorem setWifi (h : w.Owns k) (hs : w.Sound) {l l' : Link} {q : Link.Request} {r : Link.Reply}
    (hl : w.link .wifi = some l.own) (ha : l.Advances q r l') (hr : q = .disconnect → r = .done) :
    (w.setLink .wifi l').Owns (k.afterLink .wifi q r) := by
  have hholds (hk : (k.afterLink .wifi q r).wifiConnected = true) : l'.Holds := by
    refine ha.holds (Link.sound_own.mp (hs.link _ _ hl)) hr (fun hk => ?_) hk
    obtain ⟨l₀, hl₀, hh⟩ := h.wifi hk
    cases hl.symm.trans hl₀
    exact hh
  rw [Outstanding.afterLink_eq]
  refine ⟨fun hk => ⟨l'.own, ?_, hholds hk⟩, fun hsession => ?_, h.modem, h.sessions, h.client,
    h.noClient, h.undone⟩
  · rw [link_setLink, if_pos rfl]
  · obtain ⟨l₀, hl₀, hh⟩ := h.session hsession
    exact ⟨l₀, by rw [link_setLink, if_neg nofun, hl₀], hh⟩

/-- The cellular link goes on. It may leave only without a session. -/
theorem setCellular (h : w.Owns k) {l l' : Link} (hl : w.link .cellular = some l.own)
    (hh : w.session = true → l.MayHold → l'.MayHold) {q : Link.Request} {r : Link.Reply} :
    (w.setLink .cellular l').Owns (k.afterLink .cellular q r) := by
  have hwifi : (k.afterLink .cellular q r).wifiConnected = k.wifiConnected := by
    unfold Outstanding.afterLink
    split <;> first | rfl | contradiction
  rw [Outstanding.afterLink_eq, hwifi]
  refine ⟨fun hk => ?_, fun hsession => ⟨l'.own, ?_, hh hsession ?_⟩, h.modem, h.sessions, h.client,
    h.noClient, h.undone⟩
  · obtain ⟨l₀, hl₀, hheld⟩ := h.wifi hk
    exact ⟨l₀, by rw [link_setLink, if_neg nofun, hl₀], hheld⟩
  · rw [link_setLink, if_pos rfl]
  · obtain ⟨l₀, hl₀, hh⟩ := h.session hsession
    cases hl.symm.trans hl₀
    exact hh

theorem setBridge (h : w.Owns k) {b b' : Bridge} (hb : w.bridge = some b.own)
    {sessions : List UInt32} (hs : k.sessions = b.openSessions → sessions = b'.openSessions) :
    (w.setBridge b').Owns { k with sessions } := by
  refine ⟨h.wifi, h.session, h.modem, hs ?_, h.client, h.noClient, h.undone⟩
  have := h.sessions
  rwa [hb] at this

/-- An errand goes on, and the arbiter with it. -/
theorem setErrand (h : w.Owns k) {task : Task} {e : Option Errand} {arbiter : Option Arbiter}
    {modemOpen : Bool}
    (hs : arbiter.any (·.dataSession) = true → ∃ l, w.link .cellular = some l ∧ l.MayHold)
    (hm : modemOpen = true →
      ∃ a, arbiter = some a ∧ a.Owned ((w.setErrand task e).errand .bridge)) :
    Owns { w.setErrand task e with arbiter } { k with modemOpen } :=
  ⟨h.wifi, hs, hm, h.sessions, h.client, h.noClient, h.undone⟩

theorem setMqtt (h : w.Owns k) {t t' : Mqtt} {q : Mqtt.Request} {r : Mqtt.Reply}
    (ht : w.mqtt = some t.own) (ha : t.Advances q r t')
    (hr : q = .disconnect ∨ q = .delete ∨ q = .tearDown → r = .done) :
    (w.setMqtt t').Owns (k.afterMqtt q r) := by
  have hrecords : t'.Records (k.afterMqtt q r) :=
    ha.records (Mqtt.records_own.mp (h.client _ ht)) hr
  have hundone : t'.Undone := ha.undone (Mqtt.undone_own.mp (h.undone _ ht))
  rw [Outstanding.afterMqtt_eq] at hrecords ⊢
  refine ⟨h.wifi, h.session, h.modem, h.sessions, ?_, nofun, ?_⟩
  · rintro _ ⟨⟩
    exact hrecords
  · rintro _ ⟨⟩
    exact hundone

theorem enter (h : w.Owns k) (hs : w.Sound) {task : Task} {e e' : Errand} {a a' : Arbiter}
    {expired : Bool} (he : w.errand task = some e) (ha : w.arbiter = some a)
    (henter : a.enter expired e = some (a', e')) :
    ((w.setErrand task (some e')).setArbiter a').Owns k := by
  refine h.setErrand (fun hsession => h.session (hs.session_of_enter he ha henter hsession))
    fun hopen => ⟨a', rfl, ?_⟩
  obtain ⟨a₀, ha₀, howned⟩ := h.modem hopen
  cases ha.symm.trans ha₀
  rw [errand_setErrand]
  rcases hs.cases he with ⟨rfl, b, -, -⟩ | ⟨rfl, l, -, hon⟩
  · rw [he] at howned
    rw [if_pos rfl]
    exact howned.enter_bridge henter
  · rw [Crew.session, ha] at hon
    rw [if_neg (by decide)]
    exact howned.enter_link hon henter

theorem session_of_answer (h : w.Owns k) (hs : w.Sound) {task : Task} {e : Errand} {a : Arbiter}
    (he : w.errand task = some e) (ha : w.arbiter = some a) (hm : e.isAtModem = true)
    (x : ModemAnswer) (hsession : (a.answer e x).1.dataSession = true) :
    ∃ l, w.link .cellular = some l ∧ l.MayHold := by
  rcases hs.session_of_answer he ha hm x hsession with hsession | ⟨l, hl, hq⟩
  · exact h.session hsession
  · obtain ⟨n, hp⟩ := Link.asks_of_request hq
    exact ⟨l, hl, by simp [Link.MayHold, hp]⟩

theorem called (h : w.Owns k) (hs : w.Sound) {task : Task} {e : Errand} {a : Arbiter}
    {c : ModemCall} {x : ModemAnswer} (he : w.errand task = some e) (ha : w.arbiter = some a)
    (hc : e.call? = some c) (hx : ∀ timeout, c = .hangUp timeout → x = .done) :
    ((w.setErrand task (some (a.answer e x).2)).setArbiter (a.answer e x).1).Owns
      (k.afterModem c x) := by
  rw [Outstanding.afterModem_eq]
  refine h.setErrand (h.session_of_answer hs he ha (Errand.isAtModem_of_call? hc) x)
    fun hopen => ⟨_, rfl, ?_⟩
  have howned (hk : k.modemOpen = true) : a.Owned (w.errand .bridge) := by
    obtain ⟨a₀, ha₀, howned⟩ := h.modem hk
    cases ha.symm.trans ha₀
    exact howned
  rw [errand_setErrand]
  rcases hs.cases he with ⟨rfl, b, -, hon⟩ | ⟨rfl, l, -, hon⟩
  · rw [Crew.out, ha] at hon
    rw [he] at howned
    rw [if_pos rfl]
    exact Arbiter.Owned.answer_bridge hon hc hx howned hopen
  · rw [Crew.session, ha] at hon
    rw [if_neg (by decide)]
    exact Arbiter.Owned.answer_link hon hc hx howned hopen

theorem skip (h : w.Owns k) (hs : w.Sound) {task : Task} {e : Errand} {a : Arbiter}
    (he : w.errand task = some e) (ha : w.arbiter = some a) (hm : e.isAtModem = true)
    (hc : e.call? = none) :
    ((w.setErrand task (some (a.answer e .done).2)).setArbiter (a.answer e .done).1).Owns k := by
  refine h.setErrand (h.session_of_answer hs he ha hm .done) fun hopen => ⟨_, rfl, ?_⟩
  obtain ⟨a₀, ha₀, howned⟩ := h.modem hopen
  cases ha.symm.trans ha₀
  rw [errand_setErrand]
  rcases hs.cases he with ⟨rfl, b, -, hon⟩ | ⟨rfl, l, -, hon⟩
  · rw [Crew.out, ha] at hon
    rw [he] at howned
    rw [if_pos rfl]
    exact howned.skip hon hm hc
  · cases e with
    | dial params timeout | hangUp timeout => cases hc
    | openData params timeout | closeData timeout | ended o => cases hm
    | _ => exact hon.elim

theorem endLink (h : w.Owns k) (hs : w.Sound) {l l' : Link} {o : Outcome} {r : Link.Reply}
    (hl : w.link .cellular = some l.own) (he : w.errand (.link .cellular) = some (.ended o))
    (ha : l.Advances l.request r l') :
    ((w.setErrand (.link .cellular) none).setLink .cellular l').Owns k := by
  have hon := hs.cellular _ hl
  rw [he] at hon
  have hnone : (w.setErrand (.link .cellular) none).Owns k := by
    refine h.setErrand h.session fun hopen => ?_
    obtain ⟨a, ha, howned⟩ := h.modem hopen
    exact ⟨a, ha, by rwa [errand_setErrand, if_neg nofun]⟩
  have hk : k.afterLink .cellular l.request r = k := by
    rcases (show l.On w.session (some (.ended o)) from hon) with hq | ⟨hq, -⟩ <;> rw [hq] <;> rfl
  refine hk ▸ hnone.setCellular hl fun hsession hmay => ?_
  rcases (show l.On w.session (some (.ended o)) from hon) with hq | ⟨-, hno⟩
  · exact ha.mayHold (by simp [hq]) (by simp [hq]) hmay
  · rw [show w.session = true from hsession] at hno
    cases hno

theorem endBridge (h : w.Owns k) (hs : w.Sound) {b b' : Bridge} {o : Outcome} {r : Bridge.Reply}
    (hb : w.bridge = some b.own) (he : w.errand .bridge = some (.ended o))
    (ht : b.Turn b.request r b') : ((w.setErrand .bridge none).setBridge b').Owns k := by
  have hon := hs.lease _ hb
  rw [he] at hon
  have hnone : (w.setErrand .bridge none).Owns k := by
    refine h.setErrand h.session fun hopen => ?_
    obtain ⟨a, ha, howned⟩ := h.modem hopen
    rw [he] at howned
    exact ⟨a, ha, by rw [errand_setErrand, if_pos rfl]; exact howned.change nofun nofun _⟩
  refine hnone.setBridge hb fun hk => ?_
  rw [hk, (Bridge.keeps_of_turn (Bridge.sound_own.mp (hs.bridge _ hb)) ht).sessions]
  exact (Bridge.openAfter_of_errand (Bridge.On.place (b := b) hon) r _).symm

/-- Nothing that is outstanding loses its owner. -/
theorem step (h : w.Owns k) (hs : w.Sound) (hstep : Step true (w, k) (w', k')) : w'.Owns k' := by
  cases hstep with
  | @link _ _ kind l l' q r hl _ ha ht hr =>
    cases kind with
    | wifi => exact h.setWifi hs hl ha (hr rfl)
    | cellular =>
      obtain ⟨-, hd, hasks⟩ := ht rfl
      refine h.setCellular hl fun hsession hmay => ha.mayHold hd (fun hq => ?_) hmay
      rw [hasks hq]
      exact congrArg Link.Reply.flag hsession
    | none =>
      have hk : k.afterLink .none q r = k := by cases q <;> cases r <;> rfl
      have hsame (kind' : LinkKind) (hne : kind' ≠ .none) :
          (w.setLink .none l').link kind' = w.link kind' := by
        rw [link_setLink, if_neg hne]
      rw [hk]
      exact ⟨by rw [hsame .wifi nofun]; exact h.wifi,
        by rw [hsame .cellular nofun]; exact h.session,
        h.modem, h.sessions, h.client, h.noClient, h.undone⟩
  | @bridge _ _ b b' q r hb he ha hacq hrel hr =>
    rw [Outstanding.afterBridge_eq]
    refine h.setBridge hb fun hk => ?_
    rw [k.sessions_afterBridge (hr rfl), hk]
    exact (ha.keeps (Bridge.sound_own.mp (hs.bridge _ hb))).sessions.symm
  | mqtt ht ha hr => exact h.setMqtt ht ha (hr rfl)
  | beginLink hl he hw =>
    refine h.setErrand h.session fun hopen => ?_
    obtain ⟨a, ha, howned⟩ := h.modem hopen
    exact ⟨a, ha, by rwa [errand_setErrand, if_neg nofun]⟩
  | beginBridge hb he hw =>
    refine h.setErrand h.session fun hopen => ?_
    obtain ⟨a, ha, howned⟩ := h.modem hopen
    rw [he] at howned
    exact ⟨a, ha, howned.change nofun nofun _⟩
  | enter he ha henter => exact h.enter hs he ha henter
  | called he ha hc hx => exact h.called hs he ha hc (hx rfl)
  | skip he ha hm hc => exact h.skip hs he ha hm hc
  | endLink hl he ha => exact h.endLink hs hl he ha
  | endBridge hb he ht => exact h.endBridge hs hb he ht
  | lose wifi modem =>
    exact ⟨fun hk => h.wifi (Bool.and_eq_true_iff.mp hk).1, h.session,
      fun hk => h.modem (Bool.and_eq_true_iff.mp hk).1, h.sessions, h.client, h.noClient, h.undone⟩

theorem of_new (h : w.New) : w.Owns {} where
  wifi := nofun
  session hs := by
    rw [h.session] at hs
    cases hs
  modem := nofun
  sessions := by
    cases hb : w.bridge with
    | none => rfl
    | some b =>
      obtain ⟨settings, leases, rfl⟩ := h.bridge b hb
      rfl
  client t ht := by
    obtain ⟨settings, rfl⟩ := h.mqtt t ht
    exact ⟨rfl, rfl, rfl⟩
  noClient _ := ⟨rfl, rfl, rfl⟩
  undone t ht := by
    obtain ⟨settings, rfl⟩ := h.mqtt t ht
    trivial

theorem of_run (h : w.New) (hr : Relation.ReflTransGen (Step true) (w, {}) (w', k')) :
    w'.Owns k' := by
  suffices ∀ x, Relation.ReflTransGen (Step true) (w, {}) x → x.1.Sound ∧ x.1.Owns x.2 from
    (this _ hr).2
  intro x hr
  induction hr with
  | refl => exact ⟨.of_new h, of_new h⟩
  | tail _ hstep ih => exact ⟨ih.1.step hstep, ih.2.step ih.1 hstep⟩

/-- When all tasks are over, nothing is outstanding. -/
theorem nothing_left (h : w.Owns k) (hs : w.Sound) (hup : w.Up k)
    (hl : ∀ kind l, w.link kind = some l → l.point = .finished)
    (hb : ∀ b, w.bridge = some b → b.point = .finished)
    (ht : ∀ t, w.mqtt = some t → t.point = .finished) :
    k = {} ∧ w.session = false ∧ w.out = none := by
  have hmodemUp : k.modemUp = false := by
    rw [hup.modem]
    cases hlink : w.link .cellular with
    | none => rfl
    | some l => simp [Link.isReady, hl _ _ hlink]
  have hsession : w.session = false := by
    refine Bool.eq_false_iff.mpr fun hsession => ?_
    obtain ⟨l, hlink, hmay⟩ := h.session hsession
    simp [Link.MayHold, hl _ _ hlink] at hmay
  have hwifi : k.wifiConnected = false := by
    refine Bool.eq_false_iff.mpr fun hk => ?_
    obtain ⟨l, hlink, hholds⟩ := h.wifi hk
    have hp := hl _ _ hlink
    have hsound := hs.link _ _ hlink
    simp only [Link.Sound, hp] at hsound
    simp [Link.Holds, hp, hsound] at hholds
  obtain ⟨herrand, hout, hsessions⟩ :
      w.errand .bridge = none ∧ w.out = none ∧ k.sessions = [] := by
    cases hbridge : w.bridge with
    | none =>
      obtain ⟨herrand, hout⟩ := hs.noLease hbridge
      exact ⟨herrand, hout, by rw [h.sessions, hbridge]; rfl⟩
    | some b =>
      have hp := hb b hbridge
      have hsound := hs.bridge b hbridge
      simp only [Bridge.Sound, hp] at hsound
      have hon := hs.lease b hbridge
      cases he : w.errand .bridge with
      | some e =>
        rw [he] at hon
        rcases hon.place with ⟨port, hp'⟩ | hp' | ⟨next, hp'⟩ <;> cases hp.symm.trans hp'
      | none =>
        rw [he] at hon
        refine ⟨rfl, Eq.trans hon hsound.2, ?_⟩
        rw [h.sessions, hbridge]
        simp [Bridge.openSessions, Bridge.openHandle, hp, hsound.1]
  have hmodemOpen : k.modemOpen = false := by
    refine Bool.eq_false_iff.mpr fun hk => ?_
    obtain ⟨a, ha, howned⟩ := h.modem hk
    rw [Crew.out, ha] at hout
    rw [herrand] at howned
    have := howned.session hout (by simp) (by simp)
    simp [Crew.session, ha, this] at hsession
  obtain ⟨hcup, hccreated, hcconnected⟩ :
      k.clientUp = false ∧ k.clientCreated = false ∧ k.clientConnected = false := by
    cases hmqtt : w.mqtt with
    | none => exact h.noClient hmqtt
    | some t =>
      obtain ⟨hup', hc, hn⟩ := h.client t hmqtt
      have hundone := h.undone t hmqtt
      simp only [Mqtt.Undone, ht t hmqtt] at hundone
      obtain ⟨⟨hready, hcreated, hconnected, -⟩, -⟩ := hundone
      exact ⟨hup'.trans hready, hc.trans hcreated, hn.trans hconnected⟩
  refine ⟨?_, hsession, hout⟩
  cases k
  simp_all

end Owns

/-- What the broker task has undone does not depend on what fails. -/
theorem undone_of_run {tidy : Bool} (h : w.New)
    (hr : Relation.ReflTransGen (Step tidy) (w, k) (w', k')) :
    ∀ t, w'.mqtt = some t → t.Undone := by
  suffices ∀ x, Relation.ReflTransGen (Step tidy) (w, k) x → ∀ t, x.1.mqtt = some t → t.Undone from
    this _ hr
  intro x hr
  induction hr with
  | refl => exact (Owns.of_new h).undone
  | tail _ hstep ih =>
    cases hstep with
    | mqtt hm ha _ =>
      rintro _ ⟨⟩
      exact Mqtt.undone_own.mpr (ha.undone (Mqtt.undone_own.mp (ih _ hm)))
    | _ => exact ih

end Crew

end EdgeGateway
