import EdgeGateway.Proofs.Bridge.Turn

/-!
# EdgeGateway.Proofs.Bridge.Sound

What the modem bridge has at each point: a session, the lease that goes with it, neither, or the
lease alone.

* `Bridge.Sound` : what holds at the point.
* `Bridge.openAfter`, `Bridge.heldAfter` : what a request and its reply say of sessions and leases.
* `Bridge.Keeps` : the bridge stays sound and its handle and lease are those the request and the
  reply account for. Every turn (`keeps_of_turn`) and every message (`keeps_of_takes`) keeps it so.
-/

namespace EdgeGateway

namespace Bridge

/-- There is a lease exactly if there is a session and leases are needed. -/
def Matched (b : Bridge) : Prop := b.lease.isSome = true ↔ b.leases = true ∧ b.handle ≠ 0

def Sound (b : Bridge) : Prop :=
  match b.point with
  | .checking | .advertising | .receiving | .reporting => b.Matched
  | .acquiring _ => b.handle = 0 ∧ b.lease = none ∧ b.leases = true
  | .opening _ | .clearing _ => b.handle = 0 ∧ b.lease.isSome = b.leases
  | .closing h _ => b.handle = 0 ∧ h ≠ 0 ∧ b.lease.isSome = b.leases
  | .returning | .releasing _ => b.handle = 0
  | .acknowledging _ | .exchanging _ | .answering _ | .notifying _ _ | .pausing _ _ =>
    b.handle ≠ 0 ∧ b.lease.isSome = b.leases
  | .finished => b.handle = 0 ∧ b.lease = none

/-- The handle of the session that is open at the card, zero if there is none. The bridge has
given up its own handle before it closes the session. -/
def openHandle (b : Bridge) : UInt32 :=
  match b.point with
  | .closing h _ => h
  | _ => b.handle

def openSessions (b : Bridge) : List UInt32 := if b.openHandle = 0 then [] else [b.openHandle]

/-- What is open at the card after one more request has been answered. A session that the card
fails to close is over as well. -/
def openAfter (sessions : List UInt32) : Request × Reply → List UInt32
  | (.openPort _, .handle h) => if h = 0 then sessions else h :: sessions
  | (.closePort h, _) => sessions.erase h
  | _ => sessions

/-- The leases that are held after one more request has been answered. -/
def heldAfter (leases : List Nat) : Request × Reply → List Nat
  | (.acquire _, .leased id) => id :: leases
  | (.release id, _) => leases.erase id
  | _ => leases

/-- What a reply or a message leaves as it should be. -/
structure Keeps (b : Bridge) (q : Request) (r : Reply) (b' : Bridge) : Prop where
  sound : b'.Sound
  leases : b'.leases = b.leases
  sessions : b'.openSessions = openAfter b.openSessions (q, r)
  held : b'.lease.toList = heldAfter b.lease.toList (q, r)
  handle : b'.isPublishing = false → b'.handle = b.handle

variable {b b' : Bridge} {q : Request} {r : Reply}

@[simp] theorem goto_matched (b : Bridge) (p : Point) : (b.goto p).Matched ↔ b.Matched := Iff.rfl

theorem Matched.isSome_lease (h : b.Matched) (hz : b.handle ≠ 0) : b.lease.isSome = b.leases :=
  Bool.eq_iff_iff.mpr (Iff.trans h (and_iff_left hz))

theorem Matched.lease_eq_none (h : b.Matched) (hz : b.handle = 0) : b.lease = none :=
  Option.not_isSome_iff_eq_none.mp fun hl => (h.mp hl).2 hz

theorem openSessions_of_eq (h : b'.openHandle = b.openHandle) :
    b'.openSessions = b.openSessions := by
  rw [openSessions, openSessions, h]

/-- The bridge goes to another point, and neither the card nor the arbiter was asked. -/
theorem Keeps.quiet {p : Point} (hs : (b.goto p).Sound) (hp : (b.goto p).openHandle = b.openHandle)
    (ho : ∀ sessions, openAfter sessions (q, r) = sessions)
    (hh : ∀ leases, heldAfter leases (q, r) = leases) : Keeps b q r (b.goto p) where
  sound := hs
  leases := rfl
  sessions := (openSessions_of_eq hp).trans (ho _).symm
  held := (hh _).symm
  handle _ := rfl

theorem respond_cases (b : Bridge) (response : Bytes) (capacity : Nat) :
    b.respond response capacity = b.goto .receiving ∨
      ∃ chunk rest, b.respond response capacity = b.goto (.notifying chunk rest) := by
  unfold respond
  split
  · exact .inl rfl
  · exact .inr ⟨_, _, rfl⟩

theorem openAfter_of_notOpened {port : String} (hr : r = .failed ∨ r = .handle 0)
    (sessions : List UInt32) : openAfter sessions (.openPort port, r) = sessions := by
  rcases hr with rfl | rfl <;> rfl

theorem openAfter_giveBack (b : Bridge) (sessions : List UInt32) :
    openAfter sessions (b.giveBack, .done) = sessions := by
  unfold giveBack
  cases b.lease <;> rfl

theorem heldAfter_giveBack (b : Bridge) : heldAfter b.lease.toList (b.giveBack, .done) = [] := by
  unfold giveBack
  cases b.lease with
  | none => rfl
  | some id => exact List.erase_cons_head id []

theorem keeps_of_turn (h : b.Sound) (ht : Turn b q r b') : Keeps b q r b' := by
  cases ht with
  -- neither the card nor the arbiter is asked
  | @checked on hp =>
    cases on <;> refine .quiet ?_ ?_ (fun _ => rfl) fun _ => rfl
    all_goals simp_all [openHandle, Sound]
  | advertised hp | reported hp | cleared hp | notExchanged hp | exchanged hp | unheard hp
  | paused hp | endOfBurst hp _ | notLeased hp =>
    refine .quiet ?_ ?_ (fun _ => rfl) fun _ => rfl
    · simp_all [Sound, Matched]
    · simp [openHandle, hp]
  | @acknowledged command _ hp =>
    cases command <;> refine .quiet ?_ ?_ (fun _ => rfl) fun _ => rfl
    all_goals simp_all [openHandle, Sound, Matched]
  | notified hp =>
    split <;> refine .quiet ?_ ?_ (fun _ => rfl) fun _ => rfl
    all_goals simp_all [openHandle, Sound]
  | answered hp =>
    rcases b.respond_cases _ _ with he | ⟨chunk, rest, he⟩ <;> rw [he]
    all_goals
      refine .quiet ?_ ?_ (fun _ => rfl) fun _ => rfl
      · simp_all [Sound, Matched]
      · simp [openHandle, hp]
  -- a lease, then a session, or no session and no lease
  | @leased port id hp =>
    simp only [Sound, hp] at h
    obtain ⟨hz, hl, hls⟩ := h
    exact {
      sound := ⟨hz, hls.symm⟩
      leases := rfl
      sessions := openSessions_of_eq (by simp [openHandle, hp])
      held := by simp [heldAfter, hl]
      handle := fun _ => rfl }
  | @opened port h' hp hz' =>
    simp only [Sound, hp] at h
    obtain ⟨hz, hl⟩ := h
    exact {
      sound := by simp [Sound, Matched, hl, hz']
      leases := rfl
      sessions := by simp [openSessions, openHandle, openAfter, hp, hz, hz']
      held := rfl
      handle := nofun }
  | notOpened hp hr =>
    simp only [Sound, hp] at h
    obtain ⟨hz, hl⟩ := h
    refine .quiet ?_ ?_ (openAfter_of_notOpened hr) ?_
    · split
      · exact hz
      · simp_all [Sound, Matched]
    · split <;> simp [openHandle, hp]
    · rcases hr with rfl | rfl <;> exact fun _ => rfl
  | returned hp =>
    simp only [Sound, hp] at h
    exact {
      sound := by simp [Sound, Matched, h]
      leases := rfl
      sessions := (openSessions_of_eq (by simp [openHandle, hp])).trans
        (b.openAfter_giveBack _).symm
      held := b.heldAfter_giveBack.symm
      handle := nofun }
  | @closed h' next r hp =>
    simp only [Sound, hp] at h
    obtain ⟨hz, hz', hl⟩ := h
    exact {
      sound := ⟨hz, hl⟩
      leases := rfl
      sessions := by simp [openSessions, openHandle, openAfter, hp, hz, hz']
      held := rfl
      handle := nofun }
  | @released next hp =>
    simp only [Sound, hp] at h
    exact {
      sound := by cases next <;> simp [Sound, Matched, afterSession, h]
      leases := by cases next <;> rfl
      sessions := by
        rw [b.openAfter_giveBack]
        exact openSessions_of_eq (by cases next <;> simp [openHandle, afterSession, hp])
      held := by
        rw [b.heldAfter_giveBack]
        cases next <;> rfl
      handle := fun _ => by cases next <;> rfl }

/-- The session, if there is one, is about to be closed. -/
theorem keeps_closeSession (h : b.Matched) (hp : b.point = .receiving) (next : Next)
    (ho : ∀ sessions, openAfter sessions (q, r) = sessions)
    (hh : ∀ leases, heldAfter leases (q, r) = leases) : Keeps b q r (b.closeSession next) := by
  unfold closeSession
  split
  · rename_i hz
    exact .quiet hz (by simp [openHandle, hp]) ho hh
  · rename_i hz
    exact {
      sound := ⟨rfl, hz, h.isSome_lease hz⟩
      leases := rfl
      sessions := (openSessions_of_eq (by simp [openHandle, hp])).trans (ho _).symm
      held := (hh _).symm
      handle := nofun }

theorem keeps_of_takes (h : b.Sound) (hp : b.point = .receiving) (ht : Takes b r b') :
    Keeps b .receive r b' := by
  have h : b.Matched := by simpa only [Sound, hp] using h
  cases ht with
  | gone | told | hungUp | closes _ _ =>
    exact keeps_closeSession h hp _ (fun _ => rfl) fun _ => rfl
  | opens hz _ =>
    refine .quiet ?_ ?_ (fun _ => rfl) fun _ => rfl
    · have hl := h.lease_eq_none hz
      split <;> simp_all [Sound]
    · split <;> simp [openHandle, hp]
  | @collects value reassembler p hz hc =>
    have hl := h.isSome_lease hz
    exact {
      sound := by cases hc <;> first | exact h | exact ⟨hz, hl⟩
      leases := rfl
      sessions := openSessions_of_eq (by cases hc <;> simp [openHandle, hp])
      held := rfl
      handle := fun _ => rfl }
  | ignores => exact .quiet h (by simp [openHandle, hp]) (fun _ => rfl) fun _ => rfl

/-- Only a push takes the bridge from where the handle is about to be published. -/
theorem Turn.isPublishing_eq (ht : Turn b q r b') (hq : ∀ handle value, q ≠ .push handle value)
    (hb : b'.isPublishing = false) : b.isPublishing = false := by
  cases ht with
  | reported _ | cleared _ => exact absurd rfl (hq _ _)
  | closed _ => cases hb
  | _ hp => simp only [isPublishing, hp]

/-- The card is asked with the handle of the open session, while its lease is there. -/
theorem Sound.asks_card (h : b.Sound) {handle : UInt32}
    (hq : b.request = .closePort handle ∨ ∃ command, b.request = .exchange handle command) :
    b.openHandle = handle ∧ handle ≠ 0 ∧ b.lease.isSome = b.leases := by
  rcases hq with hq | ⟨command, hq⟩
  · obtain ⟨next, hp⟩ := asks_of_request hq
    simp only [Sound, hp] at h
    exact ⟨by simp only [openHandle, hp], h.2⟩
  · obtain ⟨rfl, hp⟩ := asks_of_request hq
    simp only [Sound, hp] at h
    exact ⟨by simp only [openHandle, hp], h⟩

end Bridge

end EdgeGateway
