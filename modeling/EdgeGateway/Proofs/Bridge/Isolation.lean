import EdgeGateway.Proofs.Bridge.Handling
import EdgeGateway.Proofs.Cues

/-!
# EdgeGateway.Proofs.Bridge.Isolation

What came before a session does not show in it (`Service.session_isolated`).

* `Service.Cue`   : what comes to the service, or is its own to do next, and `Service.act` what
  becomes of it. The steps of the service are these and no others (`Service.step_iff_act`).
* `Service.heard` : what the card and the client get to hear while the session lasts.
* `Bridge.face`   : the bridge but for its lease. In a session it goes by nothing else.
* `Service.Opened` : the card has just opened a session.
-/

namespace EdgeGateway

namespace Bridge

/-- The bridge but for its lease. -/
def face (b : Bridge) : Bridge := { b with leases := false, lease := none }

variable {b : Bridge}

theorem openHandle_face : b.face.openHandle = b.openHandle := rfl

theorem request_face (h : b.Sound) (ho : b.openHandle ≠ 0) : b.face.request = b.request := by
  cases hp : b.point with
  | returning | releasing next =>
    simp only [Sound, hp] at h
    simp [openHandle, hp, h] at ho
  | _ => simp only [request, face, hp]

theorem closeSession_face (next : Next) :
    (b.face.closeSession next).face = (b.closeSession next).face := by
  unfold closeSession
  by_cases hz : b.handle = 0 <;> simp only [face, hz, if_true, if_false, goto]

theorem openSession_face (hz : b.handle ≠ 0) (value : Bytes) :
    (b.face.openSession value).face = (b.openSession value).face := by
  have hport : b.face.portName? value = b.portName? value := rfl
  unfold openSession
  rw [hport]
  cases b.portName? value with
  | none => rfl
  | some port => simp only [face, goto, ne_eq, hz, not_false_eq_true, if_true]

theorem closeFor_face (value : Bytes) : (b.face.closeFor value).face = (b.closeFor value).face := by
  unfold closeFor
  split
  · dsimp only
    have hh : b.face.handle = b.handle := rfl
    rw [hh]
    split
    · rfl
    · exact closeSession_face .serve
  · rfl

theorem collect_face (value : Bytes) : (b.face.collect value).face = (b.collect value).face := by
  unfold collect
  have hh : b.face.handle = b.handle := rfl
  have hr : b.face.reassembler = b.reassembler := rfl
  rw [hh, hr]
  split
  · rfl
  · split
    · rfl
    · dsimp only
      split
      · rfl
      · rfl
      · rfl
      · rfl
      · split <;> rfl

theorem receive_face (hz : b.handle ≠ 0) (m : BridgeMessage) :
    (b.face.receive m).face = (b.receive m).face := by
  cases m with
  | disconnected => exact closeSession_face .advertise
  | openPort value => exact openSession_face hz value
  | closePort value => exact closeFor_face value
  | transreceive value => exact collect_face value
  | shutdown => exact closeSession_face .exit

theorem respond_face (response : Bytes) (capacity : Nat) :
    (b.face.respond response capacity).face = (b.respond response capacity).face := by
  unfold respond
  split <;> rfl

theorem resume_face (h : b.Sound) (ho : b.openHandle ≠ 0) (r : Reply) :
    (b.face.resume r).face = (b.resume r).face := by
  have hh : b.face.point = b.point := rfl
  cases hp : b.point with
  | returning | releasing next | acquiring port | opening port =>
    simp only [Sound, hp] at h
    simp [openHandle, hp, h] at ho
  | receiving =>
    have hz : b.handle ≠ 0 := by simpa only [openHandle, hp] using ho
    rw [hp] at hh
    simp only [resume, hp, hh]
    cases r with
    | message m => exact receive_face hz m
    | hungUp => exact closeSession_face .exit
    | _ => rfl
  | acknowledging command =>
    rw [hp] at hh
    cases command <;> simp only [resume, hp, hh] <;> rfl
  | answering response =>
    rw [hp] at hh
    cases r with
    | view capacity subscribed =>
      cases capacity <;> cases subscribed <;> simp only [resume, hp, hh]
      case some.true => exact respond_face response _
      all_goals rfl
    | _ => simp only [resume, hp, hh]; rfl
  | notifying chunk rest =>
    rw [hp] at hh
    cases rest with
    | nil => simp only [resume, hp, hh]; rfl
    | cons next rest =>
      cases r with
      | flag sent => cases sent <;> simp only [resume, hp, hh] <;> rfl
      | _ => simp only [resume, hp, hh]; rfl
  | _ =>
    rw [hp] at hh
    cases r <;> simp only [resume, hp, hh] <;> rfl

/-- Two bridges of one face make the same request, and one reply leaves them with one face. -/
theorem same_of_face {b₁ b₂ : Bridge} (h₁ : b₁.Sound) (h₂ : b₂.Sound) (hf : b₁.face = b₂.face)
    (ho : b₁.openHandle ≠ 0) : b₁.request = b₂.request ∧
      ∀ r, (b₁.resume r).face = (b₂.resume r).face := by
  have ho₂ : b₂.openHandle ≠ 0 := by rwa [← openHandle_face, ← hf, openHandle_face]
  refine ⟨?_, fun r => ?_⟩
  · rw [← request_face h₁ ho, ← request_face h₂ ho₂, hf]
  · rw [← resume_face h₁ ho, ← resume_face h₂ ho₂, hf]

theorem point_of_openPort {port : String} (h : b.request = .openPort port) :
    b.point = .opening port := by
  cases hp : b.point with
  | opening port' =>
    simp only [request, hp, Request.openPort.injEq] at h
    rw [h]
  | returning | releasing next => simp only [request, hp] at h; split at h <;> cases h
  | _ => simp only [request, hp] at h; cases h

/-! ## The buffer keeps its size -/

def Sized (b : Bridge) : Prop := b.reassembler.capacity = b.settings.reassemblyCapacity

theorem capacity_push (r : Chunk.Reassembler) (i : Chunk.Indicator) (data : Bytes) :
    (r.push i data).1.capacity = r.capacity := by
  unfold Chunk.Reassembler.push
  dsimp only
  repeat' split
  all_goals rfl

theorem Sized.closeSession (h : b.Sized) (next : Next) : (b.closeSession next).Sized := by
  unfold Bridge.closeSession
  split <;> exact h

theorem Sized.collect (h : b.Sized) (value : Bytes) : (b.collect value).Sized := by
  unfold Bridge.collect
  split
  · exact h
  · split
    · exact h
    · rename_i chunk _ _
      have hpush : (b.reassembler.push chunk.indicator chunk.data).1.capacity =
          b.settings.reassemblyCapacity := (capacity_push ..).trans h
      dsimp only
      split
      · exact hpush
      · exact hpush
      · exact hpush
      · exact hpush
      · split <;> exact hpush

theorem Sized.receive (h : b.Sized) (m : BridgeMessage) : (b.receive m).Sized := by
  cases m with
  | disconnected => exact h.closeSession .advertise
  | openPort value =>
    have ht := b.takes_openPort value
    simp only [Bridge.receive]
    generalize b.openSession value = b' at ht
    cases ht with
    | opens _ _ | ignores => exact h
  | closePort value =>
    have ht := b.takes_closePort value
    simp only [Bridge.receive]
    generalize b.closeFor value = b' at ht
    cases ht with
    | closes _ _ => exact h.closeSession .serve
    | ignores => exact h
  | transreceive value => exact h.collect value
  | shutdown => exact h.closeSession .exit

theorem Sized.turn {q : Request} {r : Reply} {b' : Bridge} (h : b.Sized) (ht : Turn b q r b') :
    b'.Sized := by
  cases ht with
  | answered _ =>
    rcases b.respond_cases _ _ with he | ⟨chunk, rest, he⟩ <;> rw [he] <;> exact h
  | @released next _ => cases next <;> exact h
  | _ => exact h

/-! ## Replies -/

/-- The reply is one the request can get. -/
def fits : Request → Reply → Bool
  | .proceed, .done | .advertise, .done | .advertise, .failed | .askAdvertising, .flag _
  | .acquire _, .leased _ | .acquire _, .failed | .release _, .done | .openPort _, .handle _
  | .openPort _, .failed | .closePort _, .done | .closePort _, .failed | .exchange _ _, .data _
  | .exchange _ _, .failed | .push _ _, .flag _ | .inspect, .view _ _ | .sleep _, .done => true
  | _, _ => false

theorem fits_iff {q : Request} {r : Reply} : fits q r = true ↔ Fits q r := by
  constructor
  · intro h
    cases q <;> cases r <;> first | constructor | cases h
  · intro h
    cases h <;> rfl

end Bridge

namespace Service

/-- What comes to the service from elsewhere, or is its own to do next. -/
inductive Cue where
  /-- the card, the arbiter or the radio answers, or a pause is over -/
  | reply (r : Bridge.Reply)
  | inspect
  | store
  | told (sent : Bool)
  | receive
  | hangUp
  | event (e : GattEvent)
  | publish (handle : UInt16) (value : Bytes)
  | post (m : BridgeMessage)
  deriving DecidableEq

/-- What becomes of the service; none if the cue is not for it as it is. -/
def act (w : Service) : Cue → Option Service
  | .reply r =>
    if Bridge.fits w.bridge.request r && w.bridge.request.isOuter then some (w.replied r) else none
  | .inspect =>
    if w.bridge.request = .inspect then
      some (w.replied
        (.view w.gatt.responseCapacity? (w.gatt.canNotify Handle.transreceiveValue)))
    else none
  | .store =>
    match w.bridge.request, w.stored with
    | .push handle value, false => some { w.push handle value with stored := true }
    | _, _ => none
  | .told sent =>
    match w.bridge.request, w.stored with
    | .push _ _, true => some (w.replied (.flag sent))
    | _, _ => none
  | .receive =>
    if w.bridge.request = .receive then
      w.bridge.inbox.take?.map fun (m, inbox) =>
        { w with bridge.inbox := inbox }.replied (.message m)
    else none
  | .hangUp =>
    if w.bridge.request = .receive ∧ w.bridge.inbox.items = [] then some (w.replied .hungUp)
    else none
  | .event e => some { w with gatt := (w.gatt.handle e).1 }
  | .publish handle value =>
    if handle = Handle.sessionValue then none else some (w.push handle value)
  | .post m =>
    (w.bridge.inbox.offer w.bridge.isReceiving m).map fun inbox =>
      { w with bridge.inbox := inbox }

theorem step_of_act {w w' : Service} {c : Cue} (h : w.act c = some w') : Step w w' := by
  cases c with
  | reply r =>
    simp only [act] at h
    split at h <;> cases h
    rename_i hr
    obtain ⟨hf, ho⟩ := Bool.and_eq_true_iff.mp hr
    exact .move (.reply (Bridge.fits_iff.mp hf) ho)
  | inspect =>
    simp only [act] at h
    split at h <;> cases h
    exact .move (.inspect ‹_›)
  | store =>
    simp only [act] at h
    split at h <;> cases h
    exact .move (.store ‹_› ‹_›)
  | told sent =>
    simp only [act] at h
    split at h <;> cases h
    exact .move (.told sent ‹_› ‹_›)
  | receive =>
    simp only [act] at h
    split at h
    · obtain ⟨⟨m, inbox⟩, ht, rfl⟩ := Option.map_eq_some_iff.mp h
      exact .move (.receive ‹_› ht)
    · cases h
  | hangUp =>
    simp only [act] at h
    split at h <;> cases h
    rename_i hr
    exact .move (.hangUp hr.1 hr.2)
  | event e =>
    cases h
    exact .event e
  | publish handle value =>
    simp only [act] at h
    split at h <;> cases h
    exact .push value ‹_›
  | post m =>
    obtain ⟨inbox, hi, rfl⟩ := Option.map_eq_some_iff.mp h
    exact .post hi

/-- Every step is on some cue. -/
theorem step_iff_act {w w' : Service} : Step w w' ↔ ∃ c, w.act c = some w' := by
  refine ⟨fun h => ?_, fun ⟨c, h⟩ => step_of_act h⟩
  cases h with
  | move hm =>
    cases hm with
    | @reply r hf ho =>
      exact ⟨.reply r, by simp only [act, Bridge.fits_iff.mpr hf, ho, Bool.and_true, if_true]⟩
    | inspect hq => exact ⟨.inspect, by simp only [act, hq, if_true]⟩
    | store hq hs => exact ⟨.store, by simp only [act, hq, hs]⟩
    | told sent hq hs => exact ⟨.told sent, by simp only [act, hq, hs]⟩
    | receive hq ht => exact ⟨.receive, by simp only [act, hq, ht, if_true, Option.map_some]⟩
    | hangUp hq hi => exact ⟨.hangUp, by simp only [act, hq, hi, and_self, if_true]⟩
  | event e => exact ⟨.event e, rfl⟩
  | @push handle value hne => exact ⟨.publish handle value, by simp only [act, hne, if_false]⟩
  | @post m inbox hi => exact ⟨.post m, by simp only [act, hi, Option.map_some]⟩

/-! ## Two services in a session -/

/-- What the card is asked, and what goes out to the client. -/
inductive Effect where
  | exchange (handle : UInt32) (command : Bytes)
  | closePort (handle : UInt32)
  | notify (n : Notification)
  deriving DecidableEq

/-- The call that the card is about to answer. -/
def asked (w : Service) : List Effect :=
  match w.bridge.request with
  | .exchange handle command => [.exchange handle command]
  | .closePort handle => [.closePort handle]
  | _ => []

def effects (w : Service) : Cue → List Effect
  | .reply _ => w.asked
  | .store =>
    match w.bridge.request with
    | .push handle value => ((w.gatt.push handle value).2.map .notify).toList
    | _ => []
  | .publish handle value => ((w.gatt.push handle value).2.map .notify).toList
  | _ => []

/-- All effects of some cues, one after the other, as long as the card has a session open. A cue
that is not for the service is passed over; a call under way in the end counts. -/
def heard (w : Service) : List Cue → List Effect
  | [] => if w.bridge.openHandle = 0 then [] else w.asked
  | c :: cues =>
    if w.bridge.openHandle = 0 then []
    else match w.act c with
      | some w' => w.effects c ++ w'.heard cues
      | none => w.heard cues

/-- The services differ in their leases and in what has been before. -/
structure Twins (w₁ w₂ : Service) : Prop where
  bridge : w₁.bridge.face = w₂.bridge.face
  gatt : w₁.gatt = w₂.gatt
  stored : w₁.stored = w₂.stored

namespace Twins

variable {w₁ w₂ : Service} {leases₁ leases₂ : Bool}

theorem push (h : Twins w₁ w₂) (handle : UInt16) (value : Bytes) :
    Twins (w₁.push handle value) (w₂.push handle value) :=
  ⟨h.bridge, by simp only [Service.push, h.gatt], h.stored⟩

theorem effects (h : Twins w₁ w₂) (hq : w₁.bridge.request = w₂.bridge.request) (c : Cue) :
    w₁.effects c = w₂.effects c := by
  cases c <;> simp only [Service.effects, asked, hq, h.gatt]

theorem inbox (h : Twins w₁ w₂) (inbox : Inbox BridgeMessage) :
    Twins { w₁ with bridge.inbox := inbox } { w₂ with bridge.inbox := inbox } :=
  ⟨congrArg (fun b => { b with inbox }) h.bridge, h.gatt, h.stored⟩

theorem resume (h : Twins w₁ w₂) (h₁ : w₁.Sound leases₁) (h₂ : w₂.Sound leases₂)
    (ho : w₁.bridge.openHandle ≠ 0) (r : Bridge.Reply) : Twins (w₁.replied r) (w₂.replied r) :=
  ⟨(Bridge.same_of_face h₁.bridge h₂.bridge h.bridge ho).2 r, h.gatt, rfl⟩

/-- A cue is for both or for none, and leaves them twins. -/
theorem act (h : Twins w₁ w₂) (h₁ : w₁.Sound leases₁) (h₂ : w₂.Sound leases₂)
    (ho : w₁.bridge.openHandle ≠ 0) (c : Cue) : Option.Rel Twins (w₁.act c) (w₂.act c) := by
  have hq := (Bridge.same_of_face h₁.bridge h₂.bridge h.bridge ho).1
  have hinbox : w₁.bridge.inbox = w₂.bridge.inbox := (congrArg Bridge.inbox h.bridge :)
  have hwaits : w₁.bridge.isReceiving = w₂.bridge.isReceiving :=
    (congrArg Bridge.isReceiving h.bridge :)
  cases c with
  | reply r =>
    simp only [Service.act, hq]
    split
    · exact .some (h.resume h₁ h₂ ho r)
    · exact .none
  | inspect =>
    simp only [Service.act, hq, h.gatt]
    split
    · exact .some (h.resume h₁ h₂ ho _)
    · exact .none
  | store =>
    simp only [Service.act, hq, h.stored]
    split
    · rename_i handle value _ _
      exact .some ⟨h.bridge, (h.push handle value).gatt, rfl⟩
    · exact .none
  | told sent =>
    simp only [Service.act, hq, h.stored]
    split
    · exact .some (h.resume h₁ h₂ ho _)
    · exact .none
  | receive =>
    simp only [Service.act, hq, hinbox]
    split
    · cases w₂.bridge.inbox.take? with
      | none => exact .none
      | some taken =>
        obtain ⟨m, inbox⟩ := taken
        exact .some ((h.inbox inbox).resume (h₁.inbox inbox) (h₂.inbox inbox) ho (.message m))
    · exact .none
  | hangUp =>
    simp only [Service.act, hq, hinbox]
    split
    · exact .some (h.resume h₁ h₂ ho .hungUp)
    · exact .none
  | event e => exact .some ⟨h.bridge, by rw [h.gatt], h.stored⟩
  | publish handle value =>
    simp only [Service.act]
    split
    · exact .none
    · exact .some (h.push handle value)
  | post m =>
    simp only [Service.act, hinbox, hwaits]
    cases w₂.bridge.inbox.offer _ m with
    | none => exact .none
    | some inbox => exact .some (h.inbox inbox)

theorem heard (h : Twins w₁ w₂) (h₁ : w₁.Sound leases₁) (h₂ : w₂.Sound leases₂)
    (cues : List Cue) : w₁.heard cues = w₂.heard cues := by
  induction cues generalizing w₁ w₂ with
  | nil =>
    have ho : w₁.bridge.openHandle = w₂.bridge.openHandle :=
      (congrArg Bridge.openHandle h.bridge :)
    simp only [Service.heard, ho]
    split
    · rfl
    · rename_i hz
      have hq := (Bridge.same_of_face h₁.bridge h₂.bridge h.bridge (ho ▸ hz)).1
      simp only [asked, hq]
  | cons c cues ih =>
    have ho : w₁.bridge.openHandle = w₂.bridge.openHandle :=
      (congrArg Bridge.openHandle h.bridge :)
    simp only [Service.heard, ho]
    split
    · rfl
    · rename_i hz
      have hz₁ : w₁.bridge.openHandle ≠ 0 := ho ▸ hz
      have hq := (Bridge.same_of_face h₁.bridge h₂.bridge h.bridge hz₁).1
      have hrel := h.act h₁ h₂ hz₁ c
      cases ha₁ : w₁.act c <;> cases ha₂ : w₂.act c <;> rw [ha₁, ha₂] at hrel <;> cases hrel
      · exact ih h h₁ h₂
      · rename_i h'
        have hrest := ih h' (h₁.step (step_of_act ha₁)) (h₂.step (step_of_act ha₂))
        simp only [h.effects hq c, hrest]

end Twins

theorem Step.sized {w w' : Service} (h : w.bridge.Sized) (hs : Step w w') : w'.bridge.Sized := by
  cases hs with
  | move hm =>
    cases hm with
    | reply hf _ => exact h.turn (Bridge.turn_of_fits hf)
    | inspect hq => exact h.turn (Bridge.turn_of_fits (by rw [hq]; exact .inspect))
    | told sent hq _ => exact h.turn (Bridge.turn_of_fits (by rw [hq]; exact .push))
    | store _ _ => exact h
    | @receive m inbox hq _ =>
      have hr := Bridge.resume_message (b := { w.bridge with inbox }) hq m
      simp only [replied, hr]
      exact Bridge.Sized.receive (b := { w.bridge with inbox }) h m
    | hangUp hq _ =>
      simp only [replied, Bridge.resume_hungUp hq]
      exact h.closeSession .exit
  | event _ | push _ _ | post _ => exact h

theorem Reachable.sized {leases : Bool} {w : Service} (h : w.Reachable leases) :
    w.bridge.Sized := by
  obtain ⟨settings, capacity, mtu, gatt, -, hsteps⟩ := h
  induction hsteps with
  | refl => rfl
  | tail _ hs ih => exact hs.sized ih

/-- The card has opened a session with the handle, whatever has been before. -/
def Opened (handle : UInt32) (w : Service) : Prop :=
  handle ≠ 0 ∧ ∃ leases port, ∃ w₀ : Service, w₀.Reachable leases ∧
    w₀.bridge.request = .openPort port ∧ w = w₀.replied (.handle handle)

theorem Opened.reachable {handle : UInt32} {w : Service} (h : w.Opened handle) :
    ∃ leases, w.Reachable leases := by
  obtain ⟨-, leases, port, w₀, hw₀, hq, rfl⟩ := h
  have hreply : Move w₀ (w₀.replied (.handle handle)) :=
    .reply (by rw [hq]; exact .openPort) (by rw [hq]; rfl)
  exact ⟨leases, hw₀.steps (.single (.move hreply))⟩

/-- The buffer is empty, and nothing else but the handle is there of a session. -/
theorem Opened.face {handle : UInt32} {w : Service} (h : w.Opened handle) :
    w.stored = false ∧ w.bridge.face =
      { settings := w.bridge.settings
        leases := false
        inbox := w.bridge.inbox
        reassembler := { capacity := w.bridge.settings.reassemblyCapacity }
        handle
        point := .reporting } := by
  obtain ⟨hz, leases, port, w₀, hw₀, hq, rfl⟩ := h
  have hp : w₀.bridge.point = .opening port := Bridge.point_of_openPort hq
  have hb : w₀.bridge.resume (.handle handle) =
      { w₀.bridge with
        handle
        reassembler := w₀.bridge.reassembler.clear
        point := .reporting } := by
    simp only [Bridge.resume, hp, hz, if_false]
  have hsize : w₀.bridge.reassembler.capacity = w₀.bridge.settings.reassemblyCapacity := hw₀.sized
  refine ⟨rfl, ?_⟩
  simp only [replied, hb, Bridge.face, Chunk.Reassembler.clear, hsize]

/-- Whatever has been before, two sessions that have been opened with one handle are the same to
the card and to the client. -/
theorem session_isolated {handle : UInt32} {w₁ w₂ : Service} (h₁ : w₁.Opened handle)
    (h₂ : w₂.Opened handle) (hsettings : w₁.bridge.settings = w₂.bridge.settings)
    (hinbox : w₁.bridge.inbox = w₂.bridge.inbox) (hgatt : w₁.gatt = w₂.gatt) (cues : List Cue) :
    w₁.heard cues = w₂.heard cues := by
  obtain ⟨hs₁, hf₁⟩ := h₁.face
  obtain ⟨hs₂, hf₂⟩ := h₂.face
  obtain ⟨leases₁, hr₁⟩ := h₁.reachable
  obtain ⟨leases₂, hr₂⟩ := h₂.reachable
  have htwins : Twins w₁ w₂ := ⟨by rw [hf₁, hf₂, hsettings, hinbox], hgatt, hs₁.trans hs₂.symm⟩
  exact htwins.heard (Sound.reach hr₁) (Sound.reach hr₂) cues

/-- A message is posted and taken. -/
def Cue.bring (m : BridgeMessage) : List Cue := [.post m, .receive]

/-- A client has opened a session, written a chunk and closed the session again; another one asks
for a session. `exchanged` is what the card has to say to the first one. -/
def reused (chunk : Bytes) (exchanged : List Cue) : Service :=
  let gatt : Gatt := { table := ⟨Gatt.layout 512⟩, transreceiveCapacity := 512, localMtu := 512 }
  let start : Service := { bridge := .ofSettings {} true, gatt }
  play act start ([.reply (.flag true)] ++ Cue.bring (.openPort [65]) ++
    [.reply (.leased 1), .reply (.handle 7), .store, .told false] ++
    Cue.bring (.transreceive chunk) ++ [.store, .told false] ++ exchanged ++
    Cue.bring (.closePort [7, 0, 0, 0]) ++ [.reply .done, .store, .told false, .reply .done] ++
    Cue.bring (.openPort [65]) ++ [.reply (.leased 2)])

theorem opened_of_reused {chunk : Bytes} {exchanged : List Cue} {port : String}
    (hq : (reused chunk exchanged).bridge.request = .openPort port) :
    ((reused chunk exchanged).replied (.handle 7)).Opened 7 := by
  have hrun := run_of_play act fun _ _ _ => step_of_act
  exact ⟨by decide, true, port, _, ⟨{}, 512, 512, _, rfl, hrun _ _⟩, hq, rfl⟩

/-- In one history the first client has left half a command behind, in the other a whole one that
the card could not be asked. The next client exchanges a command of its own, and is answered. -/
theorem session_isolated_after_partial : ∃ w₁ w₂ : Service, w₁.Opened 7 ∧ w₂.Opened 7 ∧
    w₁.log ≠ w₂.log ∧ (∀ cues, w₁.heard cues = w₂.heard cues) ∧
    w₂.heard ([.store, .told false, .event (.connected 1 [1, 2, 3, 4, 5, 6]),
        .event (.request (.write 0x2f [1, 0]))] ++
      Cue.bring (.transreceive [7, 0, 0, 0, 0, 1, 0xc6]) ++
      [.store, .told false, .reply (.data [0x90, 0]), .inspect, .store]) =
      [.exchange 7 [0xc6], .notify ⟨1, Handle.transreceiveValue, [0, 2, 0x90, 0]⟩] := by
  have h₁ : ((reused [7, 0, 0, 0, 1, 2, 0xa4, 0] []).replied (.handle 7)).Opened 7 :=
    opened_of_reused (show _ = Bridge.Request.openPort "A" by decide)
  have h₂ : ((reused [7, 0, 0, 0, 0, 1, 0xb5] [.reply .failed]).replied (.handle 7)).Opened 7 :=
    opened_of_reused (show _ = Bridge.Request.openPort "A" by decide)
  refine ⟨_, _, h₁, h₂, by decide, ?_, by decide +kernel⟩
  exact session_isolated h₁ h₂ (by decide) (by decide) (by decide)

end Service

end EdgeGateway
