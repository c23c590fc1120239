import EdgeGateway.Proofs.Bridge.Handling
import EdgeGateway.Proofs.Chunk.Response
import EdgeGateway.Proofs.Chunk.Transfer

/-!
# EdgeGateway.Proofs.Bridge.Exchange

A command goes to the card and its response comes back (`Service.exchanges`).

* `Service.Serve`    : the bridge goes on, and the radio stack takes every notification.
* `Service.Delivers` : a client writes chunks one after another, each once the bridge has handled
  the one before.
* `Service.Answered` : what the client and the card have seen of a command in the end.

The proof follows the bridge backwards, from what is to be reached to where it starts: there is
one rule for each kind of request (`settles_push`, `settles_inspect` and so on).
-/

namespace EdgeGateway

/-! ## A client that listens -/

/-- A client is connected and has asked to be told of acknowledgements and of responses. The
characteristic for chunks has room for some data. -/
structure Gatt.Listens (g : Gatt) : Prop where
  laid : g.Laid
  acks : g.canNotify Handle.ackValue = true
  responses : g.canNotify Handle.transreceiveValue = true
  room : Chunk.responseHeader + Chunk.reservedTail < g.transreceiveCapacity

namespace Gatt.Listens

variable {g : Gatt}

theorem replaced (h : g.Listens) {handle : UInt16} (value : Bytes)
    (ha : Handle.ackValue + 1 ≠ handle) (ht : Handle.transreceiveValue + 1 ≠ handle) :
    Gatt.Listens
      { g with table := ⟨AttributeTable.replaceValue handle value g.table.attributes⟩ } where
  laid := h.laid.replaced handle value
  acks := (g.canNotify_replaced value ha).trans h.acks
  responses := (g.canNotify_replaced value ht).trans h.responses
  room := h.room

theorem push_ack (h : g.Listens) (b : UInt8) :
    (g.push Handle.ackValue [b]).1.Listens ∧
      (g.push Handle.ackValue [b]).1.transreceiveCapacity = g.transreceiveCapacity := by
  rw [h.laid.push_ack b]
  exact ⟨h.replaced [b] (by decide) (by decide), rfl⟩

theorem push_response (h : g.Listens) {value : Bytes}
    (hroom : value.length ≤ g.transreceiveCapacity) :
    (g.push Handle.transreceiveValue value).1.Listens ∧
      (g.push Handle.transreceiveValue value).1.transreceiveCapacity =
        g.transreceiveCapacity := by
  rw [h.laid.push_transreceive hroom]
  exact ⟨h.replaced value (by decide) (by decide), rfl⟩

end Gatt.Listens

/-- Others are asked, or told something. -/
def Bridge.Request.isOutward : Request → Bool
  | .proceed | .receive | .inspect | .sleep _ => false
  | _ => true

namespace Service

variable {leases : Bool} {w w' : Service} {Good : Service → Prop}

/-! ## Rules -/

/-- A notification that is asked for goes out. -/
def Serve (w w' : Service) : Prop :=
  Handling w w' ∧ ∀ handle value sent,
    w'.log = (.push handle value, .flag sent) :: w.log → sent = w.gatt.canNotify handle

theorem settles_outer (ho : w.bridge.request.isOuter = true) (hr : w.bridge.request ≠ .receive)
    (hf : w.bridge.request ≠ .finished)
    (h : ∀ r, Bridge.Fits w.bridge.request r → Settles Serve Good (w.replied r)) :
    Settles Serve Good w := by
  have hni : ¬ w.Idle := fun hi => hr hi.1
  have serve {r : Bridge.Reply} (hfit : Bridge.Fits w.bridge.request r) :
      Serve w (w.replied r) := by
    refine ⟨⟨.reply hfit ho, hni⟩, fun handle value sent hlog => ?_⟩
    have hq : w.bridge.request = .push handle value :=
      congrArg Prod.fst (List.cons.inj hlog).1
    rw [hq] at ho
    cases ho
  refine .move ?_ fun w' hs => ?_
  · rcases Bridge.fits_cases w.bridge.request with ⟨r, hfit⟩ | hq | hq
    · exact ⟨_, serve hfit⟩
    · exact absurd hq hr
    · exact absurd hq hf
  · obtain ⟨r, hfit, rfl⟩ := hs.1.1.of_outer ho
    exact h r hfit

theorem settles_inspect (hq : w.bridge.request = .inspect)
    (h : Settles Serve Good (w.replied
      (.view w.gatt.responseCapacity? (w.gatt.canNotify Handle.transreceiveValue)))) :
    Settles Serve Good w := by
  have hni : ¬ w.Idle := fun hi => nomatch hi.1.symm.trans hq
  refine .move ⟨_, ⟨.inspect hq, hni⟩, fun handle value sent hlog => ?_⟩ fun w' hs => ?_
  · have hq' := congrArg Prod.fst (List.cons.inj hlog).1
    rw [hq] at hq'
    cases hq'
  · rw [hs.1.1.of_inspect hq]
    exact h

theorem settles_push {handle : UInt16} {value : Bytes}
    (hq : w.bridge.request = .push handle value) (hs : w.stored = false)
    (h : Settles Serve Good ((w.push handle value).replied
      (.flag ((w.push handle value).gatt.canNotify handle)))) :
    Settles Serve Good w := by
  let w₁ : Service := { w.push handle value with stored := true }
  have hq₁ : w₁.bridge.request = .push handle value := hq
  have hni : ¬ w.Idle := fun hi => nomatch hi.1.symm.trans hq
  have hni₁ : ¬ w₁.Idle := fun hi => hni ⟨hi.1, hi.2⟩
  have htold : Settles Serve Good w₁ := by
    refine .move ⟨_, ⟨.told (w₁.gatt.canNotify handle) hq₁ rfl, hni₁⟩, ?_⟩ fun w' hs' => ?_
    · intro handle' value' sent hlog
      simp only [replied, hq₁, List.cons.injEq, Prod.mk.injEq, Bridge.Request.push.injEq,
        Bridge.Reply.flag.injEq, and_true] at hlog
      rw [← hlog.2, ← hlog.1.1]
    · rcases hs'.1.1.of_push hq₁ with ⟨hstored, -⟩ | ⟨-, sent, rfl⟩
      · cases hstored
      · have hsent : sent = w₁.gatt.canNotify handle :=
          hs'.2 handle value sent (by simp only [replied, hq₁])
        rw [hsent]
        exact h
  refine .move ⟨w₁, ⟨.store hq hs, hni⟩, fun handle' value' sent hlog => ?_⟩ fun w' hs' => ?_
  · exact absurd (congrArg List.length hlog) (by simp [w₁, push])
  · rcases hs'.1.1.of_push hq with ⟨-, rfl⟩ | ⟨hstored, -⟩
    · exact htold
    · rw [hs] at hstored
      cases hstored

theorem settles_message {m : BridgeMessage} (hq : w.bridge.request = .receive)
    (hitems : w.bridge.inbox.items = [m])
    (h : Settles Serve Good
      ({ w with bridge.inbox := w.bridge.inbox.clear }.replied (.message m))) :
    Settles Serve Good w := by
  have htake : w.bridge.inbox.take? = some (m, w.bridge.inbox.clear) := by
    rw [Inbox.take?, hitems]
    rfl
  have hni : ¬ w.Idle := fun hi => by rw [hi.2] at hitems; cases hitems
  refine .move ⟨_, ⟨.receive hq htake, hni⟩, fun handle value sent hlog => ?_⟩ fun w' hs => ?_
  · cases congrArg Prod.snd (List.cons.inj hlog).1
  · rcases hs.1.1.of_receive hq with ⟨m', inbox, htake', rfl⟩ | ⟨hitems', -⟩
    · rw [htake] at htake'
      cases htake'
      exact h
    · rw [hitems] at hitems'
      cases hitems'

theorem settles_idle (hi : w.Idle) (h : Good w) : Settles Serve Good w :=
  .rest (fun _ hs => hs.1.2 hi) h

/-! ## What the client and the card see -/

/-- What others have been asked and told, the latest first. -/
def outward (w : Service) : List (Bridge.Request × Bridge.Reply) :=
  w.log.filter fun e => e.1.isOutward

/-- The values are the chunks of the response, all of them, with the one `last` at the end. A
failure has none. -/
def Carries (values : List Bytes) : Bridge.Reply → Prop
  | .data response => ∃ chunks : List Chunk.Response,
      values.map Chunk.Response.decode = chunks.map .ok ∧
      chunks.flatMap (·.data) = response ∧ chunks ≠ [] ∧
      chunks.map (·.indicator) = Chunk.tags chunks.length
  | _ => values = []

/-- A notification that went out. -/
def notified (handle : UInt16) (value : Bytes) : Bridge.Request × Bridge.Reply :=
  (.push handle value, .flag true)

/-- All that has been seen of a command since `w`: so many acknowledgements, then its one
exchange, then the response. The bridge is as it was. -/
structure Answered (w : Service) (command : Bytes) (acks : Nat) (w' : Service) : Prop where
  idle : w'.Idle
  handle : w'.bridge.handle = w.bridge.handle
  buffer : w'.bridge.reassembler.buffer = []
  outward : ∃ reply values, Carries values reply ∧ w'.outward =
    values.reverse.map (notified Handle.transreceiveValue) ++
      (.exchange w.bridge.handle command, reply) ::
        (List.replicate acks (notified Handle.ackValue [1]) ++ w.outward)

/-- A client writes the values one after another, each once the bridge has handled the one
before. Every write is accepted. -/
def Delivers (Good : Service → Prop) : List Bytes → Service → Prop
  | [], w => Good w
  | value :: rest, w =>
    let (w', answer) := w.handle (.request (.write Handle.transreceiveValue value))
    answer = .ok .written ∧ Settles Serve (fun w => w.Idle ∧ Delivers Good rest w) w'

theorem Delivers.mono {Good' : Service → Prop} (hg : ∀ w, Good w → Good' w) {values : List Bytes}
    (h : Delivers Good values w) : Delivers Good' values w := by
  induction values generalizing w with
  | nil => exact hg w h
  | cons value rest ih => exact ⟨h.1, h.2.mono fun _ hd => ⟨hd.1, ih hd.2⟩⟩

/-- The bridge has gone on from `w`, and the client is still told of what it asked for. -/
structure Went (w : Service) (done : List (Bridge.Request × Bridge.Reply)) (w' : Service) :
    Prop where
  listens : w'.gatt.Listens
  capacity : w'.gatt.transreceiveCapacity = w.gatt.transreceiveCapacity
  stored : w'.stored = false
  outward : w'.outward = done ++ w.outward

theorem Went.trans {w₁ w₂ : Service} {done done' : List (Bridge.Request × Bridge.Reply)}
    (h : Went w done w₁) (h' : Went w₁ done' w₂) : Went w (done' ++ done) w₂ where
  listens := h'.listens
  capacity := h'.capacity.trans h.capacity
  stored := h'.stored
  outward := by rw [h'.outward, h.outward, List.append_assoc]

theorem went_replied (hl : w.gatt.Listens) (r : Bridge.Reply) :
    Went w ([(w.bridge.request, r)].filter fun e => e.1.isOutward) (w.replied r) where
  listens := hl
  capacity := rfl
  stored := rfl
  outward := by rw [outward, outward, ← List.filter_append]; rfl

theorem went_pushed {handle : UInt16} {value : Bytes}
    (hq : w.bridge.request = .push handle value)
    (hl : (w.gatt.push handle value).1.Listens ∧
      (w.gatt.push handle value).1.transreceiveCapacity = w.gatt.transreceiveCapacity) :
    Went w [notified handle value] ((w.push handle value).replied (.flag true)) where
  listens := hl.1
  capacity := hl.2
  stored := rfl
  outward := by
    have hq' : (w.push handle value).bridge.request = .push handle value := hq
    rw [outward, replied, List.filter_cons, hq']
    rfl

/-- A notification that the client has asked for goes out. -/
theorem settles_told {handle : UInt16} {value : Bytes}
    (hq : w.bridge.request = .push handle value) (hs : w.stored = false)
    (hl : (w.gatt.push handle value).1.Listens ∧
      (w.gatt.push handle value).1.transreceiveCapacity = w.gatt.transreceiveCapacity)
    (hc : (w.gatt.push handle value).1.canNotify handle = true)
    (h : ∀ w', w'.bridge = w.bridge.resume (.flag true) → Went w [notified handle value] w' →
      Settles Serve Good w') : Settles Serve Good w := by
  apply settles_push hq hs
  rw [show (w.push handle value).gatt.canNotify handle = true from hc]
  exact h _ rfl (went_pushed hq hl)

/-- An acknowledgement goes out, after which the card may be asked. -/
theorem settles_ack {command : Option Bytes} (hp : w.bridge.point = .acknowledging command)
    (hl : w.gatt.Listens) (hs : w.stored = false)
    (h : ∀ w', w'.bridge = w.bridge.goto (command.elim .receiving .exchanging) →
      Went w [notified Handle.ackValue [1]] w' → Settles Serve Good w') :
    Settles Serve Good w := by
  have hq : w.bridge.request = .push Handle.ackValue [1] := by simp only [Bridge.request, hp]
  have hl' := hl.push_ack 1
  refine settles_told hq hs hl' hl'.1.acks fun w' hb hw => h w' ?_ hw
  rw [hb]
  cases command <;> simp only [Bridge.resume, hp, Option.elim]

/-- A chunk of a response goes out. -/
theorem settles_notified {chunk : Bytes} {rest : List Bytes}
    (hp : w.bridge.point = .notifying chunk rest) (hl : w.gatt.Listens) (hs : w.stored = false)
    (hroom : chunk.length ≤ w.gatt.transreceiveCapacity)
    (h : ∀ w', w'.bridge = w.bridge.resume (.flag true) →
      Went w [notified Handle.transreceiveValue chunk] w' → Settles Serve Good w') :
    Settles Serve Good w := by
  have hq : w.bridge.request = .push Handle.transreceiveValue chunk := by
    simp only [Bridge.request, hp]
  have hl' := hl.push_response hroom
  exact settles_told hq hs hl' hl'.1.responses h

/-- The chunks of a response go out one after another. -/
theorem settles_burst {chunk : Bytes} {rest : List Bytes}
    (hp : w.bridge.point = .notifying chunk rest) (hl : w.gatt.Listens) (hs : w.stored = false)
    (hroom : ∀ value ∈ chunk :: rest, value.length ≤ w.gatt.transreceiveCapacity)
    (h : ∀ w', w'.bridge = w.bridge.goto .receiving →
      Went w ((chunk :: rest).reverse.map (notified Handle.transreceiveValue)) w' →
      Settles Serve Good w') : Settles Serve Good w := by
  induction rest generalizing w chunk with
  | nil =>
    refine settles_notified hp hl hs (hroom chunk List.mem_cons_self) fun w' hb hw => h w' ?_ hw
    rw [hb]
    simp only [Bridge.resume, hp]
  | cons next rest ih =>
    have hroom' : ∀ value ∈ next :: rest, value.length ≤ w.gatt.transreceiveCapacity :=
      fun value hv => hroom value (List.mem_cons_of_mem _ hv)
    -- the rest of the burst, from where its first chunk is about to go out
    have burst {w₁ : Service} (hb : w₁.bridge = w.bridge.goto (.notifying next rest))
        (hw : Went w [notified Handle.transreceiveValue chunk] w₁) : Settles Serve Good w₁ := by
      refine ih (by rw [hb]; rfl) hw.listens hw.stored (by rwa [hw.capacity]) fun w' hb' hw' => ?_
      refine h w' (by rw [hb', hb]; rfl) ?_
      have hall := hw.trans hw'
      rwa [← List.map_singleton, ← List.map_append, ← List.reverse_cons] at hall
    refine settles_notified hp hl hs (hroom chunk List.mem_cons_self) fun w₁ hb₁ hw => ?_
    by_cases hz : w.bridge.settings.chunkInterval = 0
    · refine burst ?_ hw
      rw [hb₁]
      simp only [Bridge.resume, hp, hz, if_true]
    · have hb₁ : w₁.bridge = w.bridge.goto (.pausing next rest) := by
        rw [hb₁]
        simp only [Bridge.resume, hp, hz, if_false]
      have hp₁ : w₁.bridge.point = .pausing next rest := by rw [hb₁]; rfl
      have hq₁ : w₁.bridge.request = .sleep w₁.bridge.settings.chunkInterval := by
        simp only [Bridge.request, hp₁]
      refine settles_outer (by rw [hq₁]; rfl) (by simp [hq₁]) (by simp [hq₁]) ?_
      intro r hf
      have hwent := went_replied hw.listens r
      rw [hq₁] at hf hwent
      refine burst ?_ (hw.trans hwent)
      cases hf
      rw [replied]
      simp only [Bridge.resume, hp₁]
      rw [hb₁]
      rfl

/-! ## The exchange -/

theorem carries_pieces {capacity : Nat} (hc : 0 < capacity) (hmax : capacity ≤ Chunk.maxData)
    (response : Bytes) :
    Carries ((Chunk.piecesFrom capacity true response).map fun p =>
      Chunk.Response.encode ⟨p.1, p.2⟩) (.data response) := by
  refine ⟨Chunk.responsesOf capacity response, ?_, Chunk.flatMap_responsesOf response hc,
    Chunk.responsesOf_ne_nil response hc, Chunk.tags_responsesOf response hc⟩
  rw [Chunk.responsesOf, List.map_map, List.map_map]
  apply List.map_congr_left
  intro p hp
  exact Chunk.Response.decode_encode ((Chunk.length_le_of_mem_piecesFrom hc hp).trans hmax)

/-- The card is asked once, and what it answers goes to the client. -/
theorem settles_exchange {command : Bytes} (hp : w.bridge.point = .exchanging command)
    (hl : w.gatt.Listens)
    (h : ∀ w' reply values, w'.bridge = w.bridge.goto .receiving → Carries values reply →
      Went w (values.reverse.map (notified Handle.transreceiveValue) ++
        [(.exchange w.bridge.handle command, reply)]) w' → Settles Serve Good w') :
    Settles Serve Good w := by
  have hq : w.bridge.request = .exchange w.bridge.handle command := by
    simp only [Bridge.request, hp]
  refine settles_outer (by rw [hq]; rfl) (by simp [hq]) (by simp [hq]) fun r hf => ?_
  have hw := went_replied hl r
  rw [hq] at hf hw
  cases hf with
  | exchangeFailed =>
    refine h _ .failed [] ?_ rfl hw
    simp only [replied, Bridge.resume, hp]
  | @exchange _ _ response =>
    generalize hw₁ : w.replied (.data response) = w₁ at hw ⊢
    have hb₁ : w₁.bridge = w.bridge.goto (.answering response) := by
      rw [← hw₁]
      simp only [replied, Bridge.resume, hp]
    have hp₁ : w₁.bridge.point = .answering response := by rw [hb₁]; rfl
    have hq₁ : w₁.bridge.request = .inspect := by simp only [Bridge.request, hp₁]
    obtain ⟨capacity, hcap, hpos, hmax, hroom⟩ :=
      hw.listens.laid.responseCapacity? hw.listens.room
    apply settles_inspect hq₁
    rw [hcap, hw.listens.responses]
    have hwent : Went w₁ [] (w₁.replied (.view (some capacity) true)) := by
      have hwent := went_replied hw.listens (.view (some capacity) true)
      rwa [hq₁] at hwent
    generalize hw₂ : w₁.replied (.view (some capacity) true) = w₂ at hwent ⊢
    have hb₂ : w₂.bridge = w₁.bridge.respond response capacity := by
      rw [← hw₂]
      simp only [replied, Bridge.resume, hp₁]
    have hcarries := carries_pieces hpos hmax response
    have hsizes : ∀ value ∈ (Chunk.piecesFrom capacity true response).map fun p =>
        Chunk.Response.encode ⟨p.1, p.2⟩, value.length ≤ w₂.gatt.transreceiveCapacity := by
      intro value hv
      obtain ⟨p, hp, rfl⟩ := List.mem_map.mp hv
      have hlen := Chunk.length_le_of_mem_piecesFrom hpos hp
      rw [Chunk.Response.length_encode, hwent.capacity]
      dsimp only
      omega
    unfold Bridge.respond at hb₂
    split at hb₂
    · rename_i hnil
      rw [List.map_eq_nil_iff, ← List.length_eq_zero_iff, Chunk.length_piecesFrom hpos] at hnil
      omega
    · rename_i chunk rest hchunks
      rw [hchunks] at hcarries hsizes
      refine settles_burst (by rw [hb₂]; rfl) hwent.listens hwent.stored hsizes ?_
      intro w' hb' hw'
      refine h w' (.data response) (chunk :: rest) (by rw [hb', hb₂, hb₁]; rfl) hcarries ?_
      have hburst := hwent.trans hw'
      rw [List.append_nil] at hburst
      exact hw.trans hburst

/-! ## The chunks of a command -/

/-- A session is open, the client listens, and everything has been handled. -/
structure Ready (w : Service) : Prop where
  idle : w.Idle
  isOpen : w.bridge.inbox.isOpen = true
  session : w.bridge.handle ≠ 0
  listens : w.gatt.Listens
  stored : w.stored = false

/-- A chunk that is written while the bridge waits is what the bridge collects next. -/
theorem settles_write (hr : w.Ready) {value : Bytes}
    (hroom : value.length ≤ w.gatt.transreceiveCapacity)
    (h : ∀ w', w'.bridge = w.bridge.collect value → Went w [] w' → Settles Serve Good w') :
    (w.handle (.request (.write Handle.transreceiveValue value))).2 = .ok .written ∧
      Settles Serve Good (w.handle (.request (.write Handle.transreceiveValue value))).1 := by
  obtain ⟨⟨hq, hitems⟩, hopen, -, hl, hs⟩ := hr
  have hp : w.bridge.point = .receiving := Bridge.asks_of_request hq
  have hoffer : w.bridge.inbox.offer w.bridge.isReceiving (.transreceive value) =
      some (w.bridge.inbox.put (.transreceive value)) := by
    simp [Inbox.offer, Inbox.accepts, Inbox.hasRoom, Bridge.isReceiving, hopen, hp, hitems]
  simp only [handle, hl.laid.write_transreceive hroom, hoffer, true_and]
  have hclear := Inbox.clear_put_of_nil hitems (.transreceive value)
  refine settles_message (m := .transreceive value) hq (by simp [Inbox.put, hitems]) ?_
  rw [hclear]
  refine h _ (Bridge.resume_message hq _) ?_
  refine ⟨hl.replaced value (by decide) (by decide), rfl, rfl, ?_⟩
  rw [outward, replied, List.filter_cons]
  rw [show Bridge.request { w.bridge with inbox := w.bridge.inbox } = .receive from hq]
  rfl

section Chunk

variable {indicator : Chunk.Indicator} {data : Bytes} {r : Chunk.Reassembler}

theorem decode_mine (b : Bridge) (hd : data.length ≤ Chunk.maxData) :
    Chunk.Request.decode (Chunk.Request.encode ⟨b.handle, indicator, data⟩) =
      .ok ⟨b.handle, indicator, data⟩ :=
  Chunk.Request.decode_encode hd

theorem collect_appended {b : Bridge} (hz : b.handle ≠ 0) (hd : data.length ≤ Chunk.maxData)
    (hpush : b.reassembler.push indicator data = (r, .appended)) :
    b.collect (Chunk.Request.encode ⟨b.handle, indicator, data⟩) =
      { b with reassembler := r, point := .acknowledging none } := by
  have hmine : ¬ (b.handle = 0 ∨ b.handle ≠ b.handle) := by simp [hz]
  simp only [Bridge.collect, decode_mine b hd, if_neg hmine, hpush, Bridge.goto]

theorem collect_complete {b : Bridge} (hz : b.handle ≠ 0) (hd : data.length ≤ Chunk.maxData)
    {command : Bytes} (hpush : b.reassembler.push indicator data = (r, .complete command))
    (hne : data ≠ []) :
    b.collect (Chunk.Request.encode ⟨b.handle, indicator, data⟩) =
      { b with reassembler := r, point := .acknowledging (some command) } := by
  have hmine : ¬ (b.handle = 0 ∨ b.handle ≠ b.handle) := by simp [hz]
  have hne : ¬ data.isEmpty = true := by simpa using hne
  simp only [Bridge.collect, decode_mine b hd, if_neg hmine, hpush, if_neg hne, Bridge.goto]

theorem Ready.went (hr : w.Ready) (hb : w'.bridge = { w.bridge with reassembler := r })
    {done : List (Bridge.Request × Bridge.Reply)} (hw : Went w done w') : w'.Ready where
  idle := ⟨by rw [hb]; exact hr.idle.1, by rw [hb]; exact hr.idle.2⟩
  isOpen := by rw [hb]; exact hr.isOpen
  session := by rw [hb]; exact hr.session
  listens := hw.listens
  stored := hw.stored

theorem Ready.goto_receiving (hr : w.Ready) (r : Chunk.Reassembler) (p : Bridge.Point) :
    Bridge.goto { w.bridge with reassembler := r, point := p } .receiving =
      { w.bridge with reassembler := r } := by
  have hp : w.bridge.point = .receiving := Bridge.asks_of_request hr.idle.1
  rw [Bridge.goto, ← hp]

variable (hr : w.Ready) (hd : data.length ≤ Chunk.maxData)
  (hroom : Chunk.requestHeader + data.length ≤ w.gatt.transreceiveCapacity)
include hr hd hroom

/-- A chunk that leaves the command unfinished is acknowledged, and that is all. -/
theorem settles_appended (hpush : w.bridge.reassembler.push indicator data = (r, .appended))
    (h : ∀ w', w'.bridge = { w.bridge with reassembler := r } →
      Went w [notified Handle.ackValue [1]] w' → Good w') :
    (w.handle (.request (.write Handle.transreceiveValue
        (Chunk.Request.encode ⟨w.bridge.handle, indicator, data⟩)))).2 = .ok .written ∧
      Settles Serve Good (w.handle (.request (.write Handle.transreceiveValue
        (Chunk.Request.encode ⟨w.bridge.handle, indicator, data⟩)))).1 := by
  refine settles_write hr (by rwa [Chunk.Request.length_encode]) fun w₁ hb₁ hw₁ => ?_
  rw [collect_appended hr.session hd hpush] at hb₁
  have hp₁ : w₁.bridge.point = .acknowledging none := by rw [hb₁]
  refine settles_ack hp₁ hw₁.listens hw₁.stored fun w₂ hb₂ hw₂ => ?_
  have hb : w₂.bridge = { w.bridge with reassembler := r } := by
    rw [hb₂, hb₁]
    exact hr.goto_receiving r _
  have hw := hw₁.trans hw₂
  exact settles_idle (hr.went hb hw).idle (h w₂ hb hw)

/-- A chunk that completes the command is acknowledged before the card is asked. -/
theorem settles_complete {command : Bytes}
    (hpush : w.bridge.reassembler.push indicator data = (r, .complete command))
    (hne : data ≠ [])
    (h : ∀ w' reply values, w'.bridge = { w.bridge with reassembler := r } →
      Carries values reply → Went w (values.reverse.map (notified Handle.transreceiveValue) ++
        [(.exchange w.bridge.handle command, reply), notified Handle.ackValue [1]]) w' →
      Good w') :
    (w.handle (.request (.write Handle.transreceiveValue
        (Chunk.Request.encode ⟨w.bridge.handle, indicator, data⟩)))).2 = .ok .written ∧
      Settles Serve Good (w.handle (.request (.write Handle.transreceiveValue
        (Chunk.Request.encode ⟨w.bridge.handle, indicator, data⟩)))).1 := by
  refine settles_write hr (by rwa [Chunk.Request.length_encode]) fun w₁ hb₁ hw₁ => ?_
  rw [collect_complete hr.session hd hpush hne] at hb₁
  have hp₁ : w₁.bridge.point = .acknowledging (some command) := by rw [hb₁]
  refine settles_ack hp₁ hw₁.listens hw₁.stored fun w₂ hb₂ hw₂ => ?_
  have hp₂ : w₂.bridge.point = .exchanging command := by rw [hb₂]; rfl
  refine settles_exchange hp₂ hw₂.listens fun w₃ reply values hb₃ hcarries hw₃ => ?_
  have hb : w₃.bridge = { w.bridge with reassembler := r } := by
    rw [hb₃, hb₂, hb₁]
    exact hr.goto_receiving r _
  have hhandle : w₂.bridge.handle = w.bridge.handle := by rw [hb₂, hb₁]; rfl
  have hw := (hw₁.trans hw₂).trans hw₃
  rw [hhandle, List.append_assoc] at hw
  exact settles_idle (hr.went hb hw).idle (h w₃ reply values hb hcarries hw)

end Chunk

/-- One acknowledgement more, that of the chunk before. -/
theorem Answered.of_went {w₁ : Service} {command : Bytes} {n : Nat}
    (hb : w₁.bridge.handle = w.bridge.handle) (hw : Went w [notified Handle.ackValue [1]] w₁)
    (h : Answered w₁ command n w') : Answered w command (n + 1) w' where
  idle := h.idle
  handle := h.handle.trans hb
  buffer := h.buffer
  outward := by
    obtain ⟨reply, values, hcarries, hout⟩ := h.outward
    refine ⟨reply, values, hcarries, ?_⟩
    rw [hout, hw.outward, hb, ← List.append_assoc (List.replicate n _), ← List.replicate_succ']

theorem push_piece {r : Chunk.Reassembler} {data : Bytes} {opening : Bool}
    (hroom : r.buffer.length + data.length ≤ r.capacity) (hd : data ≠ [])
    (ho : opening = true → r.buffer = []) :
    r.push (if opening then .first else .mid) data =
      ({ r with buffer := r.buffer ++ data }, .appended) := by
  cases opening with
  | false => exact Chunk.Reassembler.push_mid_of_room hroom hd
  | true =>
    rw [if_pos rfl, Chunk.Reassembler.push_first, Chunk.Reassembler.clear_of_nil (ho rfl)]
    exact Chunk.Reassembler.push_mid_of_room hroom hd

theorem delivers_pieces {width : Nat} (hw : 0 < width) (hmax : width ≤ Chunk.maxData)
    {message : Bytes} {opening : Bool} (hr : w.Ready)
    (hroom : Chunk.requestHeader + width ≤ w.gatt.transreceiveCapacity) (hne : message ≠ [])
    (hfit : w.bridge.reassembler.buffer.length + message.length ≤ w.bridge.reassembler.capacity)
    (ho : opening = true → w.bridge.reassembler.buffer = []) :
    Delivers (Answered w (w.bridge.reassembler.buffer ++ message)
        (Chunk.piecesFrom width opening message).length)
      ((Chunk.piecesFrom width opening message).map fun p =>
        Chunk.Request.encode ⟨w.bridge.handle, p.1, p.2⟩) w := by
  induction message using Chunk.cut_induction hw generalizing opening w with
  | fits message h =>
    rw [Chunk.piecesFrom_of_fits h]
    have hpush := Chunk.Reassembler.push_last_of_room hfit
    rw [if_neg (by simp [hne])] at hpush
    refine settles_complete hr (h.trans hmax) ((Nat.add_le_add_left h _).trans hroom) hpush hne ?_
    intro w' reply values hb hcarries hwent
    have hidle := (hr.went hb hwent).idle
    refine ⟨hidle, hidle, by rw [hb], by rw [hb]; rfl, reply, values, hcarries, ?_⟩
    rw [hwent.outward, List.append_assoc]
    rfl
  | long message h ih =>
    have htake : (message.take width).length = width := by
      rw [List.length_take]
      omega
    have hdrop : message.drop width ≠ [] := by
      rw [Ne, ← List.length_eq_zero_iff, List.length_drop]
      omega
    have hpush := push_piece (by rw [htake]; omega) (Chunk.Reassembler.take_ne_nil hw h) ho
    rw [Chunk.piecesFrom_of_long hw h]
    refine settles_appended hr (by rw [htake]; exact hmax) (by rw [htake]; exact hroom) hpush ?_
    intro w₁ hb₁ hw₁
    have hr₁ := hr.went hb₁ hw₁
    refine ⟨hr₁.idle, ?_⟩
    have hfit₁ : w₁.bridge.reassembler.buffer.length + (message.drop width).length ≤
        w₁.bridge.reassembler.capacity := by
      rw [hb₁]
      simp only [List.length_append, List.length_drop, htake]
      omega
    have hrest := ih hr₁ (by rw [hw₁.capacity]; exact hroom) hdrop hfit₁
      fun hf : false = true => nomatch hf
    have hhandle : w₁.bridge.handle = w.bridge.handle := by rw [hb₁]
    have hcommand : w₁.bridge.reassembler.buffer ++ message.drop width =
        w.bridge.reassembler.buffer ++ message := by
      rw [hb₁]
      simp only [List.append_assoc, List.take_append_drop]
    rw [hhandle, hcommand] at hrest
    rw [List.length_cons]
    exact hrest.mono fun w' h => h.of_went hhandle hw₁

/-- A command that the receive buffer has room for goes to the card once, after its chunks have
been acknowledged, and the response comes back whole. -/
theorem exchanges (h : w.Reachable leases) (hidle : w.Idle) (hsession : w.bridge.handle ≠ 0)
    (hempty : w.bridge.reassembler.buffer = [])
    (hacks : w.gatt.canNotify Handle.ackValue = true)
    (hresponses : w.gatt.canNotify Handle.transreceiveValue = true)
    {command : Bytes} (hne : command ≠ [])
    (hfit : command.length ≤ w.bridge.reassembler.capacity)
    {capacity : Nat} (hc : 0 < capacity)
    (hroom : min capacity Chunk.maxData + Chunk.requestHeader ≤ w.gatt.transreceiveCapacity) :
    ∃ chunks, Chunk.requests w.bridge.handle command capacity = some chunks ∧
      Delivers (Answered w command chunks.length) (chunks.map Chunk.Request.encode) w := by
  have hkept := h.kept
  have hlisten : w.gatt.Listens := by
    refine ⟨hkept.laid, hacks, hresponses, ?_⟩
    have := Chunk.width_pos hc
    simp only [Chunk.requestHeader, Chunk.responseHeader, Chunk.reservedTail] at hroom ⊢
    omega
  have hstored : w.stored = false := by
    rw [Bool.eq_false_iff]
    intro hs
    obtain ⟨handle, value, hq⟩ := hkept.stored hs
    rw [hidle.1] at hq
    cases hq
  have hr : w.Ready := ⟨hidle, hkept.isOpen, hsession, hlisten, hstored⟩
  refine ⟨_, Chunk.requests_of_pos w.bridge.handle command hc, ?_⟩
  have hdelivers := delivers_pieces (Chunk.width_pos hc) (Nat.min_le_right ..) hr (by omega) hne
    (by rw [hempty, List.length_nil]; omega) fun _ : true = true => hempty
  rw [hempty, List.nil_append] at hdelivers
  rw [Chunk.chunksOf, List.map_map, List.length_map]
  exact hdelivers

/-- A command of three bytes in chunks of two, to a bridge that has a session. -/
theorem exchanges_in_session :
    ∃ (w : Service) (chunks : List Chunk.Request), w.Reachable true ∧ w.bridge.handle = 7 ∧
      Chunk.requests 7 [1, 2, 3] 2 = some chunks ∧
      Delivers (Answered w [1, 2, 3] chunks.length) (chunks.map Chunk.Request.encode) w := by
  obtain ⟨log, h⟩ := reachable_serving 10
  let g := (subscribedServer.push Handle.sessionValue (Bytes.ofUInt32 7)).1
  have hacks : g.canNotify Handle.ackValue = true := by decide
  have hresponses : g.canNotify Handle.transreceiveValue = true := by decide
  have hfit : [1, 2, 3].length ≤ 2048 := by decide
  have hroom : min 2 Chunk.maxData + Chunk.requestHeader ≤ 512 := by decide
  obtain ⟨chunks, hchunks, hdelivers⟩ := exchanges h ⟨rfl, rfl⟩ (by decide : (7 : UInt32) ≠ 0) rfl
    hacks hresponses (by decide : ([1, 2, 3] : Bytes) ≠ []) hfit (by decide) hroom
  exact ⟨_, chunks, h, rfl, hchunks, hdelivers⟩

end Service

end EdgeGateway
