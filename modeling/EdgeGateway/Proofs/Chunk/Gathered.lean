import EdgeGateway.Proofs.Chunk.Reassembly

/-!
# EdgeGateway.Proofs.Chunk.Gathered

Where the bytes of a message come from, in any history of a receive buffer
(`hands_out_what_was_pushed`).

* `Reassembler.Event`     : a chunk with what it brought about, or an emptying from outside.
* `Reassembler.Unbroken`  : chunks on end that were kept, from where the buffer last started.
* `Reassembler.Carries`   : such a part of a history, and the chunk that completes its message.
* `Carries.alone`         : no chunk is part of two messages.
* `Reassembler.Accounted` : the buffer holds the part that is open. One operation keeps it so
  (`Accounted.act`), and with it any number (`Accounted.run`).
-/

namespace EdgeGateway.Chunk.Reassembler

/-! ## Histories -/

inductive Operation where
  | push (indicator : Indicator) (data : Bytes)
  | clear

inductive Event where
  | pushed (indicator : Indicator) (data : Bytes) (result : Reassembly)
  | cleared
  deriving DecidableEq

namespace Event

def operation : Event → Operation
  | .pushed indicator data _ => .push indicator data
  | .cleared => .clear

def data : Event → Bytes
  | .pushed _ data _ => data
  | .cleared => []

def IsFirst (e : Event) : Prop := ∃ data result, e = .pushed .first data result

/-- Nothing of what was there before is kept. -/
def Ends : Event → Prop
  | .pushed _ _ .appended | .pushed _ _ .empty => False
  | .pushed _ _ (.complete _) | .pushed _ _ .nothing | .pushed _ _ .overflow => True
  | .cleared => True

end Event

def act (r : Reassembler) : Operation → Reassembler × Event
  | .push indicator data =>
    ((r.push indicator data).1, .pushed indicator data (r.push indicator data).2)
  | .clear => (r.clear, .cleared)

/-- The buffer after operations, and what has happened. -/
def run (r : Reassembler) : List Operation → Reassembler × List Event
  | [] => (r, [])
  | operation :: rest =>
    let (r, event) := r.act operation
    let (r, events) := r.run rest
    (r, event :: events)

theorem operation_act (r : Reassembler) (operation : Operation) :
    (r.act operation).2.operation = operation := by
  cases operation <;> rfl

theorem map_operation_run (r : Reassembler) (operations : List Operation) :
    (r.run operations).2.map Event.operation = operations := by
  induction operations generalizing r with
  | nil => rfl
  | cons operation rest ih =>
    rw [run]
    dsimp only
    rw [List.map_cons, operation_act, ih]

/-! ## Parts of a history -/

variable {r : Reassembler} {history : List Event} {event e : Event} {capacity start stop : Nat}
  {message : Bytes}

/-- From `start` on and ahead of `stop` nothing has been thrown away. The part starts with a first
chunk, or after something that left an empty buffer, and has no other first chunk in it. -/
structure Unbroken (history : List Event) (start stop : Nat) : Prop where
  kept : ∀ k, start ≤ k → k < stop → ∃ e, history[k]? = some e ∧ ¬ e.Ends
  first : ∀ k, start < k → k < stop → ∀ e, history[k]? = some e → ¬ e.IsFirst
  begins : start = 0 ∨ (∃ e, history[start - 1]? = some e ∧ e.Ends) ∨
    ∃ e, history[start]? = some e ∧ e.IsFirst

/-- The chunks from `start` to `stop`, the last of which completes the message. -/
structure Carries (history : List Event) (start stop : Nat) (message : Bytes) : Prop where
  ordered : start ≤ stop
  unbroken : Unbroken history start stop
  last : ∃ data, history[stop]? = some (.pushed .last data (.complete message))
  bytes : message = (history.extract start (stop + 1)).flatMap Event.data

namespace Carries

variable {start' stop' : Nat} {message' : Bytes}

theorem not_isFirst (h : Carries history start stop message) {k : Nat} (hk : start < k)
    (hle : k ≤ stop) (he : history[k]? = some e) : ¬ e.IsFirst := by
  rcases Nat.lt_or_eq_of_le hle with hlt | rfl
  · exact h.unbroken.first k hk hlt e he
  · obtain ⟨data, hlast⟩ := h.last
    rw [hlast] at he
    cases he
    rintro ⟨_, _, hfirst⟩
    cases hfirst

/-- A message that has been handed out is kept by no part. -/
theorem stop_le (h : Carries history start stop message) (h' : Unbroken history start' stop')
    (hs : start' ≤ stop) : stop' ≤ stop := by
  refine Nat.le_of_not_lt fun hlt => ?_
  obtain ⟨data, hlast⟩ := h.last
  obtain ⟨e, he, hkept⟩ := h'.kept stop hs hlt
  rw [hlast] at he
  cases he
  exact hkept trivial

theorem start_le (h : Carries history start stop message)
    (h' : Carries history start' stop message') : start' ≤ start := by
  refine Nat.le_of_not_lt fun hlt => ?_
  have hordered := h'.ordered
  rcases h'.unbroken.begins with hzero | ⟨e, he, hends⟩ | ⟨e, he, hfirst⟩
  · omega
  · obtain ⟨_, he', hkept⟩ := h.unbroken.kept (start' - 1) (by omega) (by omega)
    rw [he] at he'
    cases he'
    exact hkept hends
  · exact h.not_isFirst hlt hordered he hfirst

/-- Two messages that share a chunk are the same. -/
theorem alone (h : Carries history start stop message)
    (h' : Carries history start' stop' message') {k : Nat} (hk : start ≤ k ∧ k ≤ stop)
    (hk' : start' ≤ k ∧ k ≤ stop') : start = start' ∧ stop = stop' := by
  obtain rfl : stop = stop' :=
    Nat.le_antisymm (h'.stop_le h.unbroken (by omega)) (h.stop_le h'.unbroken (by omega))
  exact ⟨Nat.le_antisymm (h'.start_le h) (h.start_le h'), rfl⟩

end Carries

/-! ## One more event -/

theorem getElem?_snoc {k : Nat} (h : history[k]? = some e) (event : Event) :
    (history ++ [event])[k]? = some e := by
  rw [List.getElem?_append_left (List.getElem?_eq_some_iff.mp h).1, h]

/-- What has happened stays as it was. -/
theorem Unbroken.snoc (h : Unbroken history start stop) (hstop : stop ≤ history.length)
    (event : Event) : Unbroken (history ++ [event]) start stop where
  kept k hk hlt := by
    obtain ⟨e, he, hkept⟩ := h.kept k hk hlt
    exact ⟨e, getElem?_snoc he event, hkept⟩
  first k hk hlt e he := by
    rw [List.getElem?_append_left (by omega)] at he
    exact h.first k hk hlt e he
  begins := by
    rcases h.begins with hzero | ⟨e, he, hends⟩ | ⟨e, he, hfirst⟩
    · exact .inl hzero
    · exact .inr (.inl ⟨e, getElem?_snoc he event, hends⟩)
    · exact .inr (.inr ⟨e, getElem?_snoc he event, hfirst⟩)

theorem Unbroken.extend (h : Unbroken history start history.length) (hkept : ¬ event.Ends)
    (hfirst : ¬ event.IsFirst) : Unbroken (history ++ [event]) start (history.length + 1) := by
  have hsnoc := h.snoc (Nat.le_refl _) event
  refine ⟨fun k hk hlt => ?_, fun k hk hlt e he => ?_, hsnoc.begins⟩
  · rcases Nat.lt_succ_iff_lt_or_eq.mp hlt with hlt | rfl
    · exact hsnoc.kept k hk hlt
    · exact ⟨event, List.getElem?_concat_length, hkept⟩
  · rcases Nat.lt_succ_iff_lt_or_eq.mp hlt with hlt | rfl
    · exact hsnoc.first k hk hlt e he
    · rw [List.getElem?_concat_length] at he
      cases he
      exact hfirst

theorem Unbroken.of_first (hkept : ¬ event.Ends) (hfirst : event.IsFirst) :
    Unbroken (history ++ [event]) history.length (history.length + 1) where
  kept k hk hlt := by
    obtain rfl : k = history.length := by omega
    exact ⟨event, List.getElem?_concat_length, hkept⟩
  first k hk hlt := by omega
  begins := .inr (.inr ⟨event, List.getElem?_concat_length, hfirst⟩)

theorem Unbroken.of_ends (hends : event.Ends) :
    Unbroken (history ++ [event]) (history.length + 1) (history.length + 1) where
  kept k hk hlt := by omega
  first k hk hlt := by omega
  begins := .inr (.inl ⟨event, List.getElem?_concat_length, hends⟩)

theorem Carries.snoc (h : Carries history start stop message) (event : Event) :
    Carries (history ++ [event]) start stop message := by
  obtain ⟨data, hlast⟩ := h.last
  have hlt : stop < history.length := (List.getElem?_eq_some_iff.mp hlast).1
  refine ⟨h.ordered, h.unbroken.snoc hlt.le event, ⟨data, getElem?_snoc hlast event⟩, ?_⟩
  have hordered := h.ordered
  rw [h.bytes, List.extract_eq_take_drop, List.extract_eq_take_drop,
    List.drop_append_of_le_length (by omega), List.take_append_of_le_length]
  rw [List.length_drop]
  omega

/-! ## One chunk -/

/-- A chunk empties the buffer, or it is kept behind what there is. -/
theorem push_outcome (r : Reassembler) (indicator : Indicator) (data : Bytes) :
    let event := (r.act (.push indicator data)).2
    ((r.push indicator data).1 = r.clear ∧ event.Ends ∧
      ∀ message, (r.push indicator data).2 = .complete message →
        indicator = .last ∧ message = r.buffer ++ data ∧ 1 ≤ message.length ∧
          message.length ≤ r.capacity) ∨
    (∃ kept, kept = (if indicator = .first then [] else r.buffer) ++ data ∧
      (r.push indicator data).1 = { r with buffer := kept } ∧ kept.length ≤ r.capacity ∧
      ¬ event.Ends) := by
  dsimp only [act]
  unfold push
  extract_lets start buffer
  by_cases hroom : r.capacity < start.length + data.length
  · rw [if_pos hroom]
    exact .inl ⟨rfl, trivial, nofun⟩
  · rw [if_neg hroom]
    have hlength : buffer.length ≤ r.capacity := by
      rw [List.length_append]
      exact Nat.le_of_not_lt hroom
    by_cases hlast : indicator = .last
    · subst hlast
      rw [if_pos rfl]
      by_cases hnil : buffer.isEmpty = true
      · rw [if_pos hnil]
        exact .inl ⟨rfl, trivial, nofun⟩
      · rw [if_neg hnil]
        refine .inl ⟨rfl, trivial, fun message h => ?_⟩
        cases h
        refine ⟨rfl, rfl, List.length_pos_iff.mpr fun h => hnil ?_, hlength⟩
        rw [h]
        rfl
    · rw [if_neg hlast]
      refine .inr ⟨buffer, rfl, rfl, hlength, ?_⟩
      by_cases hnil : data.isEmpty = true
      · rw [if_pos hnil]
        exact id
      · rw [if_neg hnil]
        exact id

/-! ## Any number of operations -/

/-- What is in the buffer is the part of the history that is still open, and what has been handed
out were such parts. -/
structure Accounted (capacity : Nat) (r : Reassembler) (history : List Event) : Prop where
  size : r.capacity = capacity
  room : r.buffer.length ≤ capacity
  opened : ∃ start, start ≤ history.length ∧ Unbroken history start history.length ∧
    r.buffer = (history.drop start).flatMap Event.data
  carried : ∀ stop indicator data message,
    history[stop]? = some (.pushed indicator data (.complete message)) →
      indicator = .last ∧ 1 ≤ message.length ∧ message.length ≤ capacity ∧
        ∃ start, Carries history start stop message

namespace Accounted

theorem new (capacity : Nat) : Accounted capacity { capacity } [] where
  size := rfl
  room := Nat.zero_le _
  opened := ⟨0, Nat.le_refl 0, ⟨nofun, nofun, .inl rfl⟩, rfl⟩
  carried stop indicator data message h := by cases h

/-- Messages handed out before stay as they were; one that is handed out now is looked at. -/
theorem carried_snoc (h : Accounted capacity r history)
    (hnow : ∀ indicator data message, event = .pushed indicator data (.complete message) →
      indicator = .last ∧ 1 ≤ message.length ∧ message.length ≤ capacity ∧
        ∃ start, Carries (history ++ [event]) start history.length message)
    (stop : Nat) (indicator : Indicator) (data message : Bytes)
    (hstop : (history ++ [event])[stop]? = some (.pushed indicator data (.complete message))) :
    indicator = .last ∧ 1 ≤ message.length ∧ message.length ≤ capacity ∧
      ∃ start, Carries (history ++ [event]) start stop message := by
  rcases Nat.lt_trichotomy stop history.length with hlt | rfl | hgt
  · rw [List.getElem?_append_left hlt] at hstop
    obtain ⟨hlast, hpos, hle, start, hcarries⟩ := h.carried stop indicator data message hstop
    exact ⟨hlast, hpos, hle, start, hcarries.snoc event⟩
  · rw [List.getElem?_concat_length] at hstop
    exact hnow indicator data message (Option.some.inj hstop)
  · rw [List.getElem?_eq_none (by rw [List.length_append, List.length_singleton]; omega)] at hstop
    cases hstop

/-- After something that leaves an empty buffer, the next part starts. -/
theorem of_ends (h : Accounted capacity r history) (hends : event.Ends)
    (hnow : ∀ indicator data message, event = .pushed indicator data (.complete message) →
      indicator = .last ∧ 1 ≤ message.length ∧ message.length ≤ capacity ∧
        ∃ start, Carries (history ++ [event]) start history.length message) :
    Accounted capacity r.clear (history ++ [event]) where
  size := h.size
  room := Nat.zero_le _
  opened := by
    have hlength : (history ++ [event]).length = history.length + 1 := List.length_append
    rw [hlength]
    refine ⟨history.length + 1, Nat.le_refl _, .of_ends hends, ?_⟩
    rw [← hlength, List.drop_length]
    rfl
  carried := h.carried_snoc hnow

/-- A message is all of the open part and the chunk that completes it. -/
theorem of_last (h : Accounted capacity r history) {data : Bytes}
    (hmessage : message = r.buffer ++ data)
    (hevent : event = .pushed .last data (.complete message)) :
    ∃ start, Carries (history ++ [event]) start history.length message := by
  obtain ⟨start, hle, hopen, hbuffer⟩ := h.opened
  refine ⟨start, hle, hopen.snoc (Nat.le_refl _) event, ⟨data, ?_⟩, ?_⟩
  · rw [List.getElem?_concat_length, hevent]
  · rw [List.extract_eq_take_drop, List.drop_append_of_le_length hle, List.take_of_length_le,
      List.flatMap_append, ← hbuffer, hmessage, hevent, List.flatMap_singleton]
    · rfl
    · rw [List.length_append, List.length_drop, List.length_singleton]
      omega

/-- A chunk that is kept makes the open part longer; a first one starts it. -/
theorem of_kept (h : Accounted capacity r history) {kept : Bytes} {indicator : Indicator}
    {data : Bytes} {result : Reassembly} (hevent : event = .pushed indicator data result)
    (hkept : kept = (if indicator = .first then [] else r.buffer) ++ data)
    (hroom : kept.length ≤ capacity) (hnot : ¬ event.Ends) :
    Accounted capacity { r with buffer := kept } (history ++ [event]) where
  size := h.size
  room := hroom
  opened := by
    have hlength : (history ++ [event]).length = history.length + 1 := List.length_append
    rw [hlength]
    by_cases hfirst : indicator = .first
    · have hevent' : event = .pushed .first data result := by rw [hevent, hfirst]
      refine ⟨history.length, Nat.le_succ _, .of_first hnot ⟨data, result, hevent'⟩, ?_⟩
      rw [List.drop_left, hkept, if_pos hfirst, hevent]
      exact (List.append_nil data).symm
    · obtain ⟨start, hle, hopen, hbuffer⟩ := h.opened
      have hnotFirst : ¬ event.IsFirst := by
        rintro ⟨_, _, heq⟩
        rw [hevent] at heq
        cases heq
        exact hfirst rfl
      refine ⟨start, Nat.le_succ_of_le hle, hopen.extend hnot hnotFirst, ?_⟩
      rw [List.drop_append_of_le_length hle, List.flatMap_append, ← hbuffer, hkept,
        if_neg hfirst, hevent, List.flatMap_singleton]
      rfl
  carried := by
    refine h.carried_snoc fun _ _ _ heq => ?_
    rw [heq] at hnot
    exact absurd trivial hnot

theorem act (h : Accounted capacity r history) (operation : Operation) :
    Accounted capacity (r.act operation).1 (history ++ [(r.act operation).2]) := by
  cases operation with
  | clear => exact h.of_ends trivial nofun
  | push indicator data =>
    rcases r.push_outcome indicator data with
      ⟨hclear, hends, hmessage⟩ | ⟨kept, hkept, hbuffer, hroom, hnot⟩
    · rw [show (r.act (.push indicator data)).1 = r.clear from hclear]
      refine h.of_ends hends fun indicator' data' message heq => ?_
      obtain ⟨rfl, rfl, hresult⟩ := Event.pushed.inj heq
      obtain ⟨rfl, hwhole, hpos, hle⟩ := hmessage message hresult
      exact ⟨rfl, hpos, h.size ▸ hle, h.of_last hwhole heq⟩
    · rw [show (r.act (.push indicator data)).1 = { r with buffer := kept } from hbuffer]
      exact h.of_kept rfl hkept (h.size ▸ hroom) hnot

theorem run (h : Accounted capacity r history) (operations : List Operation) :
    Accounted capacity (r.run operations).1 (history ++ (r.run operations).2) := by
  induction operations generalizing r history with
  | nil => simpa [Reassembler.run] using h
  | cons operation rest ih =>
    have hrest := ih (h.act operation)
    rw [List.append_assoc, List.singleton_append] at hrest
    exact hrest

end Accounted

/-- Whatever chunks come to a new buffer, and whenever it is emptied, it never holds more than it
has room for. What it hands out is not empty, has room in it, and is the data of chunks on end: they
were all kept, the last one completes the message, and they start with a first chunk or after the
latest emptying. No chunk goes into two messages. -/
theorem hands_out_what_was_pushed (capacity : Nat) (operations : List Operation) :
    let history := (run { capacity } operations).2
    history.map Event.operation = operations ∧
      (run { capacity } operations).1.buffer.length ≤ capacity ∧
      (∀ stop indicator data message,
        history[stop]? = some (.pushed indicator data (.complete message)) →
          indicator = .last ∧ 1 ≤ message.length ∧ message.length ≤ capacity ∧
            ∃ start, Carries history start stop message) ∧
      ∀ k start stop message start' stop' message',
        Carries history start stop message → Carries history start' stop' message' →
        start ≤ k ∧ k ≤ stop → start' ≤ k ∧ k ≤ stop' → start = start' ∧ stop = stop' := by
  intro history
  have haccounted : Accounted capacity (run { capacity } operations).1 history := by
    simpa using (Accounted.new capacity).run operations
  refine ⟨map_operation_run _ _, haccounted.room, haccounted.carried, ?_⟩
  intro k start stop message start' stop' message' h h' hk hk'
  exact h.alone h' hk hk'

/-- A first chunk throws away what was begun, an overflow throws away itself as well, and the two
messages that are whole share nothing. -/
theorem hands_out_what_was_pushed_after_an_overflow : ∃ start stop,
    Carries (run { capacity := 4 } [.push .mid [9], .push .first [1, 2], .push .mid [],
      .push .last [3], .push .first [1, 2, 3, 4, 5], .push .last [7], .clear]).2 1 3 [1, 2, 3] ∧
    Carries (run { capacity := 4 } [.push .mid [9], .push .first [1, 2], .push .mid [],
      .push .last [3], .push .first [1, 2, 3, 4, 5], .push .last [7], .clear]).2 start stop [7] ∧
    ¬ (start ≤ 3 ∧ 3 ≤ stop) := by
  obtain ⟨-, -, hcarried, halone⟩ := hands_out_what_was_pushed 4 [.push .mid [9],
    .push .first [1, 2], .push .mid [], .push .last [3], .push .first [1, 2, 3, 4, 5],
    .push .last [7], .clear]
  obtain ⟨-, -, -, start, hfirst⟩ := hcarried 3 .last [3] [1, 2, 3] rfl
  obtain ⟨-, -, -, start', hsecond⟩ := hcarried 5 .last [7] [7] rfl
  have hle := hfirst.ordered
  obtain rfl : start = 1 := by
    have hbytes := hfirst.bytes
    obtain rfl | rfl | rfl | rfl : start = 0 ∨ start = 1 ∨ start = 2 ∨ start = 3 := by omega
    · cases hbytes
    · rfl
    · cases hbytes
    · cases hbytes
  refine ⟨start', 5, hfirst, hsecond, fun hshared => ?_⟩
  have := (halone 3 _ _ _ _ _ _ hfirst hsecond ⟨by decide, by decide⟩ hshared).2
  omega

end EdgeGateway.Chunk.Reassembler
