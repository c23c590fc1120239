import EdgeGateway.Proofs.Chunk.Reassembly

/-!
# EdgeGateway.Proofs.Chunk.Transfer

What arrives of the commands that are sent.

* `round_trips`             : any number of commands, each of which the buffer has room for, arrive
  whole, in order and apart.
* `isolated_iff`            : so does one that finds the rest of another in the buffer, if it comes
  in several chunks. One that comes in a single chunk is joined to the rest.
* `oversized_discarded_iff` : of a command the buffer has no room for nothing arrives, unless what
  comes of it after the last overflow fits; that part arrives as if it were a command.
-/

namespace EdgeGateway.Chunk

open Reassembler

/-- The messages that chunks have completed. -/
def handedOut (results : List (Except DecodeError Reassembly)) : List Bytes :=
  results.filterMap fun
    | .ok result => result.message?
    | .error _ => none

theorem handedOut_append (xs ys : List (Except DecodeError Reassembly)) :
    handedOut (xs ++ ys) = handedOut xs ++ handedOut ys :=
  List.filterMap_append ..

theorem handedOut_ok (results : List Reassembly) :
    handedOut (results.map .ok) = results.filterMap Reassembly.message? := by
  rw [handedOut, List.filterMap_map]
  rfl

theorem mem_handedOut {results : List (Except DecodeError Reassembly)} {message : Bytes} :
    message ∈ handedOut results ↔ .ok (.complete message) ∈ results := by
  rw [handedOut, List.mem_filterMap]
  constructor
  · rintro ⟨x, hx, hm⟩
    cases x with
    | error e => cases hm
    | ok result =>
      cases result <;> cases hm
      exact hx
  · intro h
    exact ⟨_, h, rfl⟩

variable {capacity buffer : Nat} {r : Reassembler} {payload : Bytes}

/-! ## A command there is room for -/

/-- What the chunks of a command bring about in a buffer that has room for it. -/
def uneventful (capacity : Nat) (payload : Bytes) : List (Except DecodeError Reassembly) :=
  (List.replicate (fullPieces (min capacity maxData) payload.length) Reassembly.appended ++
    [if payload.isEmpty then Reassembly.nothing else .complete payload]).map .ok

theorem handedOut_uneventful (capacity : Nat) (payload : Bytes) :
    handedOut (uneventful capacity payload) = if payload = [] then [] else [payload] := by
  have hrep (n : Nat) :
      (List.replicate n Reassembly.appended).filterMap Reassembly.message? = [] := by
    simp [List.filterMap_eq_nil_iff, Reassembly.message?]
  rw [uneventful, handedOut_ok, List.filterMap_append, hrep, List.nil_append]
  cases payload <;> rfl

theorem exists_ok_of_mem_uneventful {x : Except DecodeError Reassembly}
    (h : x ∈ uneventful capacity payload) : ∃ result, x = .ok result ∧ result ≠ .overflow := by
  obtain ⟨result, hmem, rfl⟩ := List.mem_map.mp h
  refine ⟨result, rfl, ?_⟩
  rintro rfl
  rcases List.mem_append.mp hmem with hmem | hmem
  · cases List.eq_of_mem_replicate hmem
  · have hlast := List.mem_singleton.mp hmem
    split at hlast <;> cases hlast

/-- What was in the buffer does not matter to a command of several chunks. -/
theorem receive_of_room (handle : UInt32) (hc : 0 < capacity)
    (h : min capacity maxData < payload.length ∨ r.buffer = [])
    (hfit : payload.length ≤ r.capacity) :
    r.after ((chunksOf handle capacity payload).map Request.encode) = r.clear ∧
    r.receiveAll ((chunksOf handle capacity payload).map Request.encode) =
      uneventful capacity payload := by
  have hroom : r.clear.buffer.length + payload.length ≤ r.clear.capacity := by
    rw [clear, List.length_nil, Nat.zero_add]
    exact hfit
  rw [(receive_chunksOf handle hc).1, (receive_chunksOf handle hc).2,
    pushAll_opening (width_pos hc) h, pushAll_of_room (width_pos hc) hroom]
  exact ⟨rfl, rfl⟩

theorem receive_single (handle : UInt32) (hc : 0 < capacity)
    (h : payload.length ≤ min capacity maxData) :
    r.receiveAll ((chunksOf handle capacity payload).map Request.encode) =
      [.ok (r.push .last payload).2] := by
  rw [(receive_chunksOf handle hc).2, piecesFrom_of_fits h, pushAll_singleton]
  rfl

theorem isolated_iff (handle : UInt32) (hr : Reachable buffer r) (hc : 0 < capacity)
    (hne : payload ≠ []) (hfit : payload.length ≤ buffer) :
    ∃ chunks, requests handle payload capacity = some chunks ∧
      ((r.receiveAll (chunks.map Request.encode)).getLast? = some (.ok (.complete payload)) ∧
          handedOut (r.receiveAll (chunks.map Request.encode)) = [payload] ↔
        min capacity maxData < payload.length ∨ r.buffer = []) ∧
      (payload.length ≤ min capacity maxData →
        r.receiveAll (chunks.map Request.encode) =
          [.ok (if buffer < r.buffer.length + payload.length then .overflow
            else .complete (r.buffer ++ payload))]) := by
  obtain ⟨rfl, -⟩ := reachable_iff.mp hr
  have single (h : payload.length ≤ min capacity maxData) :
      r.receiveAll ((chunksOf handle capacity payload).map Request.encode) =
        [.ok (if r.capacity < r.buffer.length + payload.length then .overflow
          else .complete (r.buffer ++ payload))] := by
    rw [receive_single handle hc h]
    by_cases hroom : r.buffer.length + payload.length ≤ r.capacity
    · rw [push_last_of_room hroom, if_neg (Nat.not_lt.mpr hroom)]
      simp [hne]
    · rw [push_of_no_room (Nat.lt_of_not_le hroom) (by simp), if_pos (Nat.lt_of_not_le hroom)]
  refine ⟨_, requests_of_pos handle payload hc, ⟨?_, fun h => ?_⟩, single⟩
  · rintro ⟨hlast, -⟩
    by_cases hlong : min capacity maxData < payload.length
    · exact .inl hlong
    · right
      rw [single (Nat.le_of_not_lt hlong), List.getLast?_singleton, Option.some.injEq,
        Except.ok.injEq] at hlast
      split at hlast
      · cases hlast
      · exact List.append_left_eq_self.mp (Reassembly.complete.inj hlast)
  · obtain ⟨-, hall⟩ := receive_of_room handle hc h hfit
    rw [hall, handedOut_uneventful, if_neg hne]
    refine ⟨?_, rfl⟩
    rw [uneventful, List.map_append, List.map_singleton, List.getLast?_append_of_ne_nil _ (by simp)]
    simp [hne]

/-- Two bytes of another command do not get into a command of two chunks. -/
theorem isolated_in_two_chunks : ∃ r chunks, Reachable 64 r ∧ r.buffer = [9, 9] ∧
    requests 7 [1, 2, 3] 2 = some chunks ∧
    handedOut (r.receiveAll (chunks.map Request.encode)) = [[1, 2, 3]] := by
  have hr : Reachable 64 { capacity := 64, buffer := [9, 9] } := reachable_iff.mpr (by decide)
  obtain ⟨chunks, hchunks, hiff, -⟩ : ∃ chunks, requests 7 [1, 2, 3] 2 = some chunks ∧ _ :=
    isolated_iff 7 hr (by decide) (by decide) (by decide)
  exact ⟨_, chunks, hr, rfl, hchunks, (hiff.mpr (.inl (by decide))).2⟩

/-- They do get into a command of one chunk. -/
theorem not_isolated_in_one_chunk : ∃ r chunks, Reachable 64 r ∧ r.buffer = [9, 9] ∧
    requests 7 [1, 2, 3] 5 = some chunks ∧
    r.receiveAll (chunks.map Request.encode) = [.ok (.complete [9, 9, 1, 2, 3])] := by
  refine ⟨{ capacity := 64, buffer := [9, 9] }, _, reachable_iff.mpr (by decide), rfl,
    requests_of_pos 7 [1, 2, 3] (by decide), ?_⟩
  rw [receive_single 7 (by decide) (by decide)]
  rfl

/-! ## A command there is no room for -/

theorem handedOut_of_fresh (handle : UInt32) (buffer : Nat) (hc : 0 < capacity)
    (hne : payload ≠ []) :
    handedOut (receiveAll { capacity := buffer }
        ((chunksOf handle capacity payload).map Request.encode)) =
      if kept (min capacity maxData) buffer 0 payload.length ≤ buffer then
        [payload.rtake (kept (min capacity maxData) buffer 0 payload.length)]
      else [] := by
  rw [(receive_chunksOf handle hc).2, pushAll_opening (width_pos hc) (.inr rfl), handedOut_ok]
  exact pushAll_wraps (r := { capacity := buffer }) (width_pos hc) hne (Nat.zero_mul _).symm
    (Nat.zero_le _)

theorem overflow_mem_of_fresh (handle : UInt32) (hc : 0 < capacity)
    (hbig : buffer < payload.length) :
    .ok .overflow ∈ receiveAll { capacity := buffer }
      ((chunksOf handle capacity payload).map Request.encode) := by
  rw [(receive_chunksOf handle hc).2, pushAll_opening (width_pos hc) (.inr rfl)]
  refine List.mem_map_of_mem (overflow_mem_pushAll (width_pos hc) ?_)
  rw [clear, List.length_nil, Nat.zero_add]
  exact hbig

theorem oversized_discarded_iff (handle : UInt32) (hc : 0 < capacity)
    (hbig : buffer < payload.length) :
    ∃ results, transfer handle payload capacity buffer = some results ∧
      .ok .overflow ∈ results ∧
      ((∀ message, .ok (.complete message) ∉ results) ↔
        buffer < kept (min capacity maxData) buffer 0 payload.length) ∧
      (kept (min capacity maxData) buffer 0 payload.length ≤ buffer →
        handedOut results =
          [payload.rtake (kept (min capacity maxData) buffer 0 payload.length)]) := by
  have hne : payload ≠ [] := by
    rintro rfl
    exact absurd hbig (Nat.not_lt_zero _)
  have hout := handedOut_of_fresh handle buffer hc hne
  refine ⟨_, by rw [transfer, requests_of_pos handle payload hc]; rfl,
    overflow_mem_of_fresh handle hc hbig, ?_, fun hle => by rw [hout, if_pos hle]⟩
  simp only [← mem_handedOut, hout]
  by_cases hle : kept (min capacity maxData) buffer 0 payload.length ≤ buffer
  · simp [hle]
  · simp [hle, Nat.lt_of_not_le hle]

/-- Eight bytes in two chunks do not fit into a buffer of six, and nothing of them arrives. -/
theorem oversized_discarded_in_two_chunks :
    ∃ results, transfer 7 [1, 2, 3, 4, 5, 6, 7, 8] 4 6 = some results ∧
      ∀ message, .ok (.complete message) ∉ results := by
  obtain ⟨results, hres, -, hiff, -⟩ :
      ∃ results, transfer 7 [1, 2, 3, 4, 5, 6, 7, 8] 4 6 = some results ∧ _ :=
    oversized_discarded_iff 7 (by decide) (by decide)
  exact ⟨results, hres, hiff.mpr (by decide)⟩

/-- Seven bytes in three chunks do not fit into a buffer of four, and the last of them arrives. -/
theorem oversized_tail_handed_out :
    4 < ([1, 2, 3, 4, 5, 6, 7] : Bytes).length ∧ transfer 7 [1, 2, 3, 4, 5, 6, 7] 3 4 =
      some [.ok .appended, .ok .overflow, .ok (.complete [7])] := by
  refine ⟨by decide, ?_⟩
  rw [transfer, requests_of_pos 7 _ (by decide), Option.map_some,
    (receive_chunksOf 7 (by decide)).2, piecesFrom_of_long (by decide) (by decide),
    piecesFrom_of_long (by decide) (by decide), piecesFrom_of_fits (by decide)]
  rfl

/-! ## Any number of commands -/

theorem mapM_requests (handle : UInt32) {messages : List (Bytes × Nat)}
    (hcut : ∀ m ∈ messages, 0 < m.2) :
    messages.mapM (fun m => requests handle m.1 m.2) =
      some (messages.map fun m => chunksOf handle m.2 m.1) := by
  induction messages with
  | nil => rfl
  | cons m rest ih =>
    rw [List.mapM_cons, requests_of_pos handle m.1 (hcut m (List.mem_cons_self ..)),
      ih fun m hm => hcut m (List.mem_cons_of_mem _ hm)]
    rfl

/-- Every command finds the buffer as empty as the first one did. -/
theorem receive_messages (handle : UInt32) {messages : List (Bytes × Nat)}
    (hcut : ∀ m ∈ messages, 0 < m.2) (hfit : ∀ m ∈ messages, m.1.length ≤ r.capacity)
    (hr : r.buffer = []) :
    r.after ((messages.map fun m => chunksOf handle m.2 m.1).flatten.map Request.encode) = r ∧
    r.receiveAll ((messages.map fun m => chunksOf handle m.2 m.1).flatten.map Request.encode) =
      messages.flatMap fun m => uneventful m.2 m.1 := by
  induction messages with
  | nil => exact ⟨rfl, rfl⟩
  | cons m rest ih =>
    obtain ⟨hafter, hall⟩ := ih (fun m hm => hcut m (List.mem_cons_of_mem _ hm))
      fun m hm => hfit m (List.mem_cons_of_mem _ hm)
    obtain ⟨hafter₁, hall₁⟩ := receive_of_room handle (hcut m (List.mem_cons_self ..)) (.inr hr)
      (hfit m (List.mem_cons_self ..))
    rw [clear_of_nil hr] at hafter₁
    rw [List.map_cons, List.flatten_cons, List.map_append, after_append, receiveAll_append,
      hafter₁, hall₁, hafter, hall]
    exact ⟨rfl, rfl⟩

theorem handedOut_flatMap (messages : List (Bytes × Nat)) :
    handedOut (messages.flatMap fun m => uneventful m.2 m.1) =
      (messages.map Prod.fst).filter (· ≠ []) := by
  induction messages with
  | nil => rfl
  | cons m rest ih =>
    rw [List.flatMap_cons, handedOut_append, handedOut_uneventful, ih, List.map_cons]
    by_cases hm : m.1 = [] <;> simp [hm]

theorem round_trips (handle : UInt32) {messages : List (Bytes × Nat)}
    (hcut : ∀ m ∈ messages, 0 < m.2) (hfit : ∀ m ∈ messages, m.1.length ≤ buffer) :
    ∃ chunks : List (List Request),
      messages.mapM (fun m => requests handle m.1 m.2) = some chunks ∧
      List.Forall₂ (fun m cs => cs.length = max 1 (m.1.length ⌈/⌉ min m.2 maxData) ∧
        cs.map Request.indicator = tags cs.length ∧
        ∀ c ∈ cs, c.handle = handle ∧ Request.decode c.encode = .ok c) messages chunks ∧
      (∀ x ∈ receiveAll { capacity := buffer } (chunks.flatten.map Request.encode),
        ∃ result, x = .ok result ∧ result ≠ .overflow) ∧
      handedOut (receiveAll { capacity := buffer } (chunks.flatten.map Request.encode)) =
        (messages.map Prod.fst).filter (· ≠ []) ∧
      ∀ sent, sent <+: chunks →
        (after { capacity := buffer } (sent.flatten.map Request.encode)).buffer = [] := by
  obtain ⟨-, hall⟩ := receive_messages (r := { capacity := buffer }) handle hcut hfit rfl
  refine ⟨_, mapM_requests handle hcut, ?_, ?_, ?_, ?_⟩
  · rw [List.forall₂_map_right_iff, List.forall₂_same]
    intro m hm
    have hc := hcut m hm
    exact ⟨length_chunksOf handle m.1 hc, tags_chunksOf handle m.1 hc, fun c hmem =>
      ⟨handle_of_mem_chunksOf hmem,
        Request.decode_encode (length_le_of_mem_chunksOf handle m.1 hc hmem)⟩⟩
  · intro x hx
    rw [hall] at hx
    obtain ⟨m, -, hx⟩ := List.mem_flatMap.mp hx
    exact exists_ok_of_mem_uneventful hx
  · rw [hall, handedOut_flatMap]
  · rintro sent ⟨unsent, hsent⟩
    obtain ⟨ms, ms', rfl, rfl, -⟩ := List.map_eq_append_iff.mp hsent.symm
    obtain ⟨hafter, -⟩ := receive_messages (r := { capacity := buffer }) handle
      (fun m hm => hcut m (List.mem_append_left _ hm))
      (fun m hm => hfit m (List.mem_append_left _ hm)) rfl
    rw [hafter]

/-- Three commands through a buffer of three bytes, one of them empty. -/
theorem round_trips_around_empty : ∃ chunks,
    [([1, 2, 3], 2), ([], 1), ([4], 300)].mapM (fun m => requests 7 m.1 m.2) = some chunks ∧
    handedOut (receiveAll { capacity := 3 } (chunks.flatten.map Request.encode)) =
      [[1, 2, 3], [4]] := by
  let messages : List (Bytes × Nat) := [([1, 2, 3], 2), ([], 1), ([4], 300)]
  have hcut : ∀ m ∈ messages, 0 < m.2 := by decide
  have hfit : ∀ m ∈ messages, m.1.length ≤ 3 := by decide
  obtain ⟨chunks, hchunks, -, -, hout, -⟩ := round_trips 7 hcut hfit
  exact ⟨chunks, hchunks, hout⟩

end EdgeGateway.Chunk
