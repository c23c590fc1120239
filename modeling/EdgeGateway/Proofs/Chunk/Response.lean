import EdgeGateway.Proofs.Chunk.Pieces

/-!
# EdgeGateway.Proofs.Chunk.Response

A response goes out in chunks, each of which a notification has room for, and its reader gets it
back (`response_round_trips`).

* `responseCapacity_eq_some_iff` : the data that a chunk may carry on a connection.
* `responsesOf`                  : the chunks of a response, for any capacity but zero.
* `Response.decode_encode`       : a chunk whose length byte tells its length is read back, also
  with bytes behind it (`Response.decode_encode_append`).
-/

namespace EdgeGateway.Chunk

theorem Response.decode_encode_append {c : Response} (h : c.data.length ≤ maxData)
    (rest : Bytes) : decode (c.encode ++ rest) = .ok c := by
  have hroom : ¬ c.data.length + rest.length < c.data.length := by omega
  simp only [encode, List.cons_append, decode, Indicator.ofByte?_toByte, toNat_lengthByte h,
    List.length_append, if_neg hroom, List.take_left]

theorem Response.decode_encode {c : Response} (h : c.data.length ≤ maxData) :
    decode c.encode = .ok c := by
  rw [← decode_encode_append h [], List.append_nil]

theorem Response.length_encode (c : Response) :
    c.encode.length = responseHeader + c.data.length := by
  simp only [encode, responseHeader, List.length_cons]
  omega

/-! ## Capacity -/

variable {mtu characteristic capacity : Nat}

theorem responseCapacity_eq_none_iff :
    responseCapacity mtu characteristic = none ↔
      min mtu characteristic ≤ responseHeader + reservedTail := by
  unfold responseCapacity
  by_cases h : min mtu characteristic - (responseHeader + reservedTail) = 0
  · simp only [h, if_true, true_iff]
    omega
  · simp only [h, if_false, reduceCtorEq, false_iff]
    omega

theorem responseCapacity_eq_some_iff :
    responseCapacity mtu characteristic = some capacity ↔
      responseHeader + reservedTail < min mtu characteristic ∧
        capacity = min (min mtu characteristic - (responseHeader + reservedTail)) maxData := by
  unfold responseCapacity
  by_cases h : min mtu characteristic - (responseHeader + reservedTail) = 0
  · simp only [h, if_true, reduceCtorEq, false_iff]
    omega
  · simp only [h, if_false, Option.some.injEq]
    omega

/-! ## Chunks -/

/-- The chunks of a response, where a capacity allows for any. -/
def responsesOf (capacity : Nat) (response : Bytes) : List Response :=
  (piecesFrom capacity true response).map fun p => ⟨p.1, p.2⟩

section ResponsesOf

variable (response : Bytes) (hc : 0 < capacity)
include hc

theorem responses_of_pos : responses response capacity = some (responsesOf capacity response) := by
  rw [responses, pieces, if_neg (Nat.ne_of_gt hc)]
  rfl

theorem length_responsesOf :
    (responsesOf capacity response).length = max 1 (response.length ⌈/⌉ capacity) := by
  rw [responsesOf, List.length_map, length_piecesFrom hc, fullPieces_add_one hc]

theorem responsesOf_ne_nil : responsesOf capacity response ≠ [] := by
  apply List.ne_nil_of_length_pos
  rw [length_responsesOf response hc]
  omega

theorem tags_responsesOf : (responsesOf capacity response).map (·.indicator) =
    tags (responsesOf capacity response).length := by
  rw [responsesOf, List.length_map, ← tags_piecesFrom hc, List.map_map]
  rfl

theorem flatMap_responsesOf : (responsesOf capacity response).flatMap (·.data) = response := by
  rw [responsesOf, List.flatMap_map]
  exact flatMap_piecesFrom hc

theorem length_le_of_mem_responsesOf {c : Response} (h : c ∈ responsesOf capacity response) :
    c.data.length ≤ capacity := by
  obtain ⟨p, hp, rfl⟩ := List.mem_map.mp h
  exact length_le_of_mem_piecesFrom hc hp

end ResponsesOf

/-! ## The way to the client -/

/-- Where a notification has room for any data of a response, the response is cut into as few
chunks as its length needs, tagged by their places. Every chunk leaves the tail of the notification
free and is read back as it was, and the data of all of them is the response. There is no room
where five bytes or fewer are left. -/
theorem response_round_trips (mtu characteristic : Nat) (response : Bytes) :
    (responseCapacity mtu characteristic = none ↔ min mtu characteristic ≤ 5) ∧
    ∀ capacity, responseCapacity mtu characteristic = some capacity →
      1 ≤ capacity ∧ capacity ≤ 255 ∧
      ∃ chunks, responses response capacity = some chunks ∧
        chunks.length = max 1 (response.length ⌈/⌉ capacity) ∧
        chunks.map (·.indicator) = tags chunks.length ∧
        (∀ c ∈ chunks, c.encode.length ≤ min mtu characteristic - 3 ∧
          Response.decode c.encode = .ok c) ∧
        chunks.flatMap (·.data) = response := by
  refine ⟨responseCapacity_eq_none_iff, ?_⟩
  intro capacity h
  obtain ⟨hroom, hcapacity⟩ := responseCapacity_eq_some_iff.mp h
  simp only [responseHeader, reservedTail, maxData] at hroom hcapacity
  have hpos : 0 < capacity := by omega
  refine ⟨hpos, by omega, responsesOf capacity response, responses_of_pos response hpos,
    length_responsesOf response hpos, tags_responsesOf response hpos, ?_,
    flatMap_responsesOf response hpos⟩
  intro c hc
  have hlen := length_le_of_mem_responsesOf response hpos hc
  constructor
  · rw [Response.length_encode, responseHeader]
    omega
  · apply Response.decode_encode
    rw [maxData]
    omega

/-- Before any exchange of transmission units a chunk carries 18 bytes. -/
theorem response_round_trips_at_default_mtu :
    responseCapacity 23 512 = some 18 ∧
    ∃ chunks, responses (List.replicate 37 0x90) 18 = some chunks ∧
      chunks.map (·.indicator) = [.first, .mid, .last] ∧
      (∀ c ∈ chunks, c.encode.length ≤ 20 ∧ Response.decode c.encode = .ok c) ∧
      chunks.flatMap (·.data) = List.replicate 37 0x90 := by
  have hcapacity : responseCapacity 23 512 = some 18 := by decide
  refine ⟨hcapacity, ?_⟩
  obtain ⟨-, -, chunks, hchunks, hlength, htags, hread, hdata⟩ :=
    (response_round_trips 23 512 (List.replicate 37 0x90)).2 18 hcapacity
  have hthree : chunks.length = 3 := by
    rw [hlength, List.length_replicate, Nat.ceilDiv_eq_add_pred_div]
    rfl
  rw [hthree] at htags
  exact ⟨chunks, hchunks, htags, hread, hdata⟩

end EdgeGateway.Chunk
