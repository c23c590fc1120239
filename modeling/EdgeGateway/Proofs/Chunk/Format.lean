import EdgeGateway.Proofs.Chunk.Pieces
import EdgeGateway.Proofs.Chunk.Response

/-!
# EdgeGateway.Proofs.Chunk.Format

Which bytes are read as a chunk.

* `Request.decode_eq_ok_iff`   : those that the chunk is written as, and no others.
* `Response.decode_eq_ok_iff`  : those that begin with what the chunk is written as.
* `Request.Refused`, `Response.Refused` : why other bytes are refused.

A chunk of more data than its length byte can tell is not read back. As a request it is refused
(`Request.decode_encode_of_long`), and of a response only the part that is told is read.
-/

namespace EdgeGateway.Chunk

theorem toNat_le_maxData (b : UInt8) : b.toNat ≤ maxData :=
  Nat.le_of_lt_succ b.toNat_lt

namespace Request

variable {bytes : Bytes} {c : Request}

/-- Why bytes are no request chunk. -/
inductive Refused (bytes : Bytes) : DecodeError → Prop where
  | tooShort : bytes.length < requestHeader → Refused bytes .requestTooShort
  | unknownIndicator {tag : UInt8} : requestHeader ≤ bytes.length → bytes[4]? = some tag →
      2 < tag.toNat → Refused bytes .unknownIndicator
  | lengthMismatch {tag told : UInt8} : bytes[4]? = some tag → tag.toNat ≤ 2 →
      bytes[5]? = some told → bytes.length ≠ requestHeader + told.toNat →
      Refused bytes .lengthMismatch

/-- All that can come of bytes: the chunk they spell, or a reason to refuse them. -/
theorem decode_cases (bytes : Bytes) :
    (∃ c, decode bytes = .ok c ∧ c.data.length ≤ maxData ∧ c.encode = bytes) ∨
      ∃ e, decode bytes = .error e ∧ Refused bytes e := by
  unfold decode
  split
  · rename_i b₀ b₁ b₂ b₃ tag told data
    split
    · rename_i hnone
      exact .inr ⟨_, rfl, .unknownIndicator (by simp [requestHeader]) rfl
        (Indicator.ofByte?_eq_none_iff.mp hnone)⟩
    · rename_i indicator hsome
      by_cases hlen : data.length = told.toNat
      · refine .inl ⟨_, if_pos hlen, hlen ▸ toNat_le_maxData told, ?_⟩
        rw [encode, ofUInt32_uint32Of, ← Indicator.ofByte?_eq_some_iff.mp hsome, hlen,
          UInt8.ofNat_toNat]
        rfl
      · have hknown : tag.toNat ≤ 2 := by
          rw [← Nat.not_lt, ← Indicator.ofByte?_eq_none_iff, hsome]
          exact Option.some_ne_none _
        refine .inr ⟨_, if_neg hlen, .lengthMismatch rfl hknown rfl ?_⟩
        simp only [List.length_cons, requestHeader]
        omega
  · rename_i hshort
    refine .inr ⟨_, rfl, .tooShort ?_⟩
    rcases bytes with _ | ⟨b₀, _ | ⟨b₁, _ | ⟨b₂, _ | ⟨b₃, _ | ⟨tag, _ | ⟨told, data⟩⟩⟩⟩⟩⟩
    case cons.cons.cons.cons.cons.cons => exact absurd rfl (hshort b₀ b₁ b₂ b₃ tag told data)
    all_goals simp [requestHeader]

theorem decode_eq_ok_iff : decode bytes = .ok c ↔ c.data.length ≤ maxData ∧ c.encode = bytes := by
  constructor
  · intro h
    rcases decode_cases bytes with ⟨c', hok, hread⟩ | ⟨e, herror, -⟩
    · rw [h] at hok
      cases hok
      exact hread
    · rw [h] at herror
      cases herror
  · rintro ⟨hlen, rfl⟩
    exact decode_encode hlen

/-- The length byte has wrapped, and tells less than there is. -/
theorem decode_encode_of_long (h : maxData < c.data.length) :
    decode c.encode = .error .lengthMismatch := by
  have hlen : c.data.length ≠ (UInt8.ofNat c.data.length).toNat := by
    have := toNat_le_maxData (UInt8.ofNat c.data.length)
    omega
  simp only [encode, Bytes.ofUInt32, List.cons_append, List.nil_append, decode,
    Indicator.ofByte?_toByte, if_neg hlen]

end Request

namespace Response

variable {bytes rest : Bytes} {c : Response}

/-- Why bytes are no response chunk. What follows the chunk is no reason. -/
inductive Refused (bytes : Bytes) : DecodeError → Prop where
  | tooShort : bytes.length < responseHeader → Refused bytes .responseTooShort
  | unknownIndicator {tag : UInt8} : responseHeader ≤ bytes.length → bytes[0]? = some tag →
      2 < tag.toNat → Refused bytes .unknownIndicator
  | truncated {tag told : UInt8} : bytes[0]? = some tag → tag.toNat ≤ 2 →
      bytes[1]? = some told → bytes.length < responseHeader + told.toNat →
      Refused bytes .responseTruncated

theorem decode_cases (bytes : Bytes) :
    (∃ c, decode bytes = .ok c ∧ c.data.length ≤ maxData ∧ c.encode <+: bytes) ∨
      ∃ e, decode bytes = .error e ∧ Refused bytes e := by
  unfold decode
  split
  · rename_i tag told data
    split
    · rename_i hnone
      exact .inr ⟨_, rfl, .unknownIndicator (by simp [responseHeader]) rfl
        (Indicator.ofByte?_eq_none_iff.mp hnone)⟩
    · rename_i indicator hsome
      by_cases hlen : data.length < told.toNat
      · have hknown : tag.toNat ≤ 2 := by
          rw [← Nat.not_lt, ← Indicator.ofByte?_eq_none_iff, hsome]
          exact Option.some_ne_none _
        refine .inr ⟨_, if_pos hlen, .truncated rfl hknown rfl ?_⟩
        simp only [List.length_cons, responseHeader]
        omega
      · have htold : (data.take told.toNat).length = told.toNat :=
          List.length_take_of_le (Nat.le_of_not_lt hlen)
        refine .inl ⟨_, if_neg hlen, Eq.trans_le htold (toNat_le_maxData told), ?_⟩
        rw [encode, htold, ← Indicator.ofByte?_eq_some_iff.mp hsome, UInt8.ofNat_toNat,
          List.prefix_cons_inj, List.prefix_cons_inj]
        exact List.take_prefix ..
  · rename_i hshort
    refine .inr ⟨_, rfl, .tooShort ?_⟩
    rcases bytes with _ | ⟨tag, _ | ⟨told, data⟩⟩
    case cons.cons => exact absurd rfl (hshort tag told data)
    all_goals simp [responseHeader]

theorem decode_eq_ok_iff :
    decode bytes = .ok c ↔ c.data.length ≤ maxData ∧ c.encode <+: bytes := by
  constructor
  · intro h
    rcases decode_cases bytes with ⟨c', hok, hread⟩ | ⟨e, herror, -⟩
    · rw [h] at hok
      cases hok
      exact hread
    · rw [h] at herror
      cases herror
  · rintro ⟨hlen, rest, rfl⟩
    exact decode_encode_append hlen rest

end Response

/-! ## What is accepted -/

/-- A request is read from what it is written as, and from nothing else; a response is read from
what it is written as, whatever follows. All other bytes are refused, and it is told why. A request
of more data than a chunk can declare is never read back, not even in part. -/
theorem reads_what_is_written (bytes : Bytes) :
    (∀ c, Request.decode bytes = .ok c ↔ c.data.length ≤ 255 ∧ c.encode = bytes) ∧
    (∀ c : Request, 255 < c.data.length → Request.decode c.encode = .error .lengthMismatch) ∧
    (∀ c, Response.decode bytes = .ok c ↔ c.data.length ≤ 255 ∧ c.encode <+: bytes) ∧
    ((∀ c : Request, c.data.length ≤ 255 → c.encode ≠ bytes) →
      ∃ e, Request.decode bytes = .error e ∧ Request.Refused bytes e) ∧
    ((∀ c : Response, c.data.length ≤ 255 → ¬ c.encode <+: bytes) →
      ∃ e, Response.decode bytes = .error e ∧ Response.Refused bytes e) := by
  refine ⟨fun _ => Request.decode_eq_ok_iff, fun _ => Request.decode_encode_of_long,
    fun _ => Response.decode_eq_ok_iff, fun hno => ?_, fun hno => ?_⟩
  · rcases Request.decode_cases bytes with ⟨c, -, hlen, hwritten⟩ | hrefused
    · exact absurd hwritten (hno c hlen)
    · exact hrefused
  · rcases Response.decode_cases bytes with ⟨c, -, hlen, hwritten⟩ | hrefused
    · exact absurd hwritten (hno c hlen)
    · exact hrefused

/-- A request of 300 bytes is refused, so is one with an indicator there is not, and a response is
read although a byte follows it. -/
theorem reads_what_is_written_past_the_limit :
    255 < (List.replicate 300 (0 : UInt8)).length ∧
    Request.decode (Request.encode ⟨7, .last, List.replicate 300 0⟩) = .error .lengthMismatch ∧
    (∀ c : Request, c.data.length ≤ 255 → c.encode ≠ [7, 0, 0, 0, 9, 0]) ∧
    (∃ e, Request.decode [7, 0, 0, 0, 9, 0] = .error e ∧ Request.Refused [7, 0, 0, 0, 9, 0] e) ∧
    Response.encode ⟨.last, [5]⟩ <+: [0, 1, 5, 6] ∧
    Response.decode [0, 1, 5, 6] = .ok ⟨.last, [5]⟩ := by
  have hlong : 255 < (List.replicate 300 (0 : UInt8)).length := by
    rw [List.length_replicate]
    decide
  obtain ⟨haccept, -, -, hrefuse, -⟩ := reads_what_is_written [7, 0, 0, 0, 9, 0]
  have hno (c : Request) (hlen : c.data.length ≤ 255) : c.encode ≠ [7, 0, 0, 0, 9, 0] := by
    intro hwritten
    cases (haccept c).mpr ⟨hlen, hwritten⟩
  refine ⟨hlong, (reads_what_is_written []).2.1 ⟨7, .last, List.replicate 300 0⟩ hlong, hno,
    hrefuse hno, ⟨[6], rfl⟩, ?_⟩
  exact ((reads_what_is_written [0, 1, 5, 6]).2.2.1 ⟨.last, [5]⟩).mpr ⟨by decide, [6], rfl⟩

end EdgeGateway.Chunk
