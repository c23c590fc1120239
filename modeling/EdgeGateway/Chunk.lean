import EdgeGateway.Bytes

/-!
# EdgeGateway.Chunk

A modem command rarely fits into one attribute write, so it travels in chunks. A request chunk
names the modem session it is for, a response chunk does not:

* request  : `[handle: 4 bytes][indicator: 1][length: 1][data]`
* response : `[indicator: 1][length: 1][data]`

`Request.decode` wants the declared length to be the length of the data. `Response.decode` wants
at least that much and drops what follows. The length is one byte, so it wraps for data of more
than 255 bytes.
-/

namespace EdgeGateway.Chunk

/-- Position of a chunk within its message. -/
inductive Indicator where
  | first
  | mid
  | last
  deriving DecidableEq, Inhabited

namespace Indicator

def toByte : Indicator → UInt8
  | .last => 0
  | .first => 1
  | .mid => 2

def ofByte? (b : UInt8) : Option Indicator :=
  if b = 0 then some .last
  else if b = 1 then some .first
  else if b = 2 then some .mid
  else none

@[simp] theorem ofByte?_toByte (i : Indicator) : ofByte? i.toByte = some i := by
  cases i <;> decide

theorem ofByte?_eq_some_iff {b : UInt8} {i : Indicator} : ofByte? b = some i ↔ b = i.toByte := by
  constructor
  · intro h
    unfold ofByte? at h
    split at h
    · cases h
      assumption
    · split at h
      · cases h
        assumption
      · split at h <;> cases h
        assumption
  · rintro rfl
    exact ofByte?_toByte i

/-- Three of the bytes are indicators. -/
theorem ofByte?_eq_none_iff {b : UInt8} : ofByte? b = none ↔ 2 < b.toNat := by
  unfold ofByte?
  simp only [← UInt8.toNat_inj]
  grind

end Indicator

/-- Bytes before the data of a request chunk. -/
def requestHeader : Nat := 6

/-- Bytes before the data of a response chunk. -/
def responseHeader : Nat := 2

/-- Bytes at the end of a notification that some clients never receive. -/
def reservedTail : Nat := 3

/-- The most data one chunk can declare. -/
def maxData : Nat := 255

inductive DecodeError where
  | requestTooShort
  | responseTooShort
  | unknownIndicator
  | lengthMismatch
  | responseTruncated
  deriving DecidableEq

def DecodeError.message : DecodeError → String
  | .requestTooShort => "chunk too short"
  | .responseTooShort => "response chunk too short"
  | .unknownIndicator => "unknown chunk indicator"
  | .lengthMismatch => "chunk length mismatch"
  | .responseTruncated => "response chunk truncated"

/-- A chunk written by the client. -/
structure Request where
  handle : UInt32
  indicator : Indicator
  data : Bytes
  deriving DecidableEq

/-- A chunk notified to the client. -/
structure Response where
  indicator : Indicator
  data : Bytes
  deriving DecidableEq

def Request.encode (c : Request) : Bytes :=
  Bytes.ofUInt32 c.handle ++ c.indicator.toByte :: UInt8.ofNat c.data.length :: c.data

def Request.decode : Bytes → Except DecodeError Request
  | a :: b :: c :: d :: tag :: len :: data =>
    match Indicator.ofByte? tag with
    | none => .error .unknownIndicator
    | some indicator =>
      if data.length = len.toNat then .ok ⟨uint32Of a b c d, indicator, data⟩
      else .error .lengthMismatch
  | _ => .error .requestTooShort

def Response.encode (c : Response) : Bytes :=
  c.indicator.toByte :: UInt8.ofNat c.data.length :: c.data

def Response.decode : Bytes → Except DecodeError Response
  | tag :: len :: data =>
    match Indicator.ofByte? tag with
    | none => .error .unknownIndicator
    | some indicator =>
      if data.length < len.toNat then .error .responseTruncated
      else .ok ⟨indicator, data.take len.toNat⟩
  | _ => .error .responseTooShort

end EdgeGateway.Chunk
