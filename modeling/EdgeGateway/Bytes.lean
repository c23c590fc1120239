/-!
# EdgeGateway.Bytes

Byte strings and the two ways they are written down.

* `Bytes.hex`        : two lowercase hexadecimal digits a byte.
* `Bytes.ofUInt16`, `Bytes.ofUInt32` : little-endian words.
* `uint16Of`, `uint32Of` : the words read back.
* `Bytes.toText?`    : the text a byte string encodes in UTF-8.
-/

namespace EdgeGateway

abbrev Bytes := List UInt8

/-- The digit of a value below sixteen. -/
def hexDigit (n : Nat) : Char :=
  if n < 10 then Char.ofNat ('0'.toNat + n) else Char.ofNat ('a'.toNat + (n - 10))

namespace Bytes

def hexByte (b : UInt8) : List Char :=
  [hexDigit (b.toNat / 16), hexDigit (b.toNat % 16)]

def hex (bs : Bytes) : String :=
  String.ofList (bs.flatMap hexByte)

def ofUInt16 (w : UInt16) : Bytes :=
  [UInt8.ofNat w.toNat, UInt8.ofNat (w.toNat / 256)]

def ofUInt32 (w : UInt32) : Bytes :=
  [UInt8.ofNat w.toNat, UInt8.ofNat (w.toNat / 256), UInt8.ofNat (w.toNat / 65536),
    UInt8.ofNat (w.toNat / 16777216)]

def toText? (bs : Bytes) : Option String :=
  String.fromUTF8? ⟨bs.toArray⟩

def ofText (s : String) : Bytes :=
  s.toUTF8.data.toList

end Bytes

/-- The word whose little-endian bytes are given. -/
def uint16Of (low high : UInt8) : UInt16 :=
  UInt16.ofNat (low.toNat + 256 * high.toNat)

/-- The word whose little-endian bytes are given. -/
def uint32Of (a b c d : UInt8) : UInt32 :=
  UInt32.ofNat (a.toNat + 256 * b.toNat + 65536 * c.toNat + 16777216 * d.toNat)

theorem uint16Of_ofUInt16 (w : UInt16) :
    uint16Of (UInt8.ofNat w.toNat) (UInt8.ofNat (w.toNat / 256)) = w := by
  apply UInt16.toNat_inj.mp
  have h := w.toNat_lt
  simp only [uint16Of, UInt16.toNat_ofNat', UInt8.toNat_ofNat']
  omega

theorem uint32Of_ofUInt32 (w : UInt32) :
    uint32Of (UInt8.ofNat w.toNat) (UInt8.ofNat (w.toNat / 256)) (UInt8.ofNat (w.toNat / 65536))
      (UInt8.ofNat (w.toNat / 16777216)) = w := by
  apply UInt32.toNat_inj.mp
  have h := w.toNat_lt
  simp only [uint32Of, UInt32.toNat_ofNat', UInt8.toNat_ofNat']
  omega

theorem ofUInt32_uint32Of (a b c d : UInt8) : Bytes.ofUInt32 (uint32Of a b c d) = [a, b, c, d] := by
  have ha := a.toNat_lt
  have hb := b.toNat_lt
  have hc := c.toNat_lt
  have hd := d.toNat_lt
  simp only [Bytes.ofUInt32, uint32Of, UInt32.toNat_ofNat', List.cons.injEq, and_true,
    ← UInt8.toNat_inj, UInt8.toNat_ofNat']
  omega

end EdgeGateway
