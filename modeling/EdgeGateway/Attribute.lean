import EdgeGateway.Bisection
import EdgeGateway.Bytes

/-!
# EdgeGateway.Attribute

The attribute table of the server: attributes in ascending order of their handles, which
`AttributeTable.ofList` checks once, so that every search may halve the table.

* `read`, `readByType`, `write` : what a client may do.
* `store`, `clearSubscriptions` : what the server does itself.
* `subscription` : the two bits a client sets to be notified, in the descriptor it wrote.
-/

namespace EdgeGateway

/-- Codes of attribute types. Characteristic values carry a long identifier of their own and are
all tagged alike. -/
def AttributeType.primaryService : UInt16 := 0x2800
def AttributeType.characteristic : UInt16 := 0x2803
def AttributeType.clientConfiguration : UInt16 := 0x2902
def AttributeType.characteristicValue : UInt16 := 0x0000

/-- Why a client's request is refused. -/
inductive GattStatus where
  | invalidHandle
  | readNotPermitted
  | writeNotPermitted
  | invalidOffset
  | attributeNotFound
  | invalidAttrLength
  | insufficientResources
  | valueNotAllowed
  deriving DecidableEq

namespace GattStatus

def code : GattStatus → Nat
  | .invalidHandle => 0x01
  | .readNotPermitted => 0x02
  | .writeNotPermitted => 0x03
  | .invalidOffset => 0x07
  | .attributeNotFound => 0x0a
  | .invalidAttrLength => 0x0d
  | .insufficientResources => 0x11
  | .valueNotAllowed => 0x13

def name : GattStatus → String
  | .invalidHandle => "InvalidHandle"
  | .readNotPermitted => "ReadNotPermitted"
  | .writeNotPermitted => "WriteNotPermitted"
  | .invalidOffset => "InvalidOffset"
  | .attributeNotFound => "AttributeNotFound"
  | .invalidAttrLength => "InvalidAttrLength"
  | .insufficientResources => "InsufficientResources"
  | .valueNotAllowed => "ValueNotAllowed"

def message : GattStatus → String
  | .invalidHandle => "invalid handle"
  | .readNotPermitted => "read not permitted"
  | .writeNotPermitted => "write not permitted"
  | .invalidOffset => "invalid offset"
  | .attributeNotFound => "attribute not found"
  | .invalidAttrLength => "invalid attribute value length"
  | .insufficientResources => "insufficient resources"
  | .valueNotAllowed => "value not allowed"

end GattStatus

structure Attribute where
  handle : UInt16
  type : UInt16
  readable : Bool
  writable : Bool
  /-- the longest value that may be stored -/
  capacity : Nat
  value : Bytes
  deriving DecidableEq, Inhabited

namespace Attribute

/-- A value that is read and never changes. -/
def fixed (handle type : UInt16) (value : Bytes) : Attribute :=
  ⟨handle, type, true, false, value.length, value⟩

/-- The value of a characteristic, empty at first. -/
def characteristicValue (handle : UInt16) (readable writable : Bool) (capacity : Nat) :
    Attribute :=
  ⟨handle, AttributeType.characteristicValue, readable, writable, capacity, []⟩

/-- The descriptor a client writes to be notified, off at first. -/
def clientConfiguration (handle : UInt16) : Attribute :=
  ⟨handle, AttributeType.clientConfiguration, true, true, 2, [0, 0]⟩

def isClientConfiguration (a : Attribute) : Bool := a.type == AttributeType.clientConfiguration

end Attribute

/-- Why a list of attributes is no table. -/
inductive TableError where
  | unsorted (before after : UInt16)
  | duplicate (handle : UInt16)
  | valueTooLong (handle : UInt16)
  deriving DecidableEq

/-- A number of at least so many hexadecimal digits. -/
def paddedHex (width n : Nat) : String :=
  let digits := Nat.toDigits 16 n
  String.ofList (List.replicate (width - digits.length) '0' ++ digits)

def handleText (handle : UInt16) : String := "0x" ++ paddedHex 4 handle.toNat

def TableError.message : TableError → String
  | .unsorted before after =>
    "attribute handles out of order: " ++ handleText before ++ " then " ++ handleText after
  | .duplicate handle => "duplicate attribute handle " ++ handleText handle
  | .valueTooLong handle => "initial value of " ++ handleText handle ++ " exceeds its capacity"

structure AttributeTable where
  attributes : List Attribute := []
  deriving DecidableEq, Inhabited

namespace AttributeTable

/-- The first two neighbours whose handles do not ascend. -/
def orderFault? : List Attribute → Option TableError
  | a :: b :: rest =>
    if a.handle = b.handle then some (.duplicate b.handle)
    else if b.handle < a.handle then some (.unsorted a.handle b.handle)
    else orderFault? (b :: rest)
  | _ => none

def ofList (attributes : List Attribute) : Except TableError AttributeTable :=
  match orderFault? attributes with
  | some e => .error e
  | none =>
    match attributes.find? fun a => a.capacity < a.value.length with
    | some a => .error (.valueTooLong a.handle)
    | none => .ok ⟨attributes⟩

/-- The place of the attribute with the handle, sought among ascending handles. -/
def place? (handle : UInt16) (attributes : List Attribute) : Option Nat :=
  (Bisection.locate (fun a => compareOfLessAndEq a.handle handle) attributes).toOption

/-- The attribute with the handle. -/
def seek (handle : UInt16) (attributes : List Attribute) : Option Attribute :=
  (place? handle attributes).bind fun place => attributes[place]?

def get? (t : AttributeTable) (handle : UInt16) : Option Attribute := seek handle t.attributes

/-- Another value for the attribute with the handle. -/
def replaceValue (handle : UInt16) (value : Bytes) (attributes : List Attribute) :
    List Attribute :=
  match place? handle attributes with
  | some place => attributes.modify place fun a => { a with value }
  | none => attributes

def read (t : AttributeTable) (handle : UInt16) (offset maxLength : Nat) :
    Except GattStatus Bytes :=
  match t.get? handle with
  | none => .error .invalidHandle
  | some a =>
    if !a.readable then .error .readNotPermitted
    else if a.value.length < offset then .error .invalidOffset
    else .ok ((a.value.drop offset).take maxLength)

/-- The readable attributes of a type in a range of handles. -/
def matching (t : AttributeTable) (first last type : UInt16) : List Attribute :=
  let start := Bisection.partitionPoint (·.handle < first) t.attributes
  ((t.attributes.drop start).takeWhile (·.handle ≤ last)).filter fun a =>
    a.type == type && a.readable

/-- Length of a pair of handle and value: the value may be cut to what the response can hold, and
the length has to fit into one byte. -/
def pairLength (maxLength : Nat) (a : Attribute) : Nat :=
  min (min (a.value.length + 2) (maxLength - 1)) 255

def pair (length : Nat) (a : Attribute) : Bytes :=
  Bytes.ofUInt16 a.handle ++ a.value.take (length - 2)

/-- Pairs of one length, as many as there is room for. -/
def packPairs (maxLength length : Nat) : Nat → List Attribute → Bytes
  | _, [] => []
  | used, a :: rest =>
    if pairLength maxLength a ≠ length ∨ maxLength < used + length then []
    else pair length a ++ packPairs maxLength length (used + length) rest

/-- A length byte, then the pairs of the first match and of those after it that have its length. -/
def readByType (t : AttributeTable) (first last type : UInt16) (maxLength : Nat) :
    Except GattStatus Bytes :=
  if maxLength < 3 then .error .invalidAttrLength
  else
    match t.matching first last type with
    | [] => .error .attributeNotFound
    | a :: rest =>
      let length := pairLength maxLength a
      .ok (UInt8.ofNat length :: packPairs maxLength length 1 (a :: rest))

/-- A client's write. -/
def write (t : AttributeTable) (handle : UInt16) (value : Bytes) :
    Except GattStatus AttributeTable :=
  match t.get? handle with
  | none => .error .invalidHandle
  | some a =>
    if !a.writable then .error .writeNotPermitted
    else if a.isClientConfiguration && value.length != 2 then .error .invalidAttrLength
    else if a.capacity < value.length then .error .invalidAttrLength
    else .ok ⟨replaceValue handle value t.attributes⟩

/-- The server's own write, which needs no permission. -/
def store (t : AttributeTable) (handle : UInt16) (value : Bytes) :
    Except GattStatus AttributeTable :=
  match t.get? handle with
  | none => .error .invalidHandle
  | some a =>
    if a.capacity < value.length then .error .invalidAttrLength
    else .ok ⟨replaceValue handle value t.attributes⟩

/-- What the client wrote to a descriptor; zero where there is none. -/
def subscription (t : AttributeTable) (handle : UInt16) : UInt16 :=
  match t.get? handle with
  | none => 0
  | some a =>
    if a.isClientConfiguration then
      match a.value with
      | low :: high :: _ => uint16Of low high
      | _ => 0
    else 0

/-- Turns every descriptor off. -/
def clearSubscriptions (t : AttributeTable) : AttributeTable :=
  ⟨t.attributes.map fun a => if a.isClientConfiguration then { a with value := [0, 0] } else a⟩

end AttributeTable

end EdgeGateway
