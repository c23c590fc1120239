/-!
# EdgeGateway.Json

JSON values as they stand in a text. Numbers keep what decides whether they are integers, objects
keep the order and the repetition of their keys.

A text whose escapes leave half of a surrogate pair is written down correctly but names no
string; it is `none` here, as a value and as a key.
-/

namespace EdgeGateway

/-- A number: sign, digits before the point, and whether that is all there is. -/
structure Numeral where
  negative : Bool := false
  whole : Nat
  plain : Bool := true
  deriving DecidableEq, Inhabited

/-- The value of a numeral that is a natural number. Minus zero is not one. -/
def Numeral.toNat? (n : Numeral) : Option Nat :=
  if n.plain && !n.negative then some n.whole else none

inductive Json where
  | null
  | bool (b : Bool)
  | number (n : Numeral)
  | text (s : Option String)
  | array (items : List Json)
  | object (members : List (Option String × Json))
  deriving Inhabited

namespace Json

def ofNat (n : Nat) : Json := .number ⟨false, n, true⟩

def ofString (s : String) : Json := .text (some s)

end Json

end EdgeGateway
