import EdgeGateway.Json

/-!
# EdgeGateway.Json.Reader

Reading JSON. The grammar is the strict one: no trailing commas, no leading zeros, no control
characters inside a text, nothing but blanks around the value.

* `readText`  : the units of a text after its opening quote; `joinUnits` makes a string of them.
* `readNumeral` : a number after its sign.
* `readValue`, `readItems`, `readMembers` : values, by fuel that the length of the text bounds.
* `parse?`    : a whole text.
-/

namespace EdgeGateway.Json

def isBlank (c : Char) : Bool := c == ' ' || c == '\t' || c == '\n' || c == '\r'

def skipBlank (cs : List Char) : List Char := cs.dropWhile isBlank

/-- One piece of a text: a character as it stands, or a code unit by number. -/
inductive TextUnit where
  | char (c : Char)
  | code (n : Nat)
  deriving DecidableEq, Inhabited

def isHighSurrogate (n : Nat) : Bool := 0xd800 ≤ n && n < 0xdc00

def isLowSurrogate (n : Nat) : Bool := 0xdc00 ≤ n && n < 0xe000

/-- The characters that units stand for; none if half of a surrogate pair is left over. -/
def joinUnits : List TextUnit → Option (List Char)
  | [] => some []
  | .char c :: rest => (joinUnits rest).map (c :: ·)
  | [.code n] => if isHighSurrogate n || isLowSurrogate n then none else some [Char.ofNat n]
  | .code n :: .char c :: rest =>
    if isHighSurrogate n || isLowSurrogate n then none
    else (joinUnits rest).map (Char.ofNat n :: c :: ·)
  | .code n :: .code m :: rest =>
    if isHighSurrogate n && isLowSurrogate m then
      (joinUnits rest).map (Char.ofNat (0x10000 + (n - 0xd800) * 0x400 + (m - 0xdc00)) :: ·)
    else if isHighSurrogate n || isLowSurrogate n then none
    else (joinUnits (.code m :: rest)).map (Char.ofNat n :: ·)

def hexValue? (c : Char) : Option Nat :=
  if '0' ≤ c ∧ c ≤ '9' then some (c.toNat - '0'.toNat)
  else if 'a' ≤ c ∧ c ≤ 'f' then some (c.toNat - 'a'.toNat + 10)
  else if 'A' ≤ c ∧ c ≤ 'F' then some (c.toNat - 'A'.toNat + 10)
  else none

def hexQuad? (a b c d : Char) : Option Nat := do
  return (((← hexValue? a) * 16 + (← hexValue? b)) * 16 + (← hexValue? c)) * 16 + (← hexValue? d)

/-- The character a one-letter escape stands for. -/
def escape? (c : Char) : Option Char :=
  match c with
  | '"' => some '"'
  | '\\' => some '\\'
  | '/' => some '/'
  | 'b' => some (Char.ofNat 8)
  | 'f' => some (Char.ofNat 12)
  | 'n' => some '\n'
  | 'r' => some '\r'
  | 't' => some '\t'
  | _ => none

/-- The units of a text up to its closing quote, and what follows. -/
def readText : List Char → Option (List TextUnit × List Char)
  | [] => none
  | '"' :: rest => some ([], rest)
  | '\\' :: 'u' :: a :: b :: c :: d :: rest =>
    match hexQuad? a b c d with
    | some n => (readText rest).map fun (us, r) => (.code n :: us, r)
    | none => none
  | '\\' :: e :: rest =>
    match escape? e with
    | some c => (readText rest).map fun (us, r) => (.char c :: us, r)
    | none => none
  | c :: rest =>
    if c.toNat < 0x20 || c == '\\' then none
    else (readText rest).map fun (us, r) => (.char c :: us, r)

/-- A text after its opening quote. -/
def readString (cs : List Char) : Option (Option String × List Char) :=
  (readText cs).map fun (us, rest) => ((joinUnits us).map String.ofList, rest)

def isDigit (c : Char) : Bool := '0' ≤ c && c ≤ '9'

def digitsValue (ds : List Char) : Nat :=
  ds.foldl (fun n d => 10 * n + (d.toNat - '0'.toNat)) 0

/-- Digits after the point; there must be one. -/
def skipFraction : List Char → Option (Bool × List Char)
  | '.' :: c :: rest => if isDigit c then some (true, rest.dropWhile isDigit) else none
  | ['.'] => none
  | rest => some (false, rest)

/-- The digits of an exponent, after its sign; there must be one. -/
def skipExponentDigits : List Char → Option (Bool × List Char)
  | c :: rest => if isDigit c then some (true, rest.dropWhile isDigit) else none
  | [] => none

def skipExponent : List Char → Option (Bool × List Char)
  | 'e' :: rest | 'E' :: rest =>
    match rest with
    | '+' :: rest | '-' :: rest => skipExponentDigits rest
    | rest => skipExponentDigits rest
  | rest => some (false, rest)

/-- A number after its sign. A zero stands alone before the point. -/
def readNumeral (negative : Bool) (cs : List Char) : Option (Numeral × List Char) :=
  let ds := cs.takeWhile isDigit
  if ds.isEmpty || (ds.head? == some '0' && 1 < ds.length) then none
  else do
    let (fraction, rest) ← skipFraction (cs.dropWhile isDigit)
    let (exponent, rest) ← skipExponent rest
    return (⟨negative, digitsValue ds, !fraction && !exponent⟩, rest)

mutual

def readValue : Nat → List Char → Option (Json × List Char)
  | 0, _ => none
  | fuel + 1, cs =>
    match skipBlank cs with
    | 'n' :: 'u' :: 'l' :: 'l' :: rest => some (.null, rest)
    | 't' :: 'r' :: 'u' :: 'e' :: rest => some (.bool true, rest)
    | 'f' :: 'a' :: 'l' :: 's' :: 'e' :: rest => some (.bool false, rest)
    | '"' :: rest => (readString rest).map fun (s, rest) => (.text s, rest)
    | '-' :: rest => (readNumeral true rest).map fun (n, rest) => (.number n, rest)
    | '[' :: rest =>
      match skipBlank rest with
      | ']' :: rest => some (.array [], rest)
      | _ => (readItems fuel rest).map fun (vs, rest) => (.array vs, rest)
    | '\x7b' :: rest =>
      match skipBlank rest with
      | '\x7d' :: rest => some (.object [], rest)
      | _ => (readMembers fuel rest).map fun (ms, rest) => (.object ms, rest)
    | rest => (readNumeral false rest).map fun (n, rest) => (.number n, rest)

/-- At least one item, up to the closing bracket. -/
def readItems : Nat → List Char → Option (List Json × List Char)
  | 0, _ => none
  | fuel + 1, cs => do
    let (v, rest) ← readValue fuel cs
    match skipBlank rest with
    | ',' :: rest =>
      let (vs, rest) ← readItems fuel rest
      return (v :: vs, rest)
    | ']' :: rest => return ([v], rest)
    | _ => none

/-- At least one member, up to the closing brace. -/
def readMembers : Nat → List Char → Option (List (Option String × Json) × List Char)
  | 0, _ => none
  | fuel + 1, cs =>
    match skipBlank cs with
    | '"' :: rest => do
      let (key, rest) ← readString rest
      match skipBlank rest with
      | ':' :: rest =>
        let (v, rest) ← readValue fuel rest
        match skipBlank rest with
        | ',' :: rest =>
          let (ms, rest) ← readMembers fuel rest
          return ((key, v) :: ms, rest)
        | '\x7d' :: rest => return ([(key, v)], rest)
        | _ => none
      | _ => none
    | _ => none

end

/-- The value of a text that holds nothing else. -/
def parse? (text : List Char) : Option Json :=
  match readValue (2 * text.length + 2) text with
  | some (v, rest) => if (skipBlank rest).isEmpty then some v else none
  | none => none

end EdgeGateway.Json
