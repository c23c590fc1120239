import EdgeGateway.Bytes

/-!
# EdgeGateway.Address

Internet addresses.

* `IpAddress.parse?` : dotted decimal without leading zeros, or colon-separated hexadecimal groups
  with at most one `::` and possibly a dotted tail.
* `IpAddress.render` : the short form. Groups lose their leading zeros, and the longest run of at
  least two zero groups, the first of equals, becomes `::`. An address that wraps an IPv4 address
  shows it dotted.
* `IpAddress.isUsable` : a link that is really up has an address other than zero; an IPv6 address
  must not have a zero 32-bit word.
-/

namespace EdgeGateway

inductive IpAddress where
  | v4 (a b c d : UInt8)
  | v6 (a b c d e f g h : UInt16)
  deriving DecidableEq, Inhabited

namespace IpAddress

/-- The fields between separators; there is always at least one. -/
def fields (separator : Char) : List Char → List (List Char)
  | [] => [[]]
  | c :: cs =>
    if c = separator then [] :: fields separator cs
    else match fields separator cs with
      | [] => [[c]]
      | field :: rest => (c :: field) :: rest

def digitValue? (base : Nat) (c : Char) : Option Nat :=
  let value :=
    if '0' ≤ c ∧ c ≤ '9' then c.toNat - '0'.toNat
    else if 'a' ≤ c ∧ c ≤ 'f' then c.toNat - 'a'.toNat + 10
    else if 'A' ≤ c ∧ c ≤ 'F' then c.toNat - 'A'.toNat + 10
    else base
  if value < base then some value else none

def numeral? (base : Nat) (cs : List Char) : Option Nat :=
  cs.foldl (fun acc c => do return (← acc) * base + (← digitValue? base c)) (some 0)

/-- One to three decimal digits up to 255, without a leading zero. -/
def octet? (cs : List Char) : Option UInt8 :=
  if cs.isEmpty || 3 < cs.length || (1 < cs.length && cs.head? == some '0') then none
  else match numeral? 10 cs with
    | some n => if n < 256 then some (UInt8.ofNat n) else none
    | none => none

/-- One to four hexadecimal digits. -/
def group? (cs : List Char) : Option UInt16 :=
  if cs.isEmpty || 4 < cs.length then none else (numeral? 16 cs).map UInt16.ofNat

def dotted? (cs : List Char) : Option (UInt8 × UInt8 × UInt8 × UInt8) :=
  match fields '.' cs with
  | [a, b, c, d] => do return (← octet? a, ← octet? b, ← octet? c, ← octet? d)
  | _ => none

/-- Groups in order; only the last field may be dotted, and it stands for two groups. -/
def groups? : List (List Char) → Option (List UInt16)
  | [] => some []
  | [last] =>
    match group? last with
    | some g => some [g]
    | none =>
      match dotted? last with
      | some (a, b, c, d) =>
        some [UInt16.ofNat (256 * a.toNat + b.toNat), UInt16.ofNat (256 * c.toNat + d.toNat)]
      | none => none
  | field :: rest => do return (← group? field) :: (← groups? rest)

/-- Groups before the `::`, where nothing may be dotted. -/
def plainGroups? (cs : List Char) : Option (List UInt16) :=
  if cs.isEmpty then some [] else (fields ':' cs).mapM group?

def tailGroups? (cs : List Char) : Option (List UInt16) :=
  if cs.isEmpty then some [] else groups? (fields ':' cs)

/-- What stands before and after the first `::`. -/
def splitGap : List Char → Option (List Char × List Char)
  | ':' :: ':' :: rest => some ([], rest)
  | c :: rest => (splitGap rest).map fun (before, after) => (c :: before, after)
  | [] => none

def ofGroups? : List UInt16 → Option IpAddress
  | [a, b, c, d, e, f, g, h] => some (.v6 a b c d e f g h)
  | _ => none

def parseGroups? (cs : List Char) : Option IpAddress :=
  match splitGap cs with
  | none => (groups? (fields ':' cs)).bind ofGroups?
  | some (before, after) => do
    let head ← plainGroups? before
    let tail ← tailGroups? after
    if head.length + tail.length < 8 then
      ofGroups? (head ++ List.replicate (8 - (head.length + tail.length)) 0 ++ tail)
    else none

def parse? (text : String) : Option IpAddress :=
  match dotted? text.toList with
  | some (a, b, c, d) => some (.v4 a b c d)
  | none => parseGroups? text.toList

def decimal (b : UInt8) : String := toString b.toNat

def renderDotted (a b c d : UInt8) : String :=
  ".".intercalate [decimal a, decimal b, decimal c, decimal d]

def renderGroup (g : UInt16) : String := String.ofList (Nat.toDigits 16 g.toNat)

def zerosFrom : List UInt16 → Nat
  | [] => 0
  | g :: gs => if g = 0 then zerosFrom gs + 1 else 0

/-- Start and length of the longest run of zero groups, the first of equals. -/
def longestGap (gs : List UInt16) : Nat × Nat :=
  (List.range gs.length).foldl (fun best i =>
    let n := zerosFrom (gs.drop i)
    if best.2 < n then (i, n) else best) (0, 0)

def renderGroups (gs : List UInt16) : String :=
  let (start, length) := longestGap gs
  let join (part : List UInt16) := ":".intercalate (part.map renderGroup)
  if length < 2 then join gs
  else join (gs.take start) ++ "::" ++ join (gs.drop (start + length))

def renderWords (a b c d e f g h : UInt16) : String :=
  if a = 0 ∧ b = 0 ∧ c = 0 ∧ d = 0 ∧ e = 0 ∧ f = 0xffff then
    "::ffff:" ++ renderDotted (UInt8.ofNat (g.toNat / 256)) (UInt8.ofNat g.toNat)
      (UInt8.ofNat (h.toNat / 256)) (UInt8.ofNat h.toNat)
  else renderGroups [a, b, c, d, e, f, g, h]

def render : IpAddress → String
  | .v4 a b c d => renderDotted a b c d
  | .v6 a b c d e f g h => renderWords a b c d e f g h

/-- Whether a link that reports this address can be up. -/
def isUsable : IpAddress → Bool
  | .v4 a b c d => !(a == 0 && b == 0 && c == 0 && d == 0)
  | .v6 a b c d e f g h =>
    !(a == 0 && b == 0) && !(c == 0 && d == 0) && !(e == 0 && f == 0) && !(g == 0 && h == 0)

end IpAddress

end EdgeGateway
