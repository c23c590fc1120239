import EdgeGateway.Json
import EdgeGateway.Bytes

/-!
# EdgeGateway.Json.Writer

Writing JSON over several lines: each item and each member has a line of its own, two blanks
deeper than what holds it, and empty arrays and objects stay on one line. Quotes, backslashes and
control characters are escaped, all other characters are written as they are.
-/

namespace EdgeGateway.Json

def escapeChar (c : Char) : List Char :=
  if c = '"' then ['\\', '"']
  else if c = '\\' then ['\\', '\\']
  else if c = '\n' then ['\\', 'n']
  else if c = '\r' then ['\\', 'r']
  else if c = '\t' then ['\\', 't']
  else if c = Char.ofNat 8 then ['\\', 'b']
  else if c = Char.ofNat 12 then ['\\', 'f']
  else if c.toNat < 0x20 then
    ['\\', 'u', '0', '0', hexDigit (c.toNat / 16), hexDigit (c.toNat % 16)]
  else [c]

/-- A string between quotes. Half a surrogate pair stands for a text that names no string. -/
def writeText : Option String → List Char
  | some s => '"' :: s.toList.flatMap escapeChar ++ ['"']
  | none => ['"', '\\', 'u', 'd', '8', '0', '0', '"']

def writeNumeral (n : Numeral) : List Char :=
  (if n.negative then ['-'] else []) ++ Nat.toDigits 10 n.whole ++
    if n.plain then [] else ['.', '0']

/-- A new line at some depth. -/
def newLine (depth : Nat) : List Char := '\n' :: List.replicate (2 * depth) ' '

/-- What stands between an item and the ones that follow. -/
def comma {α : Type} (rest : List α) : List Char := if rest.isEmpty then [] else [',']

mutual

def write (depth : Nat) : Json → List Char
  | .null => ['n', 'u', 'l', 'l']
  | .bool b => if b then ['t', 'r', 'u', 'e'] else ['f', 'a', 'l', 's', 'e']
  | .number n => writeNumeral n
  | .text s => writeText s
  | .array items =>
    if items.isEmpty then ['[', ']']
    else '[' :: writeItems (depth + 1) items ++ newLine depth ++ [']']
  | .object members =>
    if members.isEmpty then ['\x7b', '\x7d']
    else '\x7b' :: writeMembers (depth + 1) members ++ newLine depth ++ ['\x7d']

def writeItems (depth : Nat) : List Json → List Char
  | [] => []
  | v :: rest => newLine depth ++ write depth v ++ comma rest ++ writeItems depth rest

def writeMembers (depth : Nat) : List (Option String × Json) → List Char
  | [] => []
  | (key, v) :: rest =>
    newLine depth ++ writeText key ++ [':', ' '] ++ write depth v ++ comma rest ++
      writeMembers depth rest

end

/-- The text of a value. -/
def render (v : Json) : String := String.ofList (write 0 v)

end EdgeGateway.Json
