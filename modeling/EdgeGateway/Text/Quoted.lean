import EdgeGateway.Text.Unseen

/-!
# EdgeGateway.Text.Quoted

Text in double quotes, as error messages and board reports show it: quotes and backslashes are
escaped, the common control characters have letters, and other characters that cannot be seen
are written by their hexadecimal scalar value.
-/

namespace EdgeGateway.Text

/-- A character between the quotes. -/
def escaped (c : Char) : List Char :=
  if c = '"' then ['\\', '"']
  else if c = '\\' then ['\\', '\\']
  else if c = '\n' then ['\\', 'n']
  else if c = '\r' then ['\\', 'r']
  else if c = '\t' then ['\\', 't']
  else if c = Char.ofNat 0 then ['\\', '0']
  else if isUnseen c then
    ['\\', 'u', '\x7b'] ++ Nat.toDigits 16 c.toNat ++ ['\x7d']
  else [c]

/-- A text between double quotes. -/
def quoted (s : String) : String :=
  String.ofList ('"' :: s.toList.flatMap escaped ++ ['"'])

end EdgeGateway.Text
