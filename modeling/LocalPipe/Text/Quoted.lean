import LocalPipe.Text.Numbered

namespace LocalPipe.Text

/-- Whether a quoted name writes a character by its number. -/
def isNumbered (c : Char) : Bool :=
  numberedRanges.any fun r => r.1 ≤ c.toNat && c.toNat ≤ r.2

/-- A character by its number: lower-case hexadecimal digits, as few as it
takes, in braces. -/
def numbered (c : Char) : List Char :=
  '\\' :: 'u' :: '{' :: Nat.toDigits 16 c.toNat ++ ['}']

/-- A character as it stands between double quotes. -/
def escaped (c : Char) : List Char :=
  if c = '\x00' then ['\\', '0']
  else if c = '\t' then ['\\', 't']
  else if c = '\n' then ['\\', 'n']
  else if c = '\r' then ['\\', 'r']
  else if c = '"' then ['\\', '"']
  else if c = '\\' then ['\\', '\\']
  else if isNumbered c then numbered c
  else [c]

/-- A name in double quotes, with nothing in it that a terminal would not
show as itself. -/
def quoted (name : String) : String :=
  String.ofList ('"' :: name.toList.flatMap escaped ++ ['"'])

end LocalPipe.Text
