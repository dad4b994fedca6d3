import ScannerAlphabet.Text.Hex
import ScannerAlphabet.Text.Extending
import ScannerAlphabet.Text.Unprintable

/-!
# Quoted texts

A text that comes from outside is shown in messages between double quotes. Quotes, backslashes
and the usual control characters have short escapes; characters that cannot be seen, or that
would join the character before them, are written by their number in braces.
-/
namespace ScannerAlphabet.Text.Quoted

/-- The escape by number, as in `\u{a0}`. -/
def numeric (c : Char) : String :=
  "\\u\x7b" ++ Hex.lower c.toNat ++ "\x7d"

/-- One character as it stands between the quotes. -/
def escape (c : Char) : String :=
  if c = '"' then "\\\""
  else if c = '\\' then "\\\\"
  else if c = '\n' then "\\n"
  else if c = '\r' then "\\r"
  else if c = '\t' then "\\t"
  else if c.toNat = 0 then "\\0"
  else if Extending.isExtending c.toNat || Unprintable.isUnprintable c.toNat then numeric c
  else String.singleton c

def quote (s : String) : String :=
  "\"" ++ String.join (s.toList.map escape) ++ "\""

end ScannerAlphabet.Text.Quoted
