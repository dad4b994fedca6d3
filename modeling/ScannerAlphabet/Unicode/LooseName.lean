import ScannerAlphabet.Text.Lowercase

/-!
# Loose names

Names of properties are compared loosely: case, blanks, underscores, hyphens and round brackets
make no difference, and a colon stands for an equals sign. The normal form of a name leaves out
what makes no difference. Blanks are those of ASCII; others count as part of the name.
-/
namespace ScannerAlphabet.Unicode.LooseName

/-- The characters that are left out. -/
def ignored : List Char :=
  [' ', '\t', '\n', '\x0b', '\x0c', '\r', '_', '-', '(', ')']

/-- What one character adds to the normal form. -/
def normalChar (c : Char) : List Char :=
  if c ∈ ignored then []
  else (Text.Lowercase.lower c).map fun d => if d = ':' then '=' else d

/-- The normal form of a name. -/
def normal (name : String) : String :=
  String.ofList (name.toList.flatMap normalChar)

end ScannerAlphabet.Unicode.LooseName
