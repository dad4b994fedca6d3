import ScannerAlphabet.CodePoint
import ScannerAlphabet.Text.Quoted

/-!
# Errors

The causes for which a request can be refused, and the one place where they are put into
words. Code points appear in messages by their labels.
-/
namespace ScannerAlphabet

inductive Error where
  /-- A code point above the largest one allowed. -/
  | outOfRange (value maximum : Nat)
  /-- Bounds in the wrong order or beyond the last code point. -/
  | invalidSpan (lo hi : Nat)
  /-- A version without tables; the accepted spellings go with it. -/
  | unsupportedVersion (version : String) (accepted : List String)
  /-- Narrowing the alphabet would leave a class without members. -/
  | emptiedClass (code maximum : Nat)
  /-- A caseless request without a source of case variants. -/
  | noCaselessSource
deriving DecidableEq, Repr

namespace Error

def message : Error → String
  | outOfRange value maximum =>
      "code point " ++ CodePoint.label value ++ " out of range (maximum " ++
        CodePoint.label maximum ++ ")"
  | invalidSpan lo hi =>
      "invalid interval [" ++ CodePoint.label lo ++ ", " ++ CodePoint.label hi ++ "]"
  | unsupportedVersion version accepted =>
      "unsupported Unicode version " ++ Text.Quoted.quote version ++ "; supported versions: " ++
        ", ".intercalate accepted
  | emptiedClass code maximum =>
      "narrowing the alphabet to " ++ CodePoint.label maximum ++ " would empty class " ++
        toString code
  | noCaselessSource => "caseless character class requires a Unicode database"

end Error

end ScannerAlphabet
