import ScannerAlphabet.Unicode.Version

/-!
# Property values

A property value is a set of characters with a name, such as a general category or a script. Its
bounds are those of the latest version, and `since` is the first version that assigns any of
its characters, on any plane; before it the name is unknown.
-/
namespace ScannerAlphabet.Unicode

structure PropertyValue where
  /-- The name in its normal form. -/
  name : String
  /-- Further names, in their normal form. -/
  synonyms : List String := []
  since : Version := .v1_1
  /-- The ranges up to `CodePoint.last`, as flat bounds. -/
  bounds : List Nat := []
deriving DecidableEq, Repr

end ScannerAlphabet.Unicode
