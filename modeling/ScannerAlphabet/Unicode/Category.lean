import ScannerAlphabet.Unicode.Category.Letter
import ScannerAlphabet.Unicode.Category.Mark
import ScannerAlphabet.Unicode.Category.Number
import ScannerAlphabet.Unicode.Category.Punctuation
import ScannerAlphabet.Unicode.Category.Symbol
import ScannerAlphabet.Unicode.Category.Other

/-!
# General categories

Every assigned code point has one general category. A category has a code of two letters and a
long name; the first letters of the codes name groups of categories, which have long names too.
The long names and both forms of the code after a qualifier are aliases of the code.
-/
namespace ScannerAlphabet.Unicode.Category

/-- Letters with case: capitals, small letters and digraphs with a capital first letter. -/
def casedLetter : PropertyValue where
  name := "lc"
  synonyms := ["casedletter"]
  bounds := uppercaseLetter.bounds ++ lowercaseLetter.bounds ++ titlecaseLetter.bounds

/-- The categories of assigned code points. -/
def values : List PropertyValue :=
  [uppercaseLetter, lowercaseLetter, titlecaseLetter, modifierLetter, otherLetter,
   nonspacingMark, spacingMark, enclosingMark, decimalNumber, letterNumber, otherNumber,
   connectorPunctuation, dashPunctuation, openPunctuation, closePunctuation, initialPunctuation,
   finalPunctuation, otherPunctuation, mathSymbol, currencySymbol, modifierSymbol, otherSymbol,
   spaceSeparator, lineSeparator, paragraphSeparator, control, format, surrogate, privateUse,
   casedLetter]

/-- The code points without a character; which ones depends on the version. -/
def unassigned : String :=
  "cn"

/-- Long names of `unassigned`. -/
def unassignedSynonyms : List String :=
  ["unassigned"]

/-- The groups of categories and their long names. -/
def groups : List (String × List String) :=
  [("c", ["other"]), ("m", ["mark", "combiningmark"]), ("l", ["letter"]), ("n", ["number"]),
   ("p", ["punctuation", "punct"]), ("s", ["symbol"]), ("z", ["separator"])]

/-- The names under which a code can be found besides itself. -/
def aliasesOf (code : String) (synonyms : List String) : List (String × String) :=
  (synonyms ++ ["gc=" ++ code, "generalcategory=" ++ code]).map (·, code)

/-- All aliases of categories and groups. -/
def aliases : List (String × String) :=
  values.flatMap (fun v => aliasesOf v.name v.synonyms) ++
    aliasesOf unassigned unassignedSynonyms ++
    groups.flatMap fun (code, synonyms) => aliasesOf code synonyms

end ScannerAlphabet.Unicode.Category
