import ScannerAlphabet.Unicode.Binary
import ScannerAlphabet.Unicode.CaseGroups
import ScannerAlphabet.Unicode.Category
import ScannerAlphabet.Unicode.Repertoire
import ScannerAlphabet.Unicode.Script
import ScannerAlphabet.Unicode.Tables

/-!
# Tables for each version

The properties of a character are taken from one source for all versions, and a version differs
from the latest one only in which characters it has. Its tables are therefore the latest ones
restricted to the code points that it assigns. A property value is there if the version has
any of its characters, on any plane; a group of case variants is there if two are left of it.
What a version does not assign makes up the category of unassigned code points.

Complete records of a version say more than that, but only what decoding drops. They have ranges
and groups of case variants above `CodePoint.last`, which `CharSet.unpack` and
`VariantTable.members` leave out and which are not kept here. They have a list of aliases for each
version, where here is one list for all of them; an alias whose target a version lacks binds
nothing in that version. The names, the sets and the case variants of the database are the same.
-/
namespace ScannerAlphabet.Unicode.Edition

/-- The members of a packed set that are in a repertoire. -/
def restrict (repertoire : CharSet) (bounds : List Nat) : List Nat :=
  (CharSet.unpack bounds ∩ repertoire).pack

/-- All property values whose sets do not depend on the version. -/
def allValues : List PropertyValue :=
  Category.values ++ Script.values ++ Binary.values

/-- The property values that a version has, restricted to its repertoire. -/
def valuesIn (v : Version) (repertoire : CharSet) : List (String × List Nat) :=
  (Category.unassigned, (CharSet.upTo CodePoint.last \ repertoire).pack) ::
    (allValues.filter (·.since.rank ≤ v.rank)).map fun p => (p.name, restrict repertoire p.bounds)

/-- The aliases, the same for every version. -/
def aliases : List (String × String) :=
  Category.aliases ++ Script.aliases ++
    Binary.values.flatMap fun p => p.synonyms.map (·, p.name)

/-- How many code points a group of case variants can have. -/
def groupSize : Nat :=
  4

/-- The members of a group that are in a repertoire, filled up with zeros; fewer than two are not a
group. -/
def restrictGroup (repertoire : CharSet) (group : List Nat) : List Nat :=
  let kept := group.filter repertoire.contains
  if kept.length < 2 then [] else kept ++ List.replicate (groupSize - kept.length) 0

/-- The groups of case variants in a repertoire. -/
def variantsIn (repertoire : CharSet) : List Nat :=
  CaseGroups.all.flatMap (restrictGroup repertoire)

def tables (v : Version) : Tables :=
  let repertoire := Repertoire.assigned v
  { version := v.name
    maximum := v.maximum
    values := valuesIn v repertoire
    aliases := aliases
    variants := variantsIn repertoire
    groupSize := groupSize }

end ScannerAlphabet.Unicode.Edition
