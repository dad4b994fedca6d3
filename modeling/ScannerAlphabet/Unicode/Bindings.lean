import Std.Data.TreeMap
import ScannerAlphabet.CharSet.Packed
import ScannerAlphabet.Unicode.Tables

/-!
# Bindings of names

The bindings of some tables say which set each name stands for. Values come first, where a later
value replaces an earlier one of the same name, and each name of two letters adds to the set
of its first letter. Aliases follow in order; an alias never replaces anything, and it
can stand for an earlier alias. Last come two names that mean the same in all versions.
-/
namespace ScannerAlphabet.Unicode

/-- What each name stands for. -/
abbrev Bindings :=
  Std.TreeMap String CharSet

namespace Bindings

/-- A name of two letters belongs to the group named by the first. -/
def groupOf? (name : String) : Option String :=
  match name.toList with
  | [letter, _] => some (String.singleton letter)
  | _ => none

/-- Adds a set to what a name stands for. -/
def extend (b : Bindings) (name : String) (s : CharSet) : Bindings :=
  b.insert name (b[name]?.getD ∅ ∪ s)

/-- Binds a name to its set, which also joins the set of its group. -/
def addValue (b : Bindings) (value : String × List Nat) : Bindings :=
  let s := CharSet.unpack value.2
  match groupOf? value.1 with
  | some group => (b.extend group s).insert value.1 s
  | none => b.insert value.1 s

/-- Binds an alias to what another name stands for, unless the other name stands for nothing or
the alias stands for something already. -/
def addAlias (b : Bindings) (pair : String × String) : Bindings :=
  match b[pair.2]? with
  | some s => b.insertIfNew pair.1 s
  | none => b

/-- Two names stand for the same sets in every version. -/
def addFixed (b : Bindings) : Bindings :=
  (b.insert "ascii" (CharSet.upTo 0x7F)).insert "any" (CharSet.upTo CodePoint.last)

end Bindings

/-- What each name of some tables stands for. -/
def Tables.bindings (t : Tables) : Bindings :=
  (t.aliases.foldl Bindings.addAlias (t.values.foldl Bindings.addValue ∅)).addFixed

end ScannerAlphabet.Unicode
