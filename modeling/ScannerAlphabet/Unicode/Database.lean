import ScannerAlphabet.Caseless
import ScannerAlphabet.Unicode.Bindings
import ScannerAlphabet.Unicode.Edition
import ScannerAlphabet.Unicode.LooseName
import ScannerAlphabet.Unicode.VariantTable

/-!
# Unicode databases

A database answers which characters have a property and which are case variants of each other.
Names are looked up loosely. The bindings are made when the database is loaded; the table of
case variants only when it is needed.
-/
namespace ScannerAlphabet.Unicode

structure Database where
  tables : Tables
  bindings : Bindings
  variants : Thunk VariantTable

namespace Database

/-- The database of any tables. -/
def ofTables (t : Tables) : Database :=
  ⟨t, t.bindings, Thunk.mk fun _ => t.variantTable⟩

/-- The database of a version. -/
def ofVersion (v : Version) : Database :=
  ofTables (Edition.tables v)

/-- The database of the version that a text spells. -/
def load (version : String) : Except Error Database :=
  match Version.ofString? version with
  | some v => .ok (ofVersion v)
  | none => .error (.unsupportedVersion version Version.accepted)

theorem load_of_mem_spellings {v : Version} {s : String} (h : s ∈ v.spellings) :
    load s = .ok (ofVersion v) := by
  rw [load, Version.ofString?_eq_some_iff.mpr h]

theorem load_name (v : Version) : load v.name = .ok (ofVersion v) := by
  rw [load, Version.ofString?_name]

theorem load_of_not_mem_accepted {s : String} (h : s ∉ Version.accepted) :
    load s = .error (.unsupportedVersion s Version.accepted) := by
  rw [load, Version.ofString?_eq_none_iff.mpr h]

theorem exists_load_eq_ok_iff {s : String} : (∃ db, load s = .ok db) ↔ s ∈ Version.accepted := by
  constructor
  · intro ⟨db, hdb⟩
    apply Decidable.of_not_not
    intro hs
    rw [load_of_not_mem_accepted hs] at hdb
    cases hdb
  · intro hs
    obtain ⟨v, hv⟩ := Version.mem_accepted_iff.mp hs
    exact ⟨_, load_of_mem_spellings hv⟩

/-- The name of the version. -/
def version (db : Database) : String :=
  db.tables.version

/-- The largest code point of the version. -/
def maximum (db : Database) : Nat :=
  db.tables.maximum

/-- All names and aliases in their normal form, in ascending order. -/
def names (db : Database) : List String :=
  db.bindings.keys

/-- The characters with a property; nothing for an unknown name. -/
def property? (db : Database) (name : String) : Option CharSet :=
  db.bindings[LooseName.normal name]?

/-- The case variants of a code point, itself included; nothing for a code point without any. -/
def variants? (db : Database) (c : Nat) : Option CharSet :=
  db.variants.get.lookup[c]?

/-- The code points between two others that have case variants, in ascending order. -/
def variantsBetween (db : Database) (first last : Nat) : List (Nat × CharSet) :=
  db.variants.get.lookup.toList.filter fun (c, _) => first ≤ c && c ≤ last

/-- What is reported when the database is loaded. -/
def loadedEvent (db : Database) : Event :=
  .tablesLoaded db.version db.bindings.size

/-- The database as a source of case variants, which reports when it makes its table. -/
def caselessSource (db : Database) : CaselessSource where
  variants? := db.variants?
  maximum := db.maximum
  onFirstLookup := Thunk.mk fun _ => [.variantsUnpacked db.version db.variants.get.groups]

end Database

end ScannerAlphabet.Unicode
