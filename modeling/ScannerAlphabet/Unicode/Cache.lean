import ScannerAlphabet.Unicode.Database

/-!
# Shared databases

A cache keeps the databases that were asked for, one for each version, under the names of the
versions. Whatever spelling is asked for, the database is looked up under the name of its
version and loaded when it is not there yet.
-/
namespace ScannerAlphabet.Unicode

/-- The databases loaded so far, each with the name of its version. -/
structure Cache where
  entries : List (String × Database)

namespace Cache

def empty : Cache :=
  ⟨[]⟩

/-- The database kept under a name. -/
def get? (k : Cache) (name : String) : Option Database :=
  k.entries.lookup name

/-- The database for a spelling, and the cache afterwards. -/
def shared (k : Cache) (version : String) : Except Error Database × Cache :=
  match Version.ofString? version with
  | none => (Database.load version, k)
  | some v =>
    match k.get? v.name with
    | some db => (.ok db, k)
    | none =>
      match Database.load v.name with
      | .ok db => (.ok db, ⟨(v.name, db) :: k.entries⟩)
      | .error e => (.error e, k)

end Cache

end ScannerAlphabet.Unicode
