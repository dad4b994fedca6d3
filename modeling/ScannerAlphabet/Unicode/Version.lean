/-!
# Versions of Unicode

The versions with tables, oldest first. Each is accepted in several spellings, one of which is
its name; no spelling stands for two versions.
-/
namespace ScannerAlphabet.Unicode

inductive Version where
  | v1_1
  | v2_0
  | v2_1
  | v3_0
  | v3_1
  | v3_2
  | v4_0
  | v4_1
  | v5_0
  | v5_1
  | v5_2
  | v6_0
deriving DecidableEq, Repr

namespace Version

/-- Every version, oldest first. -/
def all : List Version :=
  [v1_1, v2_0, v2_1, v3_0, v3_1, v3_2, v4_0, v4_1, v5_0, v5_1, v5_2, v6_0]

/-- The place in the order of release. -/
def rank : Version → Nat
  | v1_1 => 0
  | v2_0 => 1
  | v2_1 => 2
  | v3_0 => 3
  | v3_1 => 4
  | v3_2 => 5
  | v4_0 => 6
  | v4_1 => 7
  | v5_0 => 8
  | v5_1 => 9
  | v5_2 => 10
  | v6_0 => 11

def name : Version → String
  | v1_1 => "1.1"
  | v2_0 => "2.0"
  | v2_1 => "2.1"
  | v3_0 => "3.0"
  | v3_1 => "3.1"
  | v3_2 => "3.2"
  | v4_0 => "4.0"
  | v4_1 => "4.1"
  | v5_0 => "5.0"
  | v5_1 => "5.1"
  | v5_2 => "5.2"
  | v6_0 => "6.0"

/-- The spellings of a version. -/
def spellings : Version → List String
  | v1_1 => ["1.1", "1.1.5"]
  | v2_0 => ["2", "2.0", "2.0.14"]
  | v2_1 => ["2.1", "2.1.9"]
  | v3_0 => ["3", "3.0", "3.0.1"]
  | v3_1 => ["3.1", "3.1.0"]
  | v3_2 => ["3.2", "3.2.0"]
  | v4_0 => ["4", "4.0", "4.0.1"]
  | v4_1 => ["4.1", "4.1.0"]
  | v5_0 => ["5", "5.0", "5.0.0"]
  | v5_1 => ["5.1", "5.1.0"]
  | v5_2 => ["5.2", "5.2.0"]
  | v6_0 => ["6", "6.0", "6.0.0"]

/-- All accepted spellings in order. -/
def accepted : List String :=
  all.flatMap spellings

/-- The version that a text spells. -/
def ofString? (s : String) : Option Version :=
  all.find? fun v => v.spellings.contains s

/-- The version taken when none is asked for. -/
def fallback : Version :=
  v4_0

/-- The largest code point of a version. The first has one plane only. -/
def maximum : Version → Nat
  | v1_1 => 0xFFFF
  | _ => 0x10FFFF

variable {s : String} {v : Version}

theorem mem_all (v : Version) : v ∈ all := by
  cases v <;> decide

theorem ofString?_of_mem_spellings : ∀ s ∈ v.spellings, ofString? s = some v := by
  cases v <;> decide

/-- A spelling stands for the version that it is listed with, and for no other. -/
theorem ofString?_eq_some_iff : ofString? s = some v ↔ s ∈ v.spellings := by
  constructor
  · intro h
    simpa using List.find?_some h
  · exact ofString?_of_mem_spellings s

theorem mem_accepted_iff : s ∈ accepted ↔ ∃ v : Version, s ∈ v.spellings := by
  rw [accepted, List.mem_flatMap]
  simp only [mem_all, true_and]

theorem ofString?_eq_none_iff : ofString? s = none ↔ s ∉ accepted := by
  rw [mem_accepted_iff, Option.eq_none_iff_forall_ne_some, not_exists]
  simp only [ne_eq, ofString?_eq_some_iff]

theorem ofString?_name (v : Version) : ofString? v.name = some v := by
  cases v <;> decide

theorem name_injective {v w : Version} (h : v.name = w.name) : v = w :=
  Option.some.inj (by rw [← ofString?_name v, h, ofString?_name w])

end Version

end ScannerAlphabet.Unicode
