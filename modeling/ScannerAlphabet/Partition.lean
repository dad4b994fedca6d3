import ScannerAlphabet.CharSet

/-!
# Partitions of an alphabet

A partition lists the classes of the alphabet up to `maximum`; the code of a class is its
place in the list. The structure itself asks for nothing. `Valid` says what makes a list of sets
a partition: no class is empty, no two share a code point, and together they are the
alphabet. `check` decides it.
-/
namespace ScannerAlphabet

structure Partition where
  classes : List CharSet
  maximum : Nat
deriving DecidableEq

namespace Partition

/-- No class is empty, each code point up to the maximum is in one class, and no other is in
any. -/
structure Valid (p : Partition) : Prop where
  maximum_le : p.maximum ≤ CodePoint.last
  nonempty : ∀ s ∈ p.classes, ∃ c, c ∈ s
  disjoint : p.classes.Pairwise fun s t => ∀ c, ¬ (c ∈ s ∧ c ∈ t)
  covers : ∀ c, (∃ s ∈ p.classes, c ∈ s) ↔ c ≤ p.maximum

/-- The partition with one class. -/
def whole (maximum : Nat) : Partition :=
  ⟨[CharSet.upTo maximum], maximum⟩

/-- The partition with one class, if the alphabet is one that classes can hold. -/
def ofMaximum (maximum : Nat) : Except Error Partition :=
  (Alphabet.checked maximum).map whole

def ofWidth (w : Alphabet.Width) : Partition :=
  whole w.maximum

/-- How many classes there are. -/
def count (p : Partition) : Nat :=
  p.classes.length

/-- The class with a code. -/
def class? (p : Partition) (code : Nat) : Option CharSet :=
  p.classes[code]?

/-- The code of the first class that has the code point. -/
def code? (p : Partition) (c : Nat) : Option Nat :=
  p.classes.findIdx? (·.contains c)

/-- The code of a code point's class; outside the alphabet there is none. -/
def code (p : Partition) (c : Nat) : Except Error Nat :=
  match p.code? c with
  | some code => .ok code
  | none => .error (.outOfRange c p.maximum)

/-- The codes of the classes with a property, ascending. -/
def codesWhere (p : Partition) (f : CharSet → Bool) : List Nat :=
  p.classes.zipIdx.filterMap fun (s, code) => if f s then some code else none

/-- The codes of the classes that have members in a set. -/
def codesMeeting (p : Partition) (s : CharSet) : List Nat :=
  p.codesWhere fun cls => !(cls ∩ s).isEmpty

/-- The codes of the classes that have no members in a set. -/
def codesMissing (p : Partition) (s : CharSet) : List Nat :=
  p.codesWhere fun cls => (cls ∩ s).isEmpty

/-- The part of a set that lies in the alphabet. -/
def clip (p : Partition) (s : CharSet) : CharSet :=
  s ∩ CharSet.upTo p.maximum

/-- Whether the sets of a list are not empty and share no code points. -/
def disjointNonempty : List CharSet → Bool
  | [] => true
  | s :: rest => !s.isEmpty && rest.all (fun t => (s ∩ t).isEmpty) && disjointNonempty rest

/-- The code points in any class. -/
def covered (p : Partition) : CharSet :=
  p.classes.foldl (· ∪ ·) ∅

/-- Whether the classes are a partition of the alphabet. -/
def check (p : Partition) : Bool :=
  disjointNonempty p.classes && p.covered == CharSet.upTo p.maximum

/-- The dump of a partition: each class on a line below its code. -/
def text (p : Partition) : String :=
  "CharClasses:\n" ++ String.join (p.classes.zipIdx.map fun (s, code) =>
    "class " ++ toString code ++ ":\n" ++ s.text ++ "\n")

@[simp] theorem mem_clip {p : Partition} {s : CharSet} {c : Nat} :
    c ∈ p.clip s ↔ c ∈ s ∧ c ≤ p.maximum := by
  rw [clip, CharSet.mem_inter, CharSet.mem_upTo]
  exact ⟨fun h => ⟨h.1, h.2.1⟩, fun h => ⟨h.1, h.2, CharSet.le_last_of_mem h.1⟩⟩

theorem valid_whole {maximum : Nat} (h : maximum ≤ CodePoint.last) : (whole maximum).Valid where
  maximum_le := h
  nonempty s hs := by
    rw [List.mem_singleton.mp hs]
    exact ⟨0, CharSet.mem_upTo.mpr ⟨Nat.zero_le _, Nat.zero_le _⟩⟩
  disjoint := List.pairwise_singleton _ _
  covers c := by
    simp only [whole, List.mem_singleton, exists_eq_left, CharSet.mem_upTo]
    omega

end Partition

end ScannerAlphabet
