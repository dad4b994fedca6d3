import ScannerAlphabet.Cursor
import ScannerAlphabet.Proofs.Machine.Words

/-!
# Spans on a machine

A machine keeps the bounds of a span and nothing about them, and a set as a list of such bounds.
Spans and sets have only bounds up to `CodePoint.last`, and a separated list is half as long as
that at most, so that sizes, counts and the places of cursors are words: the operations that only
read have no faults, and they answer what they should.
-/
namespace ScannerAlphabet

/-- The bounds of a span, without what is known about them. -/
structure Machine.Bounds where
  lo : Nat
  hi : Nat
deriving DecidableEq, Repr

abbrev Span.bounds (s : Span) : Machine.Bounds :=
  ⟨s.lo, s.hi⟩

theorem Span.bounds_injective : Function.Injective Span.bounds := by
  intro s t h
  exact Span.ext (congrArg Machine.Bounds.lo h) (congrArg Machine.Bounds.hi h)

/-- The list of bounds that stands for a set. -/
def CharSet.raw (s : CharSet) : List Machine.Bounds :=
  s.toRuns.map Span.bounds

theorem CharSet.raw_injective : Function.Injective CharSet.raw := by
  intro s t h
  apply CharSet.toRuns_inj.mp
  exact List.map_inj_right (fun _ _ => Span.bounds_injective.eq_iff.mp) |>.mp h

theorem CharSet.bounds_of_mem_raw {s : CharSet} {b : Machine.Bounds} (h : b ∈ s.raw) :
    b.lo ≤ b.hi ∧ b.hi ≤ CodePoint.last := by
  obtain ⟨t, -, rfl⟩ := List.mem_map.mp h
  exact ⟨t.lo_le_hi, t.hi_le_last⟩

theorem CharSet.pairwise_raw (s : CharSet) : s.raw.Pairwise fun a b => a.hi + 1 < b.lo :=
  List.pairwise_map.mpr s.separated

theorem CharSet.isEmpty_raw (s : CharSet) : s.raw.isEmpty = s.isEmpty := by
  rw [Bool.eq_iff_iff, CharSet.isEmpty, Array.isEmpty_iff, List.isEmpty_iff, raw, toRuns,
    List.map_eq_nil_iff, Array.toList_eq_nil_iff]

namespace Machine
variable {s : Span} {l : List Span} {n : Nat}

theorem last_lt_wordLimit : 2 * CodePoint.last + 3 < wordLimit := by
  decide

theorem Span.hi_lt (s : Span) : s.hi + 1 < wordLimit := by
  have hlast := s.hi_le_last
  have hlimit := last_lt_wordLimit
  omega

theorem get_map_bounds {i : Nat} {rest : List Span} (h : l.drop i = s :: rest) :
    get (l.map Span.bounds) i = .ok s.bounds := by
  apply get_eq_ok
  rw [List.getElem?_map, (drop_eq_cons h).1]
  rfl

/-- Accepts bounds in order and up to `CodePoint.last`. -/
def Bounds.checked (lo hi : Nat) : Except Error Bounds :=
  if hi < lo ∨ CodePoint.last < hi then .error (.invalidSpan lo hi) else .ok ⟨lo, hi⟩

/-- How many code points there are. -/
def Bounds.size (t : Bounds) : Checked Nat := do
  let gap ← sub t.hi t.lo
  add gap 1

def Bounds.contains (t : Bounds) (c : Nat) : Bool :=
  t.lo ≤ c && c ≤ t.hi

def Bounds.toList (t : Bounds) : List Nat :=
  List.range' t.lo (t.hi + 1 - t.lo)

/-- The dump of bounds; a single code point is written once. -/
def Bounds.text (t : Bounds) : String :=
  if t.lo = t.hi then "[" ++ CodePoint.literal t.lo ++ "]"
  else "[" ++ CodePoint.literal t.lo ++ "-" ++ CodePoint.literal t.hi ++ "]"

/-- How many code points a list has, added up from the front. -/
def size (l : List Bounds) : Checked Nat :=
  l.foldlM (fun n t => do
    let size ← t.size
    add n size) 0

/-- The dump of a list. -/
def text (l : List Bounds) : String :=
  "\x7b " ++ String.join (l.map Bounds.text) ++ " \x7d"

/-- Membership, decided at the first bounds that do not end below the code point. -/
def contains (l : List Bounds) (c : Nat) : Bool :=
  match l[(l.takeWhile (·.hi < c)).length]? with
  | some t => t.lo ≤ c
  | none => false

theorem Bounds.checked_eq (lo hi : Nat) :
    Bounds.checked lo hi = (Span.ofBounds lo hi).map Span.bounds := by
  unfold Bounds.checked Span.ofBounds
  by_cases h : lo ≤ hi ∧ hi ≤ CodePoint.last
  · rw [if_neg (by omega), dif_pos h]
    rfl
  · rw [if_pos (by omega), dif_neg h]
    rfl

theorem size_bounds (s : Span) : s.bounds.size = .ok s.size := by
  have hbounds := s.lo_le_hi
  have hlimit := Span.hi_lt s
  unfold Bounds.size
  rw [sub_eq_ok hbounds, ok_bind, add_eq_ok (by omega)]
  rfl

theorem contains_bounds (s : Span) (c : Nat) : s.bounds.contains c = s.contains c := by
  change (decide (s.lo ≤ c) && decide (c ≤ s.hi)) = s.contains c
  rw [Bool.eq_iff_iff, Span.contains_eq_true_iff, Span.mem_def, Bool.and_eq_true,
    decide_eq_true_iff, decide_eq_true_iff]

theorem toList_bounds (s : Span) : s.bounds.toList = s.toList := by
  have hbounds := s.lo_le_hi
  have hsize : s.hi + 1 - s.lo = s.hi - s.lo + 1 := by omega
  unfold Bounds.toList Span.toList Span.size
  rw [hsize]

/-- The spans of a separated list from a number on have no more code points than there are. -/
theorem sizes_le_of_separated (hl : Runs.Separated l) (hlo : ∀ t ∈ l, n ≤ t.lo)
    (hn : n ≤ CodePoint.last + 1) :
    n + l.foldr (fun t m => t.size + m) 0 ≤ CodePoint.last + 1 := by
  induction l generalizing n with
  | nil => simpa using hn
  | cons s l ih =>
    obtain ⟨hgap, hl⟩ := Runs.separated_cons.mp hl
    have hs := hlo s List.mem_cons_self
    have hbounds := s.lo_le_hi
    have hlast := s.hi_le_last
    have hrest := ih (n := s.hi + 1) hl (fun t ht => by have := hgap t ht; omega) (by omega)
    rw [List.foldr_cons, Span.size]
    omega

theorem size_le (s : CharSet) : s.size ≤ CodePoint.last + 1 := by
  have hsizes := sizes_le_of_separated (n := 0) s.separated (fun _ _ => Nat.zero_le _) (by omega)
  rw [Nat.zero_add] at hsizes
  exact hsizes

theorem length_le_sizes (l : List Span) : l.length ≤ l.foldr (fun t m => t.size + m) 0 := by
  induction l with
  | nil => exact Nat.le_refl _
  | cons s l ih =>
    rw [List.length_cons, List.foldr_cons, Span.size]
    omega

theorem length_lt (s : CharSet) : s.toRuns.length + s.toRuns.length + 1 < wordLimit := by
  have hlength : s.toRuns.length ≤ s.size := length_le_sizes s.toRuns
  have hsize := size_le s
  have hlimit := last_lt_wordLimit
  omega

theorem foldlM_size (h : n + l.foldr (fun t m => t.size + m) 0 < wordLimit) :
    (l.map Span.bounds).foldlM (fun n t => do
      let size ← Bounds.size t
      add n size) n = .ok (n + l.foldr (fun t m => t.size + m) 0) := by
  induction l generalizing n with
  | nil => rfl
  | cons s l ih =>
    rw [List.foldr_cons, ← Nat.add_assoc] at h ⊢
    rw [List.map_cons, List.foldlM_cons, size_bounds, ok_bind, add_eq_ok (by omega)]
    exact ih h

theorem size_raw (s : CharSet) : size s.raw = .ok s.size := by
  have hsize : s.toRuns.foldr (fun t m => t.size + m) 0 ≤ CodePoint.last + 1 := size_le s
  have hlimit := last_lt_wordLimit
  have hsum := foldlM_size (n := 0) (l := s.toRuns) (by omega)
  rw [Nat.zero_add] at hsum
  exact hsum

theorem text_raw (s : CharSet) : text s.raw = s.text := by
  unfold text CharSet.text CharSet.raw
  rw [List.map_map]
  rfl

theorem contains_map_bounds (hl : Runs.Separated l) (c : Nat) :
    contains (l.map Span.bounds) c = true ↔ Runs.Covers l c := by
  induction l with
  | nil => simp [contains]
  | cons s l ih =>
    by_cases hs : s.hi < c
    · have hskip : contains ((s :: l).map Span.bounds) c = contains (l.map Span.bounds) c := by
        simp [contains, hs]
      have hnot : ¬ c ∈ s := fun hc => by have := hc.2; omega
      rw [hskip, ih (Runs.separated_cons.mp hl).2, Runs.covers_cons]
      simp only [hnot, false_or]
    · have htake : ((s :: l).map Span.bounds).takeWhile (·.hi < c) = [] :=
        List.takeWhile_cons_of_neg fun h => hs (of_decide_eq_true h)
      have hstop : contains ((s :: l).map Span.bounds) c = decide (s.lo ≤ c) := by
        unfold contains
        rw [htake]
        rfl
      rw [hstop, decide_eq_true_iff, Runs.covers_cons, Span.mem_def]
      constructor
      · intro hlo
        exact .inl ⟨hlo, by omega⟩
      · intro h
        exact hl.le_of_covers (Runs.covers_cons.mpr h)

theorem contains_raw (s : CharSet) (c : Nat) : contains s.raw c = s.contains c := by
  rw [Bool.eq_iff_iff, CharSet.contains_eq_true_iff]
  exact contains_map_bounds s.separated c

/-- A place in a list of bounds. -/
structure Place where
  spans : List Bounds
  passed : Nat
deriving DecidableEq, Repr

namespace Place

def start (l : List Bounds) : Place :=
  ⟨l, 0⟩

def rewind (k : Place) : Place :=
  { k with passed := 0 }

/-- The next bounds and the place behind them; nothing at the end. -/
def next? (k : Place) : Checked (Option (Bounds × Place)) :=
  match k.spans[k.passed]? with
  | none => return none
  | some t => do
    let passed ← add k.passed 1
    return some (t, { k with passed := passed })

/-- How many bounds are still to come. -/
def remaining (k : Place) : Checked Nat :=
  sub k.spans.length k.passed

end Place

/-- The place that stands for a cursor. -/
def ofCursor (k : Cursor) : Place :=
  ⟨k.set.raw, k.passed⟩

theorem remaining_ofCursor (k : Cursor) : (ofCursor k).remaining = .ok k.remaining := by
  have hlength : k.set.raw.length = k.set.spans.size := by simp [CharSet.raw, CharSet.toRuns]
  unfold Place.remaining ofCursor
  rw [hlength]
  exact sub_eq_ok k.passed_le

theorem next?_ofCursor (k : Cursor) : (ofCursor k).next? =
    .ok (k.next?.map fun found => (found.1.bounds, ofCursor found.2)) := by
  have hlength := length_lt k.set
  rw [CharSet.toRuns, Array.length_toList] at hlength
  unfold Place.next? Cursor.next? ofCursor CharSet.raw CharSet.toRuns
  rw [List.getElem?_map, Array.getElem?_toList]
  by_cases h : k.passed < k.set.spans.size
  · rw [Array.getElem?_eq_getElem h, dif_pos h]
    have hpassed : add k.passed 1 = .ok (k.passed + 1) := add_eq_ok (by omega)
    simp only [Option.map_some, hpassed]
    rfl
  · rw [Array.getElem?_eq_none (Nat.not_lt.mp h), dif_neg h]
    rfl

end Machine
end ScannerAlphabet
