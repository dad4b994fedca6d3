import ScannerAlphabet.Alphabet

/-!
# Spans of code points

A span is a closed range of code points, never empty and never beyond the last code point.
Besides its bounds it has a view as a set of numbers, `c ∈ s`. The operations on two spans are
those that merging and cutting of span lists need: the hull, the overlap, and the parts of one
span below and above another. Each comes with what it does to membership.
-/
namespace ScannerAlphabet

/-- The code points from `lo` to `hi`, both included. -/
@[ext]
structure Span where
  lo : Nat
  hi : Nat
  lo_le_hi : lo ≤ hi
  hi_le_last : hi ≤ CodePoint.last
deriving DecidableEq, Repr

namespace Span

/-- Refuses bounds in the wrong order and bounds beyond the last code point. -/
def ofBounds (lo hi : Nat) : Except Error Span :=
  if h : lo ≤ hi ∧ hi ≤ CodePoint.last then .ok ⟨lo, hi, h.1, h.2⟩
  else .error (.invalidSpan lo hi)

/-- The span of one code point. -/
def single (c : Nat) : Except Error Span :=
  ofBounds c c

def ofChars (first final : Char) : Except Error Span :=
  ofBounds first.toNat final.toNat

/-- How many code points the span has. -/
def size (s : Span) : Nat :=
  s.hi - s.lo + 1

def isEmpty (s : Span) : Bool :=
  s.size == 0

/-- The members in ascending order. -/
def toList (s : Span) : List Nat :=
  List.range' s.lo s.size

instance : Membership Nat Span :=
  ⟨fun s c => s.lo ≤ c ∧ c ≤ s.hi⟩

theorem mem_def {s : Span} {c : Nat} : c ∈ s ↔ s.lo ≤ c ∧ c ≤ s.hi := Iff.rfl

instance (c : Nat) (s : Span) : Decidable (c ∈ s) :=
  decidable_of_iff (s.lo ≤ c ∧ c ≤ s.hi) mem_def.symm

def contains (s : Span) (c : Nat) : Bool :=
  decide (c ∈ s)

/-- Spans are ordered by their lower bounds, then by their upper bounds. -/
def order (a b : Span) : Ordering :=
  (compare a.lo b.lo).then (compare a.hi b.hi)

/-- The smallest span that includes two spans. -/
def hull (a b : Span) : Span where
  lo := min a.lo b.lo
  hi := max a.hi b.hi
  lo_le_hi := by have := a.lo_le_hi; omega
  hi_le_last := by have := a.hi_le_last; have := b.hi_le_last; omega

/-- The common part of two spans. -/
def overlap? (a b : Span) : Option Span :=
  if h : max a.lo b.lo ≤ min a.hi b.hi then
    some ⟨max a.lo b.lo, min a.hi b.hi, h, by have := a.hi_le_last; omega⟩
  else none

/-- The part of `a` that lies below `b`. -/
def below? (a b : Span) : Option Span :=
  if h : a.lo < b.lo then
    some ⟨a.lo, min a.hi (b.lo - 1), by have := a.lo_le_hi; omega,
      by have := a.hi_le_last; omega⟩
  else none

/-- The part of `a` that lies above `b`. -/
def above? (a b : Span) : Option Span :=
  if h : b.hi < a.hi then
    some ⟨max a.lo (b.hi + 1), a.hi, by have := a.lo_le_hi; omega, a.hi_le_last⟩
  else none

/-- The dump of a span; a single code point is written once. -/
def text (s : Span) : String :=
  if s.lo = s.hi then "[" ++ CodePoint.literal s.lo ++ "]"
  else "[" ++ CodePoint.literal s.lo ++ "-" ++ CodePoint.literal s.hi ++ "]"

@[simp] theorem isEmpty_eq_false (s : Span) : s.isEmpty = false := by
  simp [isEmpty, size]

@[simp] theorem contains_eq_true_iff {s : Span} {c : Nat} : s.contains c = true ↔ c ∈ s := by
  simp [contains]

@[simp] theorem mem_toList {s : Span} {c : Nat} : c ∈ s.toList ↔ c ∈ s := by
  have := s.lo_le_hi
  simp only [toList, size, List.mem_range'_1, mem_def]
  omega

@[simp] theorem length_toList (s : Span) : s.toList.length = s.size := by
  simp [toList]

theorem lo_mem (s : Span) : s.lo ∈ s := ⟨Nat.le_refl _, s.lo_le_hi⟩

theorem hi_mem (s : Span) : s.hi ∈ s := ⟨s.lo_le_hi, Nat.le_refl _⟩

/-- Spans that overlap or touch have a hull without further members. -/
theorem mem_hull {a b : Span} (hab : a.lo ≤ b.hi + 1) (hba : b.lo ≤ a.hi + 1) {c : Nat} :
    c ∈ a.hull b ↔ c ∈ a ∨ c ∈ b := by
  have := a.lo_le_hi
  have := b.lo_le_hi
  simp only [mem_def, hull]
  omega

theorem mem_overlap? {a b : Span} {c : Nat} :
    (∃ s ∈ a.overlap? b, c ∈ s) ↔ c ∈ a ∧ c ∈ b := by
  unfold overlap?
  split
  · simp only [Option.mem_def, Option.some.injEq, exists_eq_left', mem_def]
    omega
  · simp only [Option.mem_def, reduceCtorEq, false_and, exists_false, mem_def, false_iff]
    omega

theorem mem_below? {a b : Span} {c : Nat} :
    (∃ s ∈ a.below? b, c ∈ s) ↔ c ∈ a ∧ c < b.lo := by
  unfold below?
  split
  · simp only [Option.mem_def, Option.some.injEq, exists_eq_left', mem_def]
    omega
  · simp only [Option.mem_def, reduceCtorEq, false_and, exists_false, mem_def, false_iff]
    omega

theorem mem_above? {a b : Span} {c : Nat} :
    (∃ s ∈ a.above? b, c ∈ s) ↔ c ∈ a ∧ b.hi < c := by
  unfold above?
  split
  · simp only [Option.mem_def, Option.some.injEq, exists_eq_left', mem_def]
    omega
  · simp only [Option.mem_def, reduceCtorEq, false_and, exists_false, mem_def, false_iff]
    omega

theorem bounds_of_overlap? {a b s : Span} (h : a.overlap? b = some s) :
    s.lo = max a.lo b.lo ∧ s.hi = min a.hi b.hi := by
  unfold overlap? at h
  split at h
  · rw [← Option.some.inj h]
    exact ⟨rfl, rfl⟩
  · simp at h

theorem bounds_of_below? {a b s : Span} (h : a.below? b = some s) :
    s.lo = a.lo ∧ s.hi = min a.hi (b.lo - 1) ∧ a.lo < b.lo := by
  unfold below? at h
  split at h
  · rw [← Option.some.inj h]
    exact ⟨rfl, rfl, by assumption⟩
  · simp at h

theorem bounds_of_above? {a b s : Span} (h : a.above? b = some s) :
    s.lo = max a.lo (b.hi + 1) ∧ s.hi = a.hi ∧ b.hi < a.hi := by
  unfold above? at h
  split at h
  · rw [← Option.some.inj h]
    exact ⟨rfl, rfl, by assumption⟩
  · simp at h

theorem le_of_above?_eq_none {a b : Span} (h : a.above? b = none) : a.hi ≤ b.hi := by
  unfold above? at h
  split at h
  · simp at h
  · omega

end Span

end ScannerAlphabet
