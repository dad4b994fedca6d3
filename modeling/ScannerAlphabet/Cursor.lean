import ScannerAlphabet.CharSet

/-!
# Cursors

A cursor walks over the spans of one set. It knows how many spans it has passed, hands out
the next one, and can be put back to the start. `rest` is what it has still to give.
-/
namespace ScannerAlphabet

structure Cursor where
  set : CharSet
  passed : Nat
  passed_le : passed ≤ set.spans.size := by omega
deriving DecidableEq

namespace Cursor

/-- A cursor before the first span. -/
def start (s : CharSet) : Cursor :=
  ⟨s, 0, Nat.zero_le _⟩

def rewind (k : Cursor) : Cursor :=
  start k.set

/-- The spans not yet passed. -/
def rest (k : Cursor) : List Span :=
  k.set.toRuns.drop k.passed

/-- How many spans are still to come. -/
def remaining (k : Cursor) : Nat :=
  k.set.spans.size - k.passed

/-- The next span and the cursor behind it; nothing at the end. -/
def next? (k : Cursor) : Option (Span × Cursor) :=
  if h : k.passed < k.set.spans.size then
    some (k.set.spans[k.passed], ⟨k.set, k.passed + 1, h⟩)
  else none

/-- The cursor behind the last span. -/
def finish (k : Cursor) : Cursor :=
  ⟨k.set, k.set.spans.size, Nat.le_refl _⟩

/-- What a cursor hands out is the span behind those that it has passed, and it passes that one
only. -/
theorem next?_eq_some_iff {k k' : Cursor} {t : Span} : k.next? = some (t, k') ↔
    k.set.toRuns[k.passed]? = some t ∧ k'.set = k.set ∧ k'.passed = k.passed + 1 := by
  obtain ⟨set', passed', _⟩ := k'
  unfold next?
  split
  · rename_i hlt
    have hspan : k.set.toRuns[k.passed]? = some k.set.spans[k.passed] := by
      rw [CharSet.toRuns, Array.getElem?_toList, Array.getElem?_eq_getElem hlt]
    simp only [hspan, Option.some.injEq, Prod.mk.injEq, mk.injEq, eq_comm]
  · rename_i hend
    have hspan : k.set.toRuns[k.passed]? = none := by
      rw [CharSet.toRuns, Array.getElem?_toList, Array.getElem?_eq_none (Nat.not_lt.mp hend)]
    simp only [hspan, reduceCtorEq, false_and]

theorem remaining_of_next? {k k' : Cursor} {t : Span} (h : k.next? = some (t, k')) :
    k'.remaining + 1 = k.remaining := by
  obtain ⟨-, hset, hpassed⟩ := next?_eq_some_iff.mp h
  have hle := k'.passed_le
  rw [hset] at hle
  rw [remaining, remaining, hset]
  omega

/-- The next span that has a code point, and the cursor behind it. Spans that do not have it are
passed over. -/
def seek? (k : Cursor) (c : Nat) : Option (Span × Cursor) :=
  match _hnext : k.next? with
  | none => none
  | some (t, k') => if c ∈ t then some (t, k') else seek? k' c
termination_by k.remaining
decreasing_by
  have := remaining_of_next? _hnext
  omega

theorem mem_of_seek? {k k' : Cursor} {c : Nat} {t : Span} (h : k.seek? c = some (t, k')) :
    c ∈ t := by
  fun_induction seek? k c with
  | case1 => simp at h
  | case2 k t' k'' _ hmem =>
    simp only [Option.some.injEq, Prod.mk.injEq] at h
    exact h.1 ▸ hmem
  | case3 k t' k'' _ hmem ih => exact ih h

theorem length_rest (k : Cursor) : k.rest.length = k.remaining := by
  simp [rest, remaining, CharSet.toRuns]

theorem rest_eq (k : Cursor) :
    k.rest = match k.next? with
      | some (t, k') => t :: k'.rest
      | none => [] := by
  unfold next?
  split
  · rename_i h heq
    split at heq
    · simp only [Option.some.injEq, Prod.mk.injEq] at heq
      obtain ⟨rfl, rfl⟩ := heq
      rename_i hlt
      simp only [rest, CharSet.toRuns]
      rw [List.drop_eq_getElem_cons (by simpa using hlt), Array.getElem_toList]
    · simp at heq
  · rename_i heq
    split at heq
    · simp at heq
    · simp only [rest, CharSet.toRuns, List.drop_eq_nil_iff, Array.length_toList]
      omega

end Cursor

end ScannerAlphabet
