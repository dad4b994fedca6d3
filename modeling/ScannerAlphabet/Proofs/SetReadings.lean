import Mathlib.Data.Set.Card
import ScannerAlphabet.Cursor
import ScannerAlphabet.Proofs.ClassCodes

/-!
# Readings of a set

A set can be read in four ways: a search by halving answers whether it has a code point, its spans
are listed, a sum over the spans counts its members, and a cursor hands the spans out one at a
time. `readings_agree` says that they tell the same. A cursor can be put back at any time, and asked
for more when nothing is left, so what it says is stated for every list of moves: it depends only on
how often the list asks for a span after it last goes back to the start.
-/
namespace ScannerAlphabet

namespace Cursor

/-- What a cursor can be asked to do. -/
inductive Move where
  | next
  | rewind
deriving DecidableEq, Repr

/-- The span that a cursor hands out when it is asked for the next one. -/
def answer? (k : Cursor) : Option Span :=
  k.next?.map Prod.fst

/-- The cursor after a move. At the end of the spans it stays where it is. -/
def move (k : Cursor) : Move → Cursor
  | .next => (k.next?.map Prod.snd).getD k
  | .rewind => k.rewind

/-- The cursor after some moves. -/
def follow (k : Cursor) (moves : List Move) : Cursor :=
  moves.foldl move k

/-- How many spans some moves ask for after they last go back to the start. -/
def sinceRewind (moves : List Move) : Nat :=
  (moves.reverse.takeWhile (· = .next)).length

@[simp] theorem sinceRewind_nil : sinceRewind [] = 0 := rfl

@[simp] theorem sinceRewind_concat_next (moves : List Move) :
    sinceRewind (moves ++ [.next]) = sinceRewind moves + 1 := by
  simp [sinceRewind]

@[simp] theorem sinceRewind_concat_rewind (moves : List Move) :
    sinceRewind (moves ++ [.rewind]) = 0 := by
  simp [sinceRewind]

theorem sinceRewind_append_replicate (moves : List Move) (n : Nat) :
    sinceRewind (moves ++ List.replicate n .next) = sinceRewind moves + n := by
  induction n with
  | zero => simp
  | succ n ih =>
    rw [List.replicate_succ', ← List.append_assoc, sinceRewind_concat_next, ih, Nat.add_assoc]

example : sinceRewind [.next, .rewind, .next, .next] = 2 := by
  decide

theorem answer?_eq_head? (k : Cursor) : k.answer? = k.rest.head? := by
  rw [answer?, rest_eq]
  cases k.next? with
  | none => rfl
  | some found => rfl

theorem rest_move_next (k : Cursor) : (k.move .next).rest = k.rest.tail := by
  rw [k.rest_eq, move]
  cases h : k.next? with
  | none =>
    have hrest := k.rest_eq
    rw [h] at hrest
    exact hrest
  | some found => rfl

theorem set_move (k : Cursor) (a : Move) : (k.move a).set = k.set := by
  cases a with
  | next =>
    rw [move]
    cases h : k.next? with
    | none => rfl
    | some found => exact (next?_eq_some_iff.mp h).2.1
  | rewind => rfl

theorem follow_concat (k : Cursor) (moves : List Move) (a : Move) :
    k.follow (moves ++ [a]) = (k.follow moves).move a := by
  simp [follow]

theorem set_follow (k : Cursor) (moves : List Move) : (k.follow moves).set = k.set := by
  induction moves generalizing k with
  | nil => rfl
  | cons a moves ih => exact (ih (k.move a)).trans (k.set_move a)

/-- Wherever a cursor has been, it has still to give all but the spans that it was asked for since
it last went back to the start. -/
theorem rest_follow (s : CharSet) (moves : List Move) :
    ((start s).follow moves).rest = s.toRuns.drop (sinceRewind moves) := by
  induction moves using List.reverseRecOn with
  | nil => rfl
  | append_singleton moves a ih =>
    rw [follow_concat]
    cases a with
    | next => rw [rest_move_next, ih, sinceRewind_concat_next, List.tail_drop]
    | rewind =>
      rw [sinceRewind_concat_rewind, List.drop_zero]
      exact congrArg CharSet.toRuns (set_follow (start s) moves)

theorem answer?_follow (s : CharSet) (moves : List Move) :
    ((start s).follow moves).answer? = s.toRuns[sinceRewind moves]? := by
  rw [answer?_eq_head?, rest_follow, List.head?_drop]

theorem remaining_follow (s : CharSet) (moves : List Move) :
    ((start s).follow moves).remaining = s.spanCount - sinceRewind moves := by
  rw [← length_rest, rest_follow, List.length_drop]
  rfl

theorem isSome_answer?_follow_iff (s : CharSet) (moves : List Move) (n : Nat) :
    ((start s).follow (moves ++ List.replicate n .next)).answer?.isSome = true ↔
      n < ((start s).follow moves).remaining := by
  have hcount : s.toRuns.length = s.spanCount := Array.length_toList
  rw [answer?_follow, remaining_follow, sinceRewind_append_replicate, isSome_getElem?, hcount]
  omega

end Cursor

namespace CharSet

theorem setOf_mem_eq (s : CharSet) : {c : Nat | c ∈ s} = s.toList.toFinset := by
  ext c
  simp

theorem ncard_setOf_mem (s : CharSet) : {c : Nat | c ∈ s}.ncard = s.size := by
  rw [setOf_mem_eq, Set.ncard_coe_finset, List.toFinset_card_of_nodup s.nodup_toList,
    length_toList]

theorem size_union_add_size_inter (s t : CharSet) :
    (s ∪ t).size + (s ∩ t).size = s.size + t.size := by
  have hfinite : ∀ u : CharSet, {c : Nat | c ∈ u}.Finite := by
    intro u
    rw [setOf_mem_eq]
    exact Finset.finite_toSet _
  have hunion : {c : Nat | c ∈ s ∪ t} = {c | c ∈ s} ∪ {c | c ∈ t} := by
    ext c
    exact mem_union
  have hinter : {c : Nat | c ∈ s ∩ t} = {c | c ∈ s} ∩ {c | c ∈ t} := by
    ext c
    exact mem_inter
  rw [← ncard_setOf_mem, ← ncard_setOf_mem, ← ncard_setOf_mem s, ← ncard_setOf_mem t, hunion,
    hinter]
  exact Set.ncard_union_add_ncard_inter _ _ (hfinite s) (hfinite t)

theorem contains_iff_exists_span (s : CharSet) (c : Nat) :
    s.contains c = true ↔ ∃ t ∈ s.toRuns, t.contains c = true := by
  rw [contains_eq_true_iff, mem_def, Runs.Covers]
  simp only [Span.contains_eq_true_iff]

/-- The search finds a code point, whatever its size, if and only if a listed span has it; as many
code points are found as the set counts; after any moves a cursor hands out the span at the place
that the moves since it went back to the start have come to, and nothing behind the last one, and it
says how many are still to come. So the sizes of a union and of a common part make up the sizes of
the two sets. -/
theorem readings_agree (s : CharSet) :
    (∀ c, s.contains c = true ↔ ∃ t ∈ s.toRuns, t.contains c = true) ∧
    {c : Nat | s.contains c = true}.ncard = s.size ∧
    (∀ moves, ((Cursor.start s).follow moves).answer? =
      s.toRuns[Cursor.sinceRewind moves]?) ∧
    (∀ moves n, ((Cursor.start s).follow (moves ++ List.replicate n .next)).answer?.isSome = true ↔
      n < ((Cursor.start s).follow moves).remaining) ∧
    ∀ t : CharSet, (s ∪ t).size + (s ∩ t).size = s.size + t.size := by
  refine ⟨contains_iff_exists_span s, ?_, Cursor.answer?_follow s,
    Cursor.isSome_answer?_follow_iff s, size_union_add_size_inter s⟩
  simp only [contains_eq_true_iff]
  exact ncard_setOf_mem s

end CharSet
end ScannerAlphabet
