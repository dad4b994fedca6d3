import ScannerAlphabet.Partition
import ScannerAlphabet.Cursor

/-!
# Class tables

The class table of a partition lists the maximal runs of code points with the same class in
ascending order. A walk over the alphabet makes it: at each position it looks up the class and
takes the span of that class from a cursor. Positions only grow, so that each class needs one
cursor, which only moves forward.
-/
namespace ScannerAlphabet

/-- The code points from `first` to `last` have the class `code`. -/
structure ClassRun where
  first : Nat
  last : Nat
  code : Nat
deriving DecidableEq, Repr

/-- The dump of a run; both ends are written, even when they are the same. -/
def ClassRun.text (r : ClassRun) : String :=
  "[" ++ CodePoint.literal r.first ++ "-" ++ CodePoint.literal r.last ++ "=" ++
    toString r.code ++ "]"

/-- A walk that has made the table below `position`. -/
structure TableWalk where
  partition : Partition
  position : Nat
  cursors : List Cursor

namespace TableWalk

/-- The walk before the first run. -/
def start (p : Partition) : TableWalk :=
  ⟨p, 0, p.classes.map Cursor.start⟩

/-- The next run and the walk behind it; nothing at the end of the alphabet. -/
def step? (w : TableWalk) : Option (ClassRun × TableWalk) :=
  if w.partition.maximum < w.position then none
  else
    match w.partition.code? w.position with
    | none => none
    | some code =>
      match w.cursors[code]?.bind (·.seek? w.position) with
      | none => none
      | some (t, cursor) =>
        some (⟨w.position, t.hi, code⟩,
          { w with position := t.hi + 1, cursors := w.cursors.set code cursor })

theorem position_lt_of_step? {w w' : TableWalk} {r : ClassRun} (h : w.step? = some (r, w')) :
    w.position ≤ w.partition.maximum ∧ w.position < w'.position ∧
      w'.partition = w.partition := by
  unfold step? at h
  split at h
  · simp at h
  · split at h
    · simp at h
    · split at h
      · simp at h
      · rename_i t cursor hseek
        obtain ⟨k, -, hk⟩ := Option.bind_eq_some_iff.mp hseek
        have := (Cursor.mem_of_seek? hk).2
        simp only [Option.some.injEq, Prod.mk.injEq] at h
        obtain ⟨-, rfl⟩ := h
        refine ⟨by omega, ?_, rfl⟩
        simp only
        omega

/-- The runs that the walk has still to make. -/
def runs (w : TableWalk) : List ClassRun :=
  match _hstep : w.step? with
  | none => []
  | some (r, w') => r :: runs w'
termination_by w.partition.maximum + 1 - w.position
decreasing_by
  have h := position_lt_of_step? _hstep
  rw [h.2.2]
  omega

end TableWalk

/-- The runs of the whole alphabet. -/
def Partition.table (p : Partition) : List ClassRun :=
  (TableWalk.start p).runs

end ScannerAlphabet
