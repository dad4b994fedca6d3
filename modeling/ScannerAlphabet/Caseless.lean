import ScannerAlphabet.Event

/-!
# Case variants

A source of case variants gives, for some code points, the set of all code points that differ
from them in case only. A set is folded by adding the variants of its members; the variants
that come in are not folded again. A source may prepare itself when it is first asked, and
reports that once; a reader of the source remembers whether it has been asked.
-/
namespace ScannerAlphabet

structure CaselessSource where
  /-- The variants of a code point, itself included; nothing for a code point without any. -/
  variants? : Nat → Option CharSet
  /-- The largest code point that the source knows of. -/
  maximum : Nat
  /-- What the source reports when it is first asked, made only then. -/
  onFirstLookup : Thunk (List Event)

/-- Adds the variants of every member. -/
def CharSet.fold (s : CharSet) (variants? : Nat → Option CharSet) : CharSet :=
  s.toList.foldl (fun folded c =>
    match variants? c with
    | some v => folded ∪ v
    | none => folded) s

theorem CharSet.mem_foldl_variants {variants? : Nat → Option CharSet} {l : List Nat} {s : CharSet}
    {c : Nat} :
    c ∈ l.foldl (fun folded d =>
      match variants? d with
      | some v => folded ∪ v
      | none => folded) s ↔ c ∈ s ∨ ∃ d ∈ l, ∃ v ∈ variants? d, c ∈ v := by
  induction l generalizing s with
  | nil => simp
  | cons d l ih =>
    rw [List.foldl_cons, ih]
    cases hd : variants? d with
    | none => simp [hd]
    | some v => simp [hd, or_assoc]

/-- Folding adds the variants of the members, and nothing else. -/
@[simp] theorem CharSet.mem_fold {s : CharSet} {variants? : Nat → Option CharSet} {c : Nat} :
    c ∈ s.fold variants? ↔ c ∈ s ∨ ∃ d ∈ s, ∃ v ∈ variants? d, c ∈ v := by
  rw [CharSet.fold, CharSet.mem_foldl_variants]
  simp only [CharSet.mem_toList]

/-- A source together with whether it has been asked. -/
structure CaselessReader where
  source : CaselessSource
  asked : Bool

namespace CaselessReader

def ofSource (source : CaselessSource) : CaselessReader :=
  ⟨source, false⟩

/-- The reader after a question, and what the source reports. -/
def ask (r : CaselessReader) : CaselessReader × List Event :=
  ({ r with asked := true }, if r.asked then [] else r.source.onFirstLookup.get)

/-- The folded set. The empty set needs no question. -/
def fold (r : CaselessReader) (s : CharSet) : CharSet × CaselessReader × List Event :=
  (s.fold r.source.variants?, if s.isEmpty then (r, []) else r.ask)

theorem source_fold (r : CaselessReader) (s : CharSet) : (r.fold s).2.1.source = r.source := by
  unfold fold ask
  split <;> rfl

end CaselessReader

end ScannerAlphabet
