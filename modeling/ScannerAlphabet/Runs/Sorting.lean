import ScannerAlphabet.Runs

/-!
# Sorting spans

Lists of spans are put in ascending order of their lower bounds before they are joined. Two
ascending lists are merged, with the first list ahead where both start together; a list in any
order is dealt out in two halves, which are sorted and merged. Neither gains or loses a span.
-/
namespace ScannerAlphabet.Runs

/-- Each span starts no later than those behind it. -/
def Ascending (l : List Span) : Prop :=
  l.Pairwise fun s t => s.lo ≤ t.lo

/-- Puts the spans of a list that start before `s` ahead of it; `next` merges the rest. -/
def mergeFrom (next : List Span → List Span) (s : Span) : List Span → List Span
  | [] => s :: next []
  | t :: m => if s.lo ≤ t.lo then s :: next (t :: m) else t :: mergeFrom next s m

/-- Merges two ascending lists. -/
def merge : List Span → List Span → List Span
  | [], m => m
  | s :: l, m => mergeFrom (merge l) s m

/-- Deals a list out in two halves, one span to each in turn. -/
def deal : List Span → List Span × List Span
  | [] => ([], [])
  | s :: l => (s :: (deal l).2, (deal l).1)

/-- Sorts a list that has at most one span more than the bound. -/
def sortWithin : Nat → List Span → List Span
  | n + 1, s :: t :: l =>
    merge (sortWithin n (deal (s :: t :: l)).1) (sortWithin n (deal (s :: t :: l)).2)
  | _, l => l

def sort (l : List Span) : List Span :=
  sortWithin l.length l

theorem ascending_cons {s : Span} {l : List Span} :
    Ascending (s :: l) ↔ (∀ t ∈ l, s.lo ≤ t.lo) ∧ Ascending l :=
  List.pairwise_cons

theorem Separated.ascending {l : List Span} (h : Separated l) : Ascending l := by
  refine List.Pairwise.imp (fun {s t} hst => ?_) h
  have := s.lo_le_hi
  omega

theorem merge_nil (l : List Span) : merge l [] = l := by
  induction l with
  | nil => rfl
  | cons s l ih => rw [merge, mergeFrom, ih]

theorem merge_cons_cons (s t : Span) (l m : List Span) :
    merge (s :: l) (t :: m) =
      if s.lo ≤ t.lo then s :: merge l (t :: m) else t :: merge (s :: l) m := rfl

theorem mem_merge {l m : List Span} {u : Span} : u ∈ merge l m ↔ u ∈ l ∨ u ∈ m := by
  induction l generalizing m with
  | nil => simp [merge]
  | cons s l ihl =>
    induction m with
    | nil => simp [merge_nil]
    | cons t m ihm =>
      rw [merge_cons_cons]
      split
      · rw [List.mem_cons, ihl, List.mem_cons (a := u) (b := s), or_assoc]
      · rw [List.mem_cons, ihm, List.mem_cons (a := u) (b := t)]
        grind

theorem ascending_merge {l m : List Span} (hl : Ascending l) (hm : Ascending m) :
    Ascending (merge l m) := by
  induction l generalizing m with
  | nil => exact hm
  | cons s l ihl =>
    induction m with
    | nil => rwa [merge_nil]
    | cons t m ihm =>
      obtain ⟨hs, hl'⟩ := ascending_cons.mp hl
      obtain ⟨ht, hm'⟩ := ascending_cons.mp hm
      rw [merge_cons_cons]
      split
      · refine ascending_cons.mpr ⟨fun u hu => ?_, ihl hl' hm⟩
        rcases mem_merge.mp hu with hu | hu
        · exact hs u hu
        · rcases List.mem_cons.mp hu with rfl | hu
          · assumption
          · have := ht u hu
            omega
      · refine ascending_cons.mpr ⟨fun u hu => ?_, ihm hm'⟩
        rcases mem_merge.mp hu with hu | hu
        · rcases List.mem_cons.mp hu with rfl | hu
          · omega
          · have := hs u hu
            omega
        · exact ht u hu

theorem mem_deal {l : List Span} {u : Span} : u ∈ (deal l).1 ∨ u ∈ (deal l).2 ↔ u ∈ l := by
  induction l with
  | nil => simp [deal]
  | cons s l ih =>
    rw [List.mem_cons, ← ih, deal, List.mem_cons]
    grind

theorem length_deal (l : List Span) :
    (deal l).1.length ≤ (l.length + 1) / 2 ∧ (deal l).2.length ≤ l.length / 2 := by
  induction l with
  | nil => simp [deal]
  | cons s l ih =>
    simp only [deal, List.length_cons]
    omega

theorem mem_sortWithin {n : Nat} {l : List Span} {u : Span} : u ∈ sortWithin n l ↔ u ∈ l := by
  fun_induction sortWithin n l with
  | case1 n s t l ih₁ ih₂ => rw [mem_merge, ih₁, ih₂, mem_deal]
  | case2 => rfl

theorem ascending_sortWithin {n : Nat} {l : List Span} (h : l.length ≤ n + 1) :
    Ascending (sortWithin n l) := by
  fun_induction sortWithin n l with
  | case1 n s t l ih₁ ih₂ =>
    have := length_deal (s :: t :: l)
    simp only [List.length_cons] at h this
    exact ascending_merge (ih₁ (by omega)) (ih₂ (by omega))
  | case2 n l hl =>
    match n, l with
    | _, [] => exact List.Pairwise.nil
    | _, [s] => exact List.pairwise_singleton _ _
    | 0, _ :: _ :: _ => simp at h
    | n + 1, s :: t :: l => exact absurd rfl (hl n s t l rfl)

theorem ascending_sort (l : List Span) : Ascending (sort l) :=
  ascending_sortWithin (Nat.le_succ _)

theorem covers_merge {l m : List Span} {c : Nat} :
    Covers (merge l m) c ↔ Covers l c ∨ Covers m c := by
  simp only [Covers, mem_merge]
  grind

theorem covers_sort {l : List Span} {c : Nat} : Covers (sort l) c ↔ Covers l c := by
  simp only [Covers, sort, mem_sortWithin]

end ScannerAlphabet.Runs
