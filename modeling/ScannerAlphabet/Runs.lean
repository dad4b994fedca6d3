import ScannerAlphabet.Span

/-!
# Separated lists of spans

A list of spans covers the code points of its members. It is separated when each span ends
at least two below the start of every later one, so that neighbours neither overlap nor
touch. Separation makes the list canonical: `eq_of_covers_iff` says that two separated lists
with the same code points are the same list.
-/
namespace ScannerAlphabet.Runs

/-- Whether some span of the list has the code point. -/
def Covers (l : List Span) (c : Nat) : Prop :=
  ∃ s ∈ l, c ∈ s

/-- Ascending, disjoint and without neighbours that touch. -/
def Separated (l : List Span) : Prop :=
  l.Pairwise fun s t => s.hi + 1 < t.lo

instance (l : List Span) (c : Nat) : Decidable (Covers l c) :=
  inferInstanceAs (Decidable (∃ s ∈ l, c ∈ s))

instance (l : List Span) : Decidable (Separated l) :=
  inferInstanceAs (Decidable (l.Pairwise _))

@[simp] theorem not_covers_nil (c : Nat) : ¬ Covers [] c := by
  simp [Covers]

@[simp] theorem covers_cons {s : Span} {l : List Span} {c : Nat} :
    Covers (s :: l) c ↔ c ∈ s ∨ Covers l c := by
  simp [Covers]

@[simp] theorem covers_append {l m : List Span} {c : Nat} :
    Covers (l ++ m) c ↔ Covers l c ∨ Covers m c := by
  simp only [Covers, List.mem_append]
  grind

@[simp] theorem covers_toList {s : Option Span} {c : Nat} :
    Covers s.toList c ↔ ∃ t ∈ s, c ∈ t := by
  simp [Covers]

theorem Covers.le_last {l : List Span} {c : Nat} (h : Covers l c) : c ≤ CodePoint.last := by
  obtain ⟨s, _, hs⟩ := h
  exact Nat.le_trans hs.2 s.hi_le_last

theorem separated_nil : Separated [] := List.Pairwise.nil

theorem separated_singleton (s : Span) : Separated [s] := List.pairwise_singleton _ _

theorem separated_cons {s : Span} {l : List Span} :
    Separated (s :: l) ↔ (∀ t ∈ l, s.hi + 1 < t.lo) ∧ Separated l :=
  List.pairwise_cons

theorem Separated.lt_of_covers {s : Span} {l : List Span} (h : Separated (s :: l)) {c : Nat}
    (hc : Covers l c) : s.hi + 1 < c := by
  obtain ⟨t, ht, hct⟩ := hc
  have := (separated_cons.mp h).1 t ht
  have := hct.1
  omega

theorem Separated.le_of_covers {s : Span} {l : List Span} (h : Separated (s :: l)) {c : Nat}
    (hc : Covers (s :: l) c) : s.lo ≤ c := by
  rcases covers_cons.mp hc with hc | hc
  · exact hc.1
  · have := h.lt_of_covers hc
    have := s.lo_le_hi
    omega

/-- A separated list is determined by the code points that it covers. -/
theorem eq_of_covers_iff {l m : List Span} (hl : Separated l) (hm : Separated m)
    (h : ∀ c, Covers l c ↔ Covers m c) : l = m := by
  induction l generalizing m with
  | nil =>
    cases m with
    | nil => rfl
    | cons t m => exact absurd ((h t.lo).mpr (covers_cons.mpr (.inl t.lo_mem))) (not_covers_nil _)
  | cons s l ih =>
    cases m with
    | nil => exact absurd ((h s.lo).mp (covers_cons.mpr (.inl s.lo_mem))) (not_covers_nil _)
    | cons t m =>
      have hlo : s.lo = t.lo := Nat.le_antisymm
        (hl.le_of_covers ((h t.lo).mpr (covers_cons.mpr (.inl t.lo_mem))))
        (hm.le_of_covers ((h s.lo).mp (covers_cons.mpr (.inl s.lo_mem))))
      have hs := s.lo_le_hi
      have ht := t.lo_le_hi
      have hhi : s.hi = t.hi := by
        rcases Nat.lt_trichotomy s.hi t.hi with hlt | heq | hgt
        · have hc : Covers (s :: l) (s.hi + 1) :=
            (h _).mpr (covers_cons.mpr (.inl ⟨by omega, by omega⟩))
          rcases covers_cons.mp hc with hc | hc
          · have := hc.2
            omega
          · have := hl.lt_of_covers hc
            omega
        · exact heq
        · have hc : Covers (t :: m) (t.hi + 1) :=
            (h _).mp (covers_cons.mpr (.inl ⟨by omega, by omega⟩))
          rcases covers_cons.mp hc with hc | hc
          · have := hc.2
            omega
          · have := hm.lt_of_covers hc
            omega
      have hst : s = t := Span.ext hlo hhi
      subst hst
      refine congrArg (s :: ·) (ih (separated_cons.mp hl).2 (separated_cons.mp hm).2 fun c => ?_)
      have hc := h c
      simp only [covers_cons] at hc
      constructor
      · intro hcl
        rcases hc.mp (.inr hcl) with hcs | hcm
        · have := hl.lt_of_covers hcl
          have := hcs.2
          omega
        · exact hcm
      · intro hcm
        rcases hc.mpr (.inr hcm) with hcs | hcl
        · have := hm.lt_of_covers hcm
          have := hcs.2
          omega
        · exact hcl

end ScannerAlphabet.Runs
