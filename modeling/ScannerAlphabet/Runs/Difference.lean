import ScannerAlphabet.Runs

/-!
# Differences of span lists

`difference` cuts the spans of one separated list by those of another. Each cut leaves the part
of the current span below it and goes on with the part above it; a cut that reaches the end of
the current span stays in the list, for it may reach into the next span too.
-/
namespace ScannerAlphabet.Runs

/-- What is left of `s` after the cuts; once `s` has ended, `next` goes on with the other cuts. -/
def cutFrom (next : List Span → List Span) (s : Span) : List Span → List Span
  | [] => s :: next []
  | t :: m =>
    (s.below? t).toList ++
      match s.above? t with
      | none => next (t :: m)
      | some rest => cutFrom next rest m

/-- The code points that the first list covers and the second does not. -/
def difference : List Span → List Span → List Span
  | [], _ => []
  | s :: l, m => cutFrom (difference l) s m

theorem exists_of_mem_difference {l m : List Span} {u : Span} (hu : u ∈ difference l m) :
    ∃ s ∈ l, s.lo ≤ u.lo ∧ u.hi ≤ s.hi := by
  induction l generalizing m with
  | nil => simp [difference] at hu
  | cons s l ihl =>
    suffices h : ∀ r : Span, s.lo ≤ r.lo → r.hi ≤ s.hi → u ∈ cutFrom (difference l) r m →
        ∃ s' ∈ s :: l, s'.lo ≤ u.lo ∧ u.hi ≤ s'.hi from
      h s (Nat.le_refl _) (Nat.le_refl _) hu
    clear hu
    induction m with
    | nil =>
      intro r hlo hhi hu
      simp only [cutFrom, List.mem_cons] at hu
      rcases hu with rfl | hu
      · exact ⟨s, List.mem_cons_self, hlo, hhi⟩
      · obtain ⟨s', hs', h⟩ := ihl hu
        exact ⟨s', List.mem_cons_of_mem _ hs', h⟩
    | cons t m ihm =>
      intro r hlo hhi hu
      rw [cutFrom, List.mem_append] at hu
      rcases hu with hu | hu
      · refine ⟨s, List.mem_cons_self, ?_⟩
        have := Span.bounds_of_below? (Option.mem_toList.mp hu)
        omega
      · split at hu
        · obtain ⟨s', hs', h⟩ := ihl hu
          exact ⟨s', List.mem_cons_of_mem _ hs', h⟩
        · rename_i rest hrest
          have := Span.bounds_of_above? hrest
          exact ihm rest (by omega) (by omega) hu

theorem covers_difference {l m : List Span} (hl : Separated l) (hm : Separated m) {c : Nat} :
    Covers (difference l m) c ↔ Covers l c ∧ ¬ Covers m c := by
  induction l generalizing m with
  | nil => simp [difference]
  | cons s l ihl =>
    suffices h : ∀ r : Span, r.hi = s.hi →
        (Covers (cutFrom (difference l) r m) c ↔ (c ∈ r ∨ Covers l c) ∧ ¬ Covers m c) by
      rw [difference, h s rfl, covers_cons]
    induction m with
    | nil =>
      intro r _
      simp only [cutFrom, covers_cons, ihl (separated_cons.mp hl).2 separated_nil,
        not_covers_nil, not_false_eq_true, and_true]
    | cons t m ihm =>
      intro r hr
      have below : ∀ {n}, Covers m n → t.hi + 1 < n := fun h => hm.lt_of_covers h
      have after : Covers l c → s.hi + 1 < c := fun h => hl.lt_of_covers h
      have hrb := Span.mem_below? (a := r) (b := t) (c := c)
      rw [cutFrom, covers_append, covers_toList, hrb, covers_cons]
      split
      · rename_i hnone
        rw [ihl (separated_cons.mp hl).2 hm, covers_cons]
        have hle := Span.le_of_above?_eq_none hnone
        simp only [Span.mem_def]
        constructor
        · rintro (⟨⟨h1, h2⟩, h3⟩ | ⟨h1, h2⟩)
          · refine ⟨.inl ⟨h1, h2⟩, ?_⟩
            rintro (h4 | h4)
            · omega
            · have := below h4
              have := t.lo_le_hi
              omega
          · exact ⟨.inr h1, h2⟩
        · rintro ⟨⟨h1, h2⟩ | h1, h3⟩
          · refine .inl ⟨⟨h1, h2⟩, ?_⟩
            apply Decidable.byContradiction
            intro h4
            exact h3 (.inl ⟨by omega, by omega⟩)
          · exact .inr ⟨h1, h3⟩
      · rename_i rest hrest
        have hra := Span.mem_above? (a := r) (b := t) (c := c)
        obtain ⟨-, hhi, hlt⟩ := Span.bounds_of_above? hrest
        rw [ihm (separated_cons.mp hm).2 rest (hhi.trans hr)]
        simp only [hrest, Option.mem_def, Option.some.injEq, exists_eq_left'] at hra
        rw [hra]
        simp only [Span.mem_def]
        constructor
        · rintro (⟨⟨h1, h2⟩, h3⟩ | ⟨⟨⟨h1, h2⟩, h3⟩ | h1, h2⟩)
          · refine ⟨.inl ⟨h1, h2⟩, ?_⟩
            rintro (h4 | h4)
            · omega
            · have := below h4
              have := t.lo_le_hi
              omega
          · refine ⟨.inl ⟨h1, h2⟩, ?_⟩
            rintro (h4 | h4)
            · omega
            · contradiction
          · refine ⟨.inr h1, ?_⟩
            rintro (h4 | h4)
            · have := after h1
              omega
            · contradiction
        · rintro ⟨⟨h1, h2⟩ | h1, h3⟩
          · by_cases h4 : c < t.lo
            · exact .inl ⟨⟨h1, h2⟩, h4⟩
            · refine .inr ⟨.inl ⟨⟨h1, h2⟩, ?_⟩, fun h5 => h3 (.inr h5)⟩
              apply Decidable.byContradiction
              intro h5
              exact h3 (.inl ⟨by omega, by omega⟩)
          · exact .inr ⟨.inr h1, fun h5 => h3 (.inr h5)⟩

theorem separated_difference {l m : List Span} (hl : Separated l) :
    Separated (difference l m) := by
  induction l generalizing m with
  | nil => exact separated_nil
  | cons s l ihl =>
    obtain ⟨hsl, hl⟩ := separated_cons.mp hl
    have later : ∀ {n u}, u ∈ difference l n → s.hi + 1 < u.lo := by
      intro n u hu
      obtain ⟨s', hs', h1, -⟩ := exists_of_mem_difference hu
      have := hsl s' hs'
      omega
    suffices h : ∀ r : Span, r.hi = s.hi → Separated (cutFrom (difference l) r m) ∧
        ∀ u ∈ cutFrom (difference l) r m, r.lo ≤ u.lo from (h s rfl).1
    induction m with
    | nil =>
      intro r hr
      refine ⟨separated_cons.mpr ⟨fun u hu => ?_, ihl hl⟩, fun u hu => ?_⟩
      · have := later hu
        omega
      · rcases List.mem_cons.mp hu with rfl | hu
        · exact Nat.le_refl _
        · have := later hu
          have := r.lo_le_hi
          omega
    | cons t m ihm =>
      intro r hr
      have hbelow : ∀ u ∈ (r.below? t).toList, u.lo = r.lo ∧ u.hi ≤ r.hi ∧ u.hi < t.lo := by
        intro u hu
        have := Span.bounds_of_below? (Option.mem_toList.mp hu)
        omega
      have hone : Separated (r.below? t).toList := by
        cases r.below? t with
        | none => exact separated_nil
        | some v => exact separated_singleton v
      rw [cutFrom]
      cases habove : r.above? t with
      | none =>
        simp only
        refine ⟨List.pairwise_append.mpr ⟨hone, ihl hl, fun v hv u hu => ?_⟩, fun u hu => ?_⟩
        · have := hbelow v hv
          have := later hu
          omega
        · rcases List.mem_append.mp hu with hu | hu
          · have := hbelow u hu
            omega
          · have := later hu
            have := r.lo_le_hi
            omega
      | some rest =>
        have hrest := Span.bounds_of_above? habove
        obtain ⟨hsep, hlo⟩ := ihm rest (by omega)
        simp only
        have ht := t.lo_le_hi
        refine ⟨List.pairwise_append.mpr ⟨hone, hsep, fun v hv u hu => ?_⟩, fun u hu => ?_⟩
        · have := hbelow v hv
          have := hlo u hu
          omega
        · rcases List.mem_append.mp hu with hu | hu
          · have := hbelow u hu
            omega
          · have := hlo u hu
            omega

end ScannerAlphabet.Runs
