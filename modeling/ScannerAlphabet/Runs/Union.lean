import ScannerAlphabet.Runs.Sorting

/-!
# Unions of span lists

Three ways to a union. `ofSpans` sorts any list of spans and joins those that touch; `union`
merges two separated lists in one pass; `insert` puts one span into a separated list and
replaces only the stretch that it touches. Each result is separated and covers what its
arguments cover.
-/
namespace ScannerAlphabet.Runs

/-- Joins a span with the spans behind it, closing it at the first gap. -/
def joinFrom (s : Span) : List Span → List Span
  | [] => [s]
  | t :: l => if t.lo ≤ s.hi + 1 then joinFrom (s.hull t) l else s :: joinFrom t l

/-- Joins the spans of an ascending list wherever they overlap or touch. -/
def join : List Span → List Span
  | [] => []
  | s :: l => joinFrom s l

/-- The spans of a list in any order, overlapping or not. -/
def ofSpans (l : List Span) : List Span :=
  join (sort l)

/-- Merges two separated lists. -/
def union (l m : List Span) : List Span :=
  join (merge l m)

/-- Lets a span take in the spans at the front of a list that it reaches. -/
def absorb (s : Span) : List Span → List Span
  | [] => [s]
  | t :: l => if t.lo ≤ s.hi + 1 then absorb (s.hull t) l else s :: t :: l

/-- Puts one span into a separated list. -/
def insert (s : Span) : List Span → List Span
  | [] => [s]
  | t :: l => if t.hi + 1 < s.lo then t :: insert s l else absorb s (t :: l)

theorem ascending_hull_cons {s t : Span} {l : List Span} (h : Ascending (s :: t :: l)) :
    Ascending (s.hull t :: l) := by
  rw [ascending_cons] at h ⊢
  refine ⟨fun u hu => ?_, (ascending_cons.mp h.2).2⟩
  have := h.1 u (List.mem_cons_of_mem _ hu)
  simp only [Span.hull]
  omega

theorem lo_le_of_mem_joinFrom {s : Span} {l : List Span} (h : Ascending (s :: l)) :
    ∀ t ∈ joinFrom s l, s.lo ≤ t.lo := by
  induction l generalizing s with
  | nil => simp [joinFrom]
  | cons t l ih =>
    intro u hu
    have hst := (ascending_cons.mp h).1 t List.mem_cons_self
    rw [joinFrom] at hu
    split at hu
    · have := ih (ascending_hull_cons h) u hu
      simp only [Span.hull] at this
      omega
    · rcases List.mem_cons.mp hu with rfl | hu
      · exact Nat.le_refl _
      · have := ih (ascending_cons.mp h).2 u hu
        omega

theorem separated_joinFrom {s : Span} {l : List Span} (h : Ascending (s :: l)) :
    Separated (joinFrom s l) := by
  induction l generalizing s with
  | nil => exact separated_singleton s
  | cons t l ih =>
    rw [joinFrom]
    split
    · exact ih (ascending_hull_cons h)
    · have ht := (ascending_cons.mp h).2
      refine separated_cons.mpr ⟨fun u hu => ?_, ih ht⟩
      have := lo_le_of_mem_joinFrom ht u hu
      omega

theorem covers_joinFrom {s : Span} {l : List Span} (h : Ascending (s :: l)) {c : Nat} :
    Covers (joinFrom s l) c ↔ c ∈ s ∨ Covers l c := by
  induction l generalizing s with
  | nil => simp [joinFrom]
  | cons t l ih =>
    rw [joinFrom]
    split
    · rename_i htouch
      have hst := (ascending_cons.mp h).1 t List.mem_cons_self
      have := t.lo_le_hi
      rw [ih (ascending_hull_cons h), Span.mem_hull (by omega) htouch, covers_cons, or_assoc]
    · rw [covers_cons, ih (ascending_cons.mp h).2, covers_cons]

theorem separated_join {l : List Span} (h : Ascending l) : Separated (join l) := by
  cases l with
  | nil => exact separated_nil
  | cons s l => exact separated_joinFrom h

theorem covers_join {l : List Span} (h : Ascending l) {c : Nat} :
    Covers (join l) c ↔ Covers l c := by
  cases l with
  | nil => rfl
  | cons s l => rw [join, covers_joinFrom h, covers_cons]

theorem separated_ofSpans (l : List Span) : Separated (ofSpans l) :=
  separated_join (ascending_sort l)

theorem covers_ofSpans {l : List Span} {c : Nat} : Covers (ofSpans l) c ↔ Covers l c := by
  rw [ofSpans, covers_join (ascending_sort l), covers_sort]

theorem separated_union {l m : List Span} (hl : Separated l) (hm : Separated m) :
    Separated (union l m) :=
  separated_join (ascending_merge hl.ascending hm.ascending)

theorem covers_union {l m : List Span} (hl : Separated l) (hm : Separated m) {c : Nat} :
    Covers (union l m) c ↔ Covers l c ∨ Covers m c := by
  rw [union, covers_join (ascending_merge hl.ascending hm.ascending), covers_merge]

theorem lo_le_of_mem_absorb {s : Span} {l : List Span} (h : Separated l) {n : Nat} (hn : n ≤ s.lo)
    (hl : ∀ t ∈ l, n ≤ t.lo) : ∀ t ∈ absorb s l, n ≤ t.lo := by
  induction l generalizing s with
  | nil => simpa [absorb] using hn
  | cons t l ih =>
    intro u hu
    rw [absorb] at hu
    split at hu
    · refine ih (separated_cons.mp h).2 ?_ (fun v hv => hl v (List.mem_cons_of_mem _ hv)) u hu
      have := hl t List.mem_cons_self
      simp only [Span.hull]
      omega
    · rcases List.mem_cons.mp hu with rfl | hu
      · exact hn
      · exact hl u hu

theorem separated_absorb {s : Span} {l : List Span} (h : Separated l) :
    Separated (absorb s l) := by
  induction l generalizing s with
  | nil => exact separated_singleton s
  | cons t l ih =>
    rw [absorb]
    split
    · exact ih (separated_cons.mp h).2
    · refine separated_cons.mpr ⟨fun u hu => ?_, h⟩
      rcases List.mem_cons.mp hu with rfl | hu
      · omega
      · have := (separated_cons.mp h).1 u hu
        have := t.lo_le_hi
        omega

theorem covers_absorb {s : Span} {l : List Span} (h : Separated l)
    (hs : ∀ t ∈ l, s.lo ≤ t.hi + 1) {c : Nat} :
    Covers (absorb s l) c ↔ c ∈ s ∨ Covers l c := by
  induction l generalizing s with
  | nil => simp [absorb]
  | cons t l ih =>
    rw [absorb]
    split
    · rename_i htouch
      have hst := hs t List.mem_cons_self
      rw [ih (separated_cons.mp h).2, Span.mem_hull hst htouch, covers_cons, or_assoc]
      intro u hu
      have := hs u (List.mem_cons_of_mem _ hu)
      simp only [Span.hull]
      omega
    · rw [covers_cons]

theorem lo_le_of_mem_insert {s : Span} {l : List Span} (h : Separated l) {n : Nat} (hn : n ≤ s.lo)
    (hl : ∀ t ∈ l, n ≤ t.lo) : ∀ t ∈ insert s l, n ≤ t.lo := by
  induction l with
  | nil => simpa [insert] using hn
  | cons t l ih =>
    intro u hu
    rw [insert] at hu
    split at hu
    · rcases List.mem_cons.mp hu with rfl | hu
      · exact hl u List.mem_cons_self
      · exact ih (separated_cons.mp h).2 (fun v hv => hl v (List.mem_cons_of_mem _ hv)) u hu
    · exact lo_le_of_mem_absorb h hn hl u hu

theorem separated_insert {s : Span} {l : List Span} (h : Separated l) :
    Separated (insert s l) := by
  induction l with
  | nil => exact separated_singleton s
  | cons t l ih =>
    obtain ⟨htl, hl⟩ := separated_cons.mp h
    rw [insert]
    split
    · rename_i hts
      exact separated_cons.mpr ⟨lo_le_of_mem_insert hl hts htl, ih hl⟩
    · exact separated_absorb h

theorem covers_insert {s : Span} {l : List Span} (h : Separated l) {c : Nat} :
    Covers (insert s l) c ↔ c ∈ s ∨ Covers l c := by
  induction l with
  | nil => simp [insert]
  | cons t l ih =>
    obtain ⟨htl, hl⟩ := separated_cons.mp h
    rw [insert]
    split
    · rw [covers_cons, ih hl, covers_cons]
      grind
    · refine covers_absorb h fun u hu => ?_
      rcases List.mem_cons.mp hu with rfl | hu
      · omega
      · have := htl u hu
        have := u.lo_le_hi
        omega

end ScannerAlphabet.Runs
