import ScannerAlphabet.Runs

/-!
# Common parts of span lists

`meet` sweeps over two separated lists at once and moves on in the list whose current span
ends first. The overlaps come out in ascending order and need no joining: where two of them
touched, two spans of one list would have touched.
-/
namespace ScannerAlphabet.Runs

/-- The overlaps of `s` with a list; once `s` has ended, `next` goes on with what is left. -/
def meetFrom (s : Span) (next : List Span → List Span) : List Span → List Span
  | [] => []
  | t :: m =>
    (s.overlap? t).toList ++ if s.hi < t.hi then next (t :: m) else meetFrom s next m

/-- The code points that both lists cover. -/
def meet : List Span → List Span → List Span
  | [], _ => []
  | s :: l, m => meetFrom s (meet l) m

theorem meet_nil (l : List Span) : meet l [] = [] := by
  cases l <;> rfl

theorem meet_cons_cons (s t : Span) (l m : List Span) :
    meet (s :: l) (t :: m) =
      (s.overlap? t).toList ++ if s.hi < t.hi then meet l (t :: m) else meet (s :: l) m := rfl

theorem covers_meet {l m : List Span} (hl : Separated l) (hm : Separated m) {c : Nat} :
    Covers (meet l m) c ↔ Covers l c ∧ Covers m c := by
  induction l generalizing m with
  | nil => simp [meet]
  | cons s l ihl =>
    induction m with
    | nil => simp [meet_nil]
    | cons t m ihm =>
      rw [meet_cons_cons, covers_append, covers_toList, Span.mem_overlap?]
      split
      · rename_i hlt
        rw [ihl (separated_cons.mp hl).2 hm]
        simp only [covers_cons]
        constructor
        · grind
        · rintro ⟨hs | hs, ht | ht⟩
          · exact .inl ⟨hs, ht⟩
          · have := hm.lt_of_covers ht
            have := hs.2
            omega
          · exact .inr ⟨hs, .inl ht⟩
          · exact .inr ⟨hs, .inr ht⟩
      · rename_i hle
        rw [ihm (separated_cons.mp hm).2]
        simp only [covers_cons]
        constructor
        · grind
        · rintro ⟨hs | hs, ht | ht⟩
          · exact .inl ⟨hs, ht⟩
          · exact .inr ⟨.inl hs, ht⟩
          · have := hl.lt_of_covers hs
            have := ht.2
            omega
          · exact .inr ⟨.inr hs, ht⟩

theorem exists_of_mem_meet {l m : List Span} {u : Span} (hu : u ∈ meet l m) :
    ∃ s ∈ l, ∃ t ∈ m, s.overlap? t = some u := by
  induction l generalizing m with
  | nil => simp [meet] at hu
  | cons s l ihl =>
    induction m with
    | nil => simp [meet_nil] at hu
    | cons t m ihm =>
      rw [meet_cons_cons, List.mem_append] at hu
      rcases hu with hu | hu
      · exact ⟨s, List.mem_cons_self, t, List.mem_cons_self, by simpa using hu⟩
      · split at hu
        · obtain ⟨s', hs', t', ht', h⟩ := ihl hu
          exact ⟨s', List.mem_cons_of_mem _ hs', t', ht', h⟩
        · obtain ⟨s', hs', t', ht', h⟩ := ihm hu
          exact ⟨s', hs', t', List.mem_cons_of_mem _ ht', h⟩

theorem separated_meet {l m : List Span} (hl : Separated l) (hm : Separated m) :
    Separated (meet l m) := by
  induction l generalizing m with
  | nil => exact separated_nil
  | cons s l ihl =>
    induction m with
    | nil => exact separated_nil
    | cons t m ihm =>
      rw [meet_cons_cons]
      refine List.pairwise_append.mpr ⟨?_, ?_, ?_⟩
      · cases s.overlap? t with
        | none => exact separated_nil
        | some v => exact separated_singleton v
      · split
        · exact ihl (separated_cons.mp hl).2 hm
        · exact ihm (separated_cons.mp hm).2
      · intro v hv u hu
        obtain ⟨-, hv⟩ := Span.bounds_of_overlap? (Option.mem_toList.mp hv)
        split at hu
        · obtain ⟨s', hs', t', -, h⟩ := exists_of_mem_meet hu
          have := (separated_cons.mp hl).1 s' hs'
          have := Span.bounds_of_overlap? h
          omega
        · obtain ⟨s', -, t', ht', h⟩ := exists_of_mem_meet hu
          have := (separated_cons.mp hm).1 t' ht'
          have := Span.bounds_of_overlap? h
          omega

end ScannerAlphabet.Runs
