import ScannerAlphabet.Proofs.Machine.Spans

/-!
# Intersections and differences on a machine

Both sweep over two lists with one index for each. The difference keeps its place in the list of
cuts from one span to the next: it passes over the cuts that end below the span, and goes on with a
cut that reaches the end of the span. After the cuts passed over, no cut ends below what is left of
the span, and so the start of what is left only grows. On the lists of sets neither has a fault, and
they make the lists of the intersection and of the difference.
-/
namespace ScannerAlphabet.Machine

/-- The overlaps of two lists from two indices on, behind a third list. -/
def meetFrom (a b : List Bounds) (i j : Nat) (out : List Bounds) : Checked (List Bounds) :=
  if i < a.length ∧ j < b.length then do
    let s ← get a i
    let t ← get b j
    let lo := max s.lo t.lo
    let hi := min s.hi t.hi
    let out := if lo ≤ hi then out ++ [⟨lo, hi⟩] else out
    if s.hi < t.hi then
      let ⟨i', _⟩ ← next i
      meetFrom a b i' j out
    else
      let ⟨j', _⟩ ← next j
      meetFrom a b i j' out
  else return out
termination_by a.length - i + (b.length - j)

/-- The common part of two lists. -/
def intersect (a b : List Bounds) : Checked (List Bounds) :=
  meetFrom a b 0 0 []

/-- The index of the first cut from `j` on that does not end below `lo`. -/
def passBelow (b : List Bounds) (lo j : Nat) : Checked Nat :=
  if j < b.length then do
    let t ← get b j
    if t.hi < lo then
      let ⟨j', _⟩ ← next j
      passBelow b lo j'
    else return j
  else return j
termination_by b.length - j

/-- Pushes what a cut leaves of a stretch below itself, if it leaves any. -/
def pushBelow (lo : Nat) (cut : Bounds) (out : List Bounds) : Checked (List Bounds) :=
  if lo < cut.lo then do
    let last ← sub cut.lo 1
    return out ++ [⟨lo, last⟩]
  else return out

/-- Cuts the stretch from `lo` to `hi` by a list from an index on. What comes out is the index of
the cut that goes on, the pieces behind a list of others, and the start of what is left, if any. -/
def cutStretch (b : List Bounds) (lo hi k : Nat) (out : List Bounds) :
    Checked (Nat × List Bounds × Option Nat) :=
  if k < b.length then do
    let t ← get b k
    if t.lo ≤ hi then
      let out ← pushBelow lo t out
      if hi ≤ t.hi then return (k, out, none)
      else
        let start ← add t.hi 1
        let ⟨k', _⟩ ← next k
        cutStretch b start hi k' out
    else return (k, out, some lo)
  else return (k, out, some lo)
termination_by b.length - k

/-- Cuts the bounds of a list in order, with the cuts from an index on. -/
def subtractFrom (b : List Bounds) : List Bounds → Nat → List Bounds → Checked (List Bounds)
  | [], _, out => return out
  | s :: l, j, out => do
    let j ← passBelow b s.lo j
    let (k, out, left) ← cutStretch b s.lo s.hi j out
    match left with
    | some start => subtractFrom b l k (out ++ [⟨start, s.hi⟩])
    | none => subtractFrom b l k out

/-- Takes all of one list away from another. -/
def subtract (a b : List Bounds) : Checked (List Bounds) :=
  if a.isEmpty || b.isEmpty then return a
  else do
    let _capacity ← add a.length 1
    subtractFrom b a 0 []

variable {s t r : Span} {l m : List Span} {init out : List Bounds} {i j k : Nat}

theorem meetFrom_eq {rest more : List Span} (hlength : l.length + m.length < wordLimit)
    (hi : l.drop i = rest) (hj : m.drop j = more) :
    meetFrom (l.map Span.bounds) (m.map Span.bounds) i j out =
      .ok (out ++ (Runs.meet rest more).map Span.bounds) := by
  induction rest generalizing i j more out with
  | nil =>
    have hdone := List.drop_eq_nil_iff.mp hi
    rw [meetFrom, if_neg (by simp only [List.length_map]; omega)]
    simp [Runs.meet, pure, Except.pure]
  | cons s rest ihl =>
    induction more generalizing j out with
    | nil =>
      have hdone := List.drop_eq_nil_iff.mp hj
      rw [meetFrom, if_neg (by simp only [List.length_map]; omega), Runs.meet_nil]
      simp [pure, Except.pure]
    | cons t more ihm =>
      obtain ⟨-, hilt, hirest⟩ := drop_eq_cons hi
      obtain ⟨-, hjlt, hjrest⟩ := drop_eq_cons hj
      have hover : (if max s.lo t.lo ≤ min s.hi t.hi then
          out ++ [⟨max s.lo t.lo, min s.hi t.hi⟩] else out) =
          out ++ (s.overlap? t).toList.map Span.bounds := by
        unfold Span.overlap?
        by_cases h : max s.lo t.lo ≤ min s.hi t.hi
        · rw [if_pos h, dif_pos h]
          rfl
        · rw [if_neg h, dif_neg h]
          simp
      rw [meetFrom, if_pos (by simp only [List.length_map]; omega), get_map_bounds hi, ok_bind,
        get_map_bounds hj, ok_bind, Runs.meet_cons_cons]
      dsimp only
      rw [hover, List.map_append, ← List.append_assoc]
      by_cases hst : s.hi < t.hi
      · rw [if_pos hst, if_pos hst, next_eq_ok (by omega), ok_bind]
        exact ihl hirest hj
      · rw [if_neg hst, if_neg hst, next_eq_ok (by omega), ok_bind]
        exact ihm hjrest

/-- Sweeping over the lists of two sets makes the list of their intersection. -/
theorem intersect_raw (s t : CharSet) : intersect s.raw t.raw = .ok (s ∩ t).raw := by
  have hs := length_lt s
  have ht := length_lt t
  exact meetFrom_eq (by omega) List.drop_zero List.drop_zero

section CutFrom
variable {next : List Span → List Span}

theorem cutFrom_of_below (h : t.hi < r.lo) (m : List Span) :
    Runs.cutFrom next r (t :: m) = Runs.cutFrom next r m := by
  have ht := t.lo_le_hi
  have hr := r.lo_le_hi
  have hbelow : r.below? t = none := dif_neg (by omega)
  have habove : r.above? t = some r := by
    unfold Span.above?
    rw [dif_pos (by omega), Option.some.injEq, Span.ext_iff]
    exact ⟨Nat.max_eq_left h, rfl⟩
  rw [Runs.cutFrom, hbelow, habove]
  rfl

theorem cutFrom_of_above (h : r.hi < t.lo) (m : List Span) :
    Runs.cutFrom next r (t :: m) = r :: next (t :: m) := by
  have ht := t.lo_le_hi
  have hr := r.lo_le_hi
  have hbelow : r.below? t = some r := by
    unfold Span.below?
    rw [dif_pos (by omega), Option.some.injEq, Span.ext_iff]
    exact ⟨rfl, Nat.min_eq_left (by omega)⟩
  have habove : r.above? t = none := dif_neg (by omega)
  rw [Runs.cutFrom, hbelow, habove]
  rfl

theorem cutFrom_of_reaching (h : r.hi ≤ t.hi) (m : List Span) :
    Runs.cutFrom next r (t :: m) = (r.below? t).toList ++ next (t :: m) := by
  have habove : r.above? t = none := dif_neg (by omega)
  rw [Runs.cutFrom, habove]

theorem cutFrom_of_ending (hlo : s.lo = t.hi + 1) (hhi : s.hi = r.hi)
    (h : r.lo ≤ t.hi) (m : List Span) :
    Runs.cutFrom next r (t :: m) = (r.below? t).toList ++ Runs.cutFrom next s m := by
  have hs := s.lo_le_hi
  have habove : r.above? t = some s := by
    unfold Span.above?
    rw [dif_pos (by omega), Option.some.injEq, Span.ext_iff]
    exact ⟨by rw [hlo]; exact Nat.max_eq_right (by omega), hhi.symm⟩
  rw [Runs.cutFrom, habove]

end CutFrom

theorem passBelow_eq {more : List Span} (hm : Runs.Separated more) (hlength : m.length < wordLimit)
    (hj : m.drop j = more) : ∃ n, passBelow (m.map Span.bounds) r.lo j = .ok (j + n) ∧
      (∀ next, Runs.cutFrom next r (more.drop n) = Runs.cutFrom next r more) ∧
      ∀ t ∈ more.drop n, r.lo ≤ t.hi := by
  induction more generalizing j with
  | nil =>
    have hdone := List.drop_eq_nil_iff.mp hj
    refine ⟨0, ?_, fun _ => rfl, by simp⟩
    rw [passBelow, if_neg (by simpa using hdone)]
    rfl
  | cons t more ih =>
    obtain ⟨-, hlt, hrest⟩ := drop_eq_cons hj
    obtain ⟨hgap, hmore⟩ := Runs.separated_cons.mp hm
    rw [passBelow, if_pos (by simpa using hlt), get_map_bounds hj, ok_bind]
    by_cases hbelow : t.hi < r.lo
    · obtain ⟨n, hpass, hcut, hkept⟩ := ih hmore hrest
      refine ⟨n + 1, ?_, ?_, hkept⟩
      · have hplace : j + (n + 1) = j + 1 + n := by omega
        rw [if_pos hbelow, next_eq_ok (by omega), ok_bind, hplace]
        exact hpass
      · intro next
        rw [List.drop_succ_cons, hcut, cutFrom_of_below hbelow]
    · refine ⟨0, ?_, fun _ => rfl, ?_⟩
      · rw [if_neg hbelow]
        rfl
      · intro u hu
        have hu' : u ∈ t :: more := hu
        rcases List.mem_cons.mp hu' with rfl | hu'
        · omega
        · have hlo := hgap u hu'
          have hhi := u.lo_le_hi
          omega

theorem pushBelow_eq (hreach : t.lo ≤ r.hi) : pushBelow r.lo t.bounds out =
    .ok (out ++ (r.below? t).toList.map Span.bounds) := by
  unfold pushBelow Span.below?
  by_cases hlo : r.lo < t.lo
  · have hlast : min r.hi (t.lo - 1) = t.lo - 1 := by omega
    have hsub : sub t.lo 1 = .ok (t.lo - 1) := sub_eq_ok (by omega)
    rw [if_pos (by exact hlo), dif_pos hlo, hsub, ok_bind]
    simp [hlast, pure, Except.pure]
  · rw [if_neg (by exact hlo), dif_neg hlo]
    simp [pure, Except.pure]

theorem cutStretch_eq {more : List Span} (hm : Runs.Separated more)
    (hlength : m.length < wordLimit) (hk : m.drop k = more) (hkept : ∀ t ∈ more, r.lo ≤ t.hi)
    (out : List Bounds) :
    ∃ (n : Nat) (pieces : List Span) (left : Option Span),
      cutStretch (m.map Span.bounds) r.lo r.hi k out =
        .ok (k + n, out ++ pieces.map Span.bounds, left.map Span.lo) ∧
      (∀ u ∈ left, u.hi = r.hi) ∧
      ∀ next, Runs.cutFrom next r more = pieces ++ left.toList ++ next (more.drop n) := by
  induction more generalizing r k out with
  | nil =>
    have hdone := List.drop_eq_nil_iff.mp hk
    refine ⟨0, [], some r, ?_, by simp, fun _ => rfl⟩
    rw [cutStretch, if_neg (by simpa using hdone)]
    simp [pure, Except.pure]
  | cons t more ih =>
    obtain ⟨-, hlt, hrest⟩ := drop_eq_cons hk
    obtain ⟨hgap, hmore⟩ := Runs.separated_cons.mp hm
    have hrt := hkept t List.mem_cons_self
    rw [cutStretch, if_pos (by simpa using hlt), get_map_bounds hk, ok_bind]
    by_cases hreach : t.lo ≤ r.hi
    · rw [if_pos (by exact hreach), pushBelow_eq hreach, ok_bind]
      by_cases hends : r.hi ≤ t.hi
      · refine ⟨0, (r.below? t).toList, none, ?_, by simp, fun next => ?_⟩
        · rw [if_pos (by exact hends)]
          rfl
        · rw [cutFrom_of_reaching hends]
          simp
      · -- what is left begins behind the cut, so the cuts behind still do not end below it
        have hrest' : t.hi + 1 ≤ r.hi := by omega
        let rest : Span := ⟨t.hi + 1, r.hi, hrest', r.hi_le_last⟩
        have hlater : ∀ u ∈ more, rest.lo ≤ u.hi := by
          intro u hu
          have hlo := hgap u hu
          exact Nat.le_trans (Nat.le_of_lt hlo) u.lo_le_hi
        obtain ⟨n, pieces, left, hcut, hleft, hfrom⟩ :=
          ih (r := rest) hmore hrest hlater (out ++ (r.below? t).toList.map Span.bounds)
        refine ⟨n + 1, (r.below? t).toList ++ pieces, left, ?_, hleft, fun next => ?_⟩
        · have hplace : k + (n + 1) = k + 1 + n := by omega
          rw [if_neg (by exact hends), add_eq_ok (Span.hi_lt t), ok_bind, next_eq_ok (by omega),
            ok_bind, hplace, List.map_append, ← List.append_assoc]
          exact hcut
        · rw [cutFrom_of_ending (r := r) (s := rest) rfl rfl hrt, hfrom, List.drop_succ_cons]
          simp only [List.append_assoc]
    · refine ⟨0, [], some r, ?_, by simp, fun next => ?_⟩
      · rw [if_neg (by exact hreach)]
        simp [pure, Except.pure]
      · rw [cutFrom_of_above (Nat.not_le.mp hreach)]
        rfl

/-- Cutting a list with the cuts from an index on makes the difference from the cuts left. -/
theorem subtractFrom_eq (hm : Runs.Separated m) (hlength : m.length < wordLimit) :
    subtractFrom (m.map Span.bounds) (l.map Span.bounds) j out =
      .ok (out ++ (Runs.difference l (m.drop j)).map Span.bounds) := by
  induction l generalizing j out with
  | nil => simp [subtractFrom, Runs.difference, pure, Except.pure]
  | cons s l ih =>
    have hdropped : ∀ i, Runs.Separated (m.drop i) := fun i => hm.sublist (List.drop_sublist i m)
    obtain ⟨n, hpass, hsame, hkept⟩ := passBelow_eq (r := s) (hdropped j) hlength rfl
    rw [List.drop_drop] at hsame hkept
    obtain ⟨n', pieces, left, hcut, hleft, hfrom⟩ :=
      cutStretch_eq (r := s) (hdropped (j + n)) hlength rfl hkept out
    rw [List.map_cons, subtractFrom, hpass, ok_bind, hcut, ok_bind, Runs.difference, ← hsame,
      hfrom, List.drop_drop]
    cases left with
    | none =>
      simp only [Option.map_none]
      rw [ih]
      simp
    | some u =>
      have hu : u.hi = s.hi := hleft u rfl
      simp only [Option.map_some]
      rw [ih]
      simp [← hu]

/-- Taking the list of one set away from that of another makes the list of their difference. -/
theorem subtract_raw (s t : CharSet) : subtract s.raw t.raw = .ok (s \ t).raw := by
  have hs := length_lt s
  have ht := length_lt t
  unfold subtract
  rw [CharSet.isEmpty_raw, CharSet.isEmpty_raw]
  by_cases hempty : (s.isEmpty || t.isEmpty) = true
  · have hsame : s \ t = s := by
      apply CharSet.ext_of_mem_iff
      intro c
      rw [CharSet.mem_sdiff]
      rcases Bool.or_eq_true_iff.mp hempty with hsempty | htempty
      · simp [CharSet.isEmpty_iff.mp hsempty c]
      · simp [CharSet.isEmpty_iff.mp htempty c]
    rw [if_pos hempty, hsame]
    rfl
  · rw [if_neg hempty, add_eq_ok (by simp only [CharSet.raw, List.length_map]; omega), ok_bind]
    exact subtractFrom_eq t.separated (by omega)

end ScannerAlphabet.Machine
