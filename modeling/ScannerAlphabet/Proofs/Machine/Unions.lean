import ScannerAlphabet.Proofs.Machine.Spans

/-!
# Unions on a machine

The three ways to a union with checked words: bounds in any order are sorted and put behind each
other, one pair of bounds replaces the stretch of a list that it touches, and two lists are merged
by two indices. On the bounds of spans none of them has a fault, and each makes the bounds of the
union.
-/
namespace ScannerAlphabet.Machine

/-- Bounds are ordered by the lower one, then by the upper one. -/
def Bounds.le (a b : Bounds) : Bool :=
  a.lo < b.lo || (a.lo = b.lo && a.hi ≤ b.hi)

/-- Puts bounds behind an ascending list, joining them to the last ones if they overlap or touch. -/
def pushMerged (out : List Bounds) (t : Bounds) : Checked (List Bounds) :=
  match out.getLast? with
  | none => return out ++ [t]
  | some last => do
    let stop ← add last.hi 1
    if t.lo ≤ stop then
      if last.hi < t.hi then return out.dropLast ++ [⟨last.lo, t.hi⟩] else return out
    else return out ++ [t]

/-- The union of bounds in any order. -/
def fromBounds (l : List Bounds) : Checked (List Bounds) :=
  (l.mergeSort Bounds.le).foldlM pushMerged []

/-- Lets bounds take in what they reach from an index on; the index behind comes with them. -/
def grow (l : List Bounds) (lo hi i : Nat) : Checked (Bounds × Nat) :=
  if i < l.length then do
    let t ← get l i
    let stop ← add hi 1
    if t.lo ≤ stop then
      let ⟨j, _⟩ ← next i
      grow l (min lo t.lo) (max hi t.hi) j
    else return (⟨lo, hi⟩, i)
  else return (⟨lo, hi⟩, i)
termination_by l.length - i

/-- Adds bounds to a list. -/
def addBounds (l : List Bounds) (t : Bounds) : Checked (List Bounds) := do
  let first ← partitionPoint (fun u => do
    let stop ← add u.hi 1
    return stop < t.lo) l
  let (grown, last) ← grow l t.lo t.hi first
  splice l first last [grown]

/-- Whether a merge takes the first list's bounds next. -/
def takesFirst (a b : List Bounds) (i j : Nat) : Bool :=
  match a[i]?, b[j]? with
  | some s, some t => s.lo ≤ t.lo
  | some _, none => true
  | none, _ => false

theorem lt_of_takesFirst {a b : List Bounds} {i j : Nat} (h : takesFirst a b i j = true) :
    i < a.length := by
  unfold takesFirst at h
  cases hs : a[i]? with
  | none => simp [hs] at h
  | some s => exact (List.getElem?_eq_some_iff.mp hs).choose

theorem lt_of_not_takesFirst {a b : List Bounds} {i j : Nat} (h : ¬ takesFirst a b i j = true)
    (hij : i < a.length ∨ j < b.length) : j < b.length := by
  rcases hij with hi | hj
  · unfold takesFirst at h
    rw [List.getElem?_eq_getElem hi] at h
    cases ht : b[j]? with
    | none => simp [ht] at h
    | some t => exact (List.getElem?_eq_some_iff.mp ht).choose
  · exact hj

/-- Merges two lists from two indices on behind a third one. -/
def mergeFrom (a b : List Bounds) (i j : Nat) (out : List Bounds) : Checked (List Bounds) :=
  if _hij : i < a.length ∨ j < b.length then
    if _hfirst : takesFirst a b i j = true then do
      let s ← get a i
      let out ← pushMerged out s
      let ⟨i', _⟩ ← next i
      mergeFrom a b i' j out
    else do
      let t ← get b j
      let out ← pushMerged out t
      let ⟨j', _⟩ ← next j
      mergeFrom a b i j' out
  else return out
termination_by a.length - i + (b.length - j)
decreasing_by
  · have hlt := lt_of_takesFirst _hfirst
    omega
  · have hlt := lt_of_not_takesFirst _hfirst _hij
    omega

/-- Adds all of one list to another. -/
def addSet (a b : List Bounds) : Checked (List Bounds) :=
  if b.isEmpty then return a
  else if a.isEmpty then return b
  else do
    let _capacity ← add a.length b.length
    mergeFrom a b 0 0 []

variable {s t : Span} {l m : List Span} {init out : List Bounds} {i j : Nat}

theorem pushMerged_concat (hst : s.lo ≤ t.lo) : pushMerged (init ++ [s.bounds]) t.bounds =
    .ok (if t.lo ≤ s.hi + 1 then init ++ [(s.hull t).bounds]
      else init ++ [s.bounds] ++ [t.bounds]) := by
  unfold pushMerged
  rw [List.getLast?_concat]
  simp only [List.dropLast_concat]
  rw [add_eq_ok (Span.hi_lt s), ok_bind]
  by_cases htouch : t.lo ≤ s.hi + 1
  · rw [if_pos htouch, if_pos htouch]
    by_cases hhi : s.hi < t.hi
    · have hhull : (s.hull t).bounds = ⟨s.lo, t.hi⟩ := by
        simp only [Span.bounds, Span.hull, Bounds.mk.injEq]
        omega
      rw [if_pos hhi, hhull]
      rfl
    · have hhull : (s.hull t).bounds = s.bounds := by
        simp only [Span.bounds, Span.hull, Bounds.mk.injEq]
        omega
      rw [if_neg hhi, hhull]
      rfl
  · rw [if_neg htouch, if_neg htouch]
    rfl

/-- Behind bounds that no span has, the sum is not a word. -/
example : pushMerged [⟨0, wordLimit - 1⟩] ⟨5, 6⟩ = .error .overflow := by
  rfl

/-- Behind its last bounds, a list gets what joining makes of them and the bounds pushed. -/
theorem foldlM_pushMerged (init : List Bounds) (h : Runs.Ascending (s :: l)) :
    (l.map Span.bounds).foldlM pushMerged (init ++ [s.bounds]) =
      .ok (init ++ (Runs.joinFrom s l).map Span.bounds) := by
  induction l generalizing s init with
  | nil => rfl
  | cons t l ih =>
    have hst : s.lo ≤ t.lo := (Runs.ascending_cons.mp h).1 t List.mem_cons_self
    rw [List.map_cons, List.foldlM_cons, pushMerged_concat hst, ok_bind, Runs.joinFrom]
    by_cases htouch : t.lo ≤ s.hi + 1
    · rw [if_pos htouch, if_pos htouch]
      exact ih _ (Runs.ascending_hull_cons h)
    · rw [if_neg htouch, if_neg htouch, ih _ (Runs.ascending_cons.mp h).2, List.map_cons,
        List.append_assoc, List.singleton_append]

theorem foldlM_pushMerged_nil (h : Runs.Ascending l) :
    (l.map Span.bounds).foldlM pushMerged [] = .ok ((Runs.join l).map Span.bounds) := by
  cases l with
  | nil => rfl
  | cons s l => exact foldlM_pushMerged [] h

theorem ascending_mergeSort (l : List Span) :
    Runs.Ascending (l.mergeSort fun s t => Bounds.le s.bounds t.bounds) := by
  have htrans : ∀ s t u : Span, Bounds.le s.bounds t.bounds = true →
      Bounds.le t.bounds u.bounds = true → Bounds.le s.bounds u.bounds = true := by
    simp only [Bounds.le]
    grind
  have htotal : ∀ s t : Span,
      (Bounds.le s.bounds t.bounds || Bounds.le t.bounds s.bounds) = true := by
    simp only [Bounds.le]
    grind
  apply (List.pairwise_mergeSort htrans htotal l).imp
  intro s t hst
  simp only [Bounds.le] at hst
  grind

/-- Spans in any order have the union that sorting and joining them makes. -/
theorem fromBounds_eq (l : List Span) :
    fromBounds (l.map Span.bounds) = .ok (CharSet.ofSpans l).raw := by
  have hascending := ascending_mergeSort l
  have hjoin : Runs.join (l.mergeSort fun s t => Bounds.le s.bounds t.bounds) =
      Runs.ofSpans l := by
    apply Runs.eq_of_covers_iff (Runs.separated_join hascending) (Runs.separated_ofSpans l)
    intro c
    rw [Runs.covers_join hascending, Runs.covers_ofSpans]
    simp only [Runs.Covers, List.mem_mergeSort]
  unfold fromBounds
  rw [← List.map_mergeSort (f := Span.bounds) fun _ _ _ _ => rfl,
    foldlM_pushMerged_nil hascending, hjoin]
  rfl

/-- Whether the first of two lists of spans leads in their merge. -/
def leads : List Span → List Span → Bool
  | s :: _, t :: _ => s.lo ≤ t.lo
  | _ :: _, [] => true
  | [], _ => false

theorem takesFirst_eq : takesFirst (l.map Span.bounds) (m.map Span.bounds) i j =
    leads (l.drop i) (m.drop j) := by
  unfold takesFirst
  rw [List.getElem?_map, List.getElem?_map, ← List.head?_drop, ← List.head?_drop]
  cases l.drop i with
  | nil => rfl
  | cons s rest =>
    cases m.drop j with
    | nil => rfl
    | cons t more => rfl

theorem mergeFrom_of_first {rest : List Span} (hlength : l.length + m.length < wordLimit)
    (hi : l.drop i = s :: rest)
    (hfirst : leads (l.drop i) (m.drop j) = true) :
    mergeFrom (l.map Span.bounds) (m.map Span.bounds) i j out =
      pushMerged out s.bounds >>= mergeFrom (l.map Span.bounds) (m.map Span.bounds) (i + 1) j := by
  obtain ⟨-, hlt, -⟩ := drop_eq_cons hi
  have hnext : next i = .ok ⟨i + 1, rfl⟩ := next_eq_ok (by omega)
  rw [mergeFrom, dif_pos (.inl (by simpa using hlt)), dif_pos (takesFirst_eq.trans hfirst),
    get_map_bounds hi, ok_bind, hnext]
  rfl

theorem mergeFrom_of_second {more : List Span} (hlength : l.length + m.length < wordLimit)
    (hj : m.drop j = t :: more)
    (hfirst : leads (l.drop i) (m.drop j) = false) :
    mergeFrom (l.map Span.bounds) (m.map Span.bounds) i j out =
      pushMerged out t.bounds >>= mergeFrom (l.map Span.bounds) (m.map Span.bounds) i (j + 1) := by
  obtain ⟨-, hlt, -⟩ := drop_eq_cons hj
  have hnext : next j = .ok ⟨j + 1, rfl⟩ := next_eq_ok (by omega)
  rw [mergeFrom, dif_pos (.inr (by simpa using hlt)), dif_neg (by simp [takesFirst_eq, hfirst]),
    get_map_bounds hj, ok_bind, hnext]
  rfl

/-- A merge by two indices pushes what the merge of the remaining lists gives. -/
theorem mergeFrom_eq {rest more : List Span} (hlength : l.length + m.length < wordLimit)
    (hi : l.drop i = rest) (hj : m.drop j = more) :
    mergeFrom (l.map Span.bounds) (m.map Span.bounds) i j out =
      ((Runs.merge rest more).map Span.bounds).foldlM pushMerged out := by
  -- the induction is on what is left of both lists, as one of them gets shorter in each step
  induction rest generalizing i j more out with
  | nil =>
    induction more generalizing j out with
    | nil =>
      have hidone := List.drop_eq_nil_iff.mp hi
      have hjdone := List.drop_eq_nil_iff.mp hj
      rw [mergeFrom, dif_neg (by simp only [List.length_map]; omega)]
      rfl
    | cons t more ihm =>
      rw [mergeFrom_of_second hlength hj (by rw [hi, hj]; rfl)]
      change _ = (pushMerged out t.bounds >>= (more.map Span.bounds).foldlM pushMerged)
      congr 1
      funext out
      exact ihm (drop_eq_cons hj).2.2
  | cons s rest ihl =>
    induction more generalizing j out with
    | nil =>
      rw [mergeFrom_of_first hlength hi (by rw [hi, hj]; rfl), Runs.merge_nil, List.map_cons,
        List.foldlM_cons]
      congr 1
      funext out
      rw [ihl (drop_eq_cons hi).2.2 hj, Runs.merge_nil]
    | cons t more ihm =>
      rw [Runs.merge_cons_cons]
      by_cases hst : s.lo ≤ t.lo
      · have hfirst : leads (l.drop i) (m.drop j) = true := by
          rw [hi, hj]
          exact decide_eq_true hst
        rw [mergeFrom_of_first hlength hi hfirst, if_pos hst, List.map_cons, List.foldlM_cons]
        congr 1
        funext out
        exact ihl (drop_eq_cons hi).2.2 hj
      · have hfirst : leads (l.drop i) (m.drop j) = false := by
          rw [hi, hj]
          exact decide_eq_false hst
        rw [mergeFrom_of_second hlength hj hfirst, if_neg hst, List.map_cons, List.foldlM_cons]
        congr 1
        funext out
        exact ihm (drop_eq_cons hj).2.2

theorem addSet_raw (s t : CharSet) : addSet s.raw t.raw = .ok (s ∪ t).raw := by
  have hs := length_lt s
  have ht := length_lt t
  unfold addSet
  rw [CharSet.isEmpty_raw, CharSet.isEmpty_raw]
  by_cases htempty : t.isEmpty = true
  · have hsame : s ∪ t = s :=
      CharSet.ext_of_mem_iff fun c => by simp [CharSet.isEmpty_iff.mp htempty c]
    rw [if_pos htempty, hsame]
    rfl
  · rw [if_neg htempty]
    by_cases hsempty : s.isEmpty = true
    · have hsame : s ∪ t = t :=
        CharSet.ext_of_mem_iff fun c => by simp [CharSet.isEmpty_iff.mp hsempty c]
      rw [if_pos hsempty, hsame]
      rfl
    · have hcapacity : add s.raw.length t.raw.length = .ok (s.raw.length + t.raw.length) :=
        add_eq_ok (by simp only [CharSet.raw, List.length_map]; omega)
      have hascending : Runs.Ascending (Runs.merge s.toRuns t.toRuns) :=
        Runs.ascending_merge s.separated.ascending t.separated.ascending
      rw [if_neg hsempty, hcapacity, ok_bind]
      unfold CharSet.raw
      rw [mergeFrom_eq (by omega) List.drop_zero List.drop_zero,
        foldlM_pushMerged_nil hascending]
      rfl

theorem grow_eq {rest : List Span} (hlength : l.length < wordLimit) (hi : l.drop i = rest) :
    ∃ u n, grow (l.map Span.bounds) s.lo s.hi i = .ok (u.bounds, i + n) ∧ n ≤ rest.length ∧
      Runs.absorb s rest = u :: rest.drop n := by
  induction rest generalizing s i with
  | nil =>
    have hdone := List.drop_eq_nil_iff.mp hi
    refine ⟨s, 0, ?_, Nat.le_refl _, rfl⟩
    rw [grow, if_neg (by simpa using hdone)]
    rfl
  | cons t rest ih =>
    obtain ⟨-, hlt, hrest⟩ := drop_eq_cons hi
    rw [grow, if_pos (by simpa using hlt), get_map_bounds hi, ok_bind, add_eq_ok (Span.hi_lt s),
      ok_bind, Runs.absorb]
    by_cases htouch : t.lo ≤ s.hi + 1
    · have hnext : next i = .ok ⟨i + 1, rfl⟩ := next_eq_ok (by omega)
      obtain ⟨u, n, hgrow, hn, habsorb⟩ := ih (s := s.hull t) hrest
      refine ⟨u, n + 1, ?_, Nat.succ_le_succ hn, ?_⟩
      · rw [if_pos (by exact htouch), hnext, ok_bind]
        have hplace : i + (n + 1) = i + 1 + n := by omega
        rw [hplace]
        exact hgrow
      · rw [if_pos htouch, habsorb, List.drop_succ_cons]
    · refine ⟨s, 0, ?_, Nat.zero_le _, ?_⟩
      · rw [if_neg (by exact htouch)]
        rfl
      · rw [if_neg htouch, List.drop_zero]

/-- A span is put into a list behind the spans that end below it. -/
theorem insert_eq (t : Span) (l : List Span) : Runs.insert t l =
    l.take (l.takeWhile (·.hi + 1 < t.lo)).length ++
      Runs.absorb t (l.drop (l.takeWhile (·.hi + 1 < t.lo)).length) := by
  induction l with
  | nil => rfl
  | cons u l ih =>
    rw [Runs.insert]
    by_cases hbelow : u.hi + 1 < t.lo
    · rw [if_pos hbelow, ih, List.takeWhile_cons_of_pos (by simpa using hbelow)]
      rfl
    · rw [if_neg hbelow, List.takeWhile_cons_of_neg (by simpa using hbelow)]
      rfl

theorem addBounds_raw (s : CharSet) (t : Span) :
    addBounds s.raw t.bounds = .ok (s.insertSpan t).raw := by
  have hlength := length_lt s
  have hfirst : partitionPoint (fun u : Bounds => do
      let stop ← add u.hi 1
      return decide (stop < t.bounds.lo)) s.raw =
        .ok (s.toRuns.takeWhile (·.hi + 1 < t.lo)).length := by
    rw [partitionPoint_eq_ok (f := fun u => u.hi + 1 < t.lo)]
    · unfold CharSet.raw
      rw [List.takeWhile_map, List.length_map]
      rfl
    · intro u hu
      obtain ⟨v, -, rfl⟩ := List.mem_map.mp hu
      rw [add_eq_ok (Span.hi_lt v)]
      rfl
  have hinsert : (s.insertSpan t).raw = (Runs.insert t s.toRuns).map Span.bounds := rfl
  have hprefix : (s.toRuns.takeWhile (·.hi + 1 < t.lo)).length ≤ s.toRuns.length :=
    (List.takeWhile_prefix _).length_le
  unfold addBounds
  rw [hfirst, ok_bind, hinsert, insert_eq]
  generalize (s.toRuns.takeWhile (·.hi + 1 < t.lo)).length = k at hprefix
  obtain ⟨u, n, hgrow, hn, habsorb⟩ := grow_eq (s := t) (i := k) (l := s.toRuns) (by omega) rfl
  rw [List.length_drop] at hn
  unfold CharSet.raw
  rw [hgrow, ok_bind, habsorb, List.drop_drop]
  simp only
  rw [splice_eq_ok (by omega) (by rw [List.length_map]; omega)]
  simp only [List.map_append, List.map_cons, List.map_take, List.map_drop, List.append_assoc,
    List.singleton_append]

end ScannerAlphabet.Machine
