import ScannerAlphabet.Proofs.Machine.Unions

/-!
# Ways to gather spans

The spans of a list can be gathered into one set in many ways: all at once, which sorts them, one
after the other, each put into the set so far, or in groups whose sets are joined two by two.
`Gathered` keeps the spans that went into a set. One lemma by induction says that the set has the
code points of these spans and no others, so that all ways end in the same list of spans, whatever
the order and wherever spans overlap, touch or repeat. The same holds of the loops of a machine,
which work on bounds and know nothing about them.
-/
namespace ScannerAlphabet

namespace CharSet
variable {s t : CharSet} {l m : List Span} {c : Nat}

/-- The sets that can be gathered from the spans of a list. -/
inductive Gathered : List Span → CharSet → Prop
  | ofSpans (l : List Span) : Gathered l (ofSpans l)
  | insertSpan {l : List Span} {s : CharSet} (t : Span) :
      Gathered l s → Gathered (t :: l) (s.insertSpan t)
  | union {l m : List Span} {s t : CharSet} :
      Gathered l s → Gathered m t → Gathered (l ++ m) (s ∪ t)
  | reorder {l m : List Span} {s : CharSet} : l.Perm m → Gathered l s → Gathered m s

theorem Gathered.mem_iff (h : Gathered l s) : c ∈ s ↔ Runs.Covers l c := by
  induction h with
  | ofSpans l => exact mem_ofSpans
  | insertSpan t _ ih => rw [mem_insertSpan, ih, Runs.covers_cons]
  | union _ _ ihs iht => rw [mem_union, ihs, iht, Runs.covers_append]
  | reorder hperm _ ih =>
    rw [ih]
    simp only [Runs.Covers, hperm.mem_iff]

/-- All ways to gather the same spans end in the same set. -/
theorem Gathered.unique (hs : Gathered l s) (ht : Gathered l t) : s = t := by
  apply ext_of_mem_iff
  intro c
  rw [hs.mem_iff, ht.mem_iff]

theorem gathered_toRuns (s : CharSet) : Gathered s.toRuns s := by
  have hsame : ofSpans s.toRuns = s := by
    apply ext_of_mem_iff
    intro c
    rw [mem_ofSpans]
    rfl
  have hsorted := Gathered.ofSpans s.toRuns
  rwa [hsame] at hsorted

theorem Gathered.foldl_insertSpan (h : Gathered l s) (m : List Span) :
    Gathered (l ++ m) (m.foldl CharSet.insertSpan s) := by
  induction m generalizing l s with
  | nil => rwa [List.append_nil]
  | cons t m ih =>
    have hrest := ih (h.insertSpan t)
    exact hrest.reorder List.perm_middle.symm

theorem Gathered.foldl_union (h : Gathered l s) (groups : List (List Span)) :
    Gathered (l ++ groups.flatten) ((groups.map CharSet.ofSpans).foldl (· ∪ ·) s) := by
  induction groups generalizing l s with
  | nil => rwa [List.flatten_nil, List.append_nil]
  | cons group groups ih =>
    have hrest := ih (h.union (.ofSpans group))
    rwa [List.append_assoc] at hrest

theorem union_comm (s t : CharSet) : s ∪ t = t ∪ s := by
  have hst := (gathered_toRuns s).union (gathered_toRuns t)
  have hts := (gathered_toRuns t).union (gathered_toRuns s)
  exact hst.unique (hts.reorder List.perm_append_comm)

theorem union_eq_foldl_insertSpan (s t : CharSet) :
    s ∪ t = t.toRuns.foldl CharSet.insertSpan s := by
  have hunion := (gathered_toRuns s).union (gathered_toRuns t)
  exact hunion.unique ((gathered_toRuns s).foldl_insertSpan t.toRuns)

end CharSet

namespace Machine

/-- Adds bounds to the empty list one after the other. -/
def addOneByOne (l : List Bounds) : Checked (List Bounds) :=
  l.foldlM addBounds []

/-- Adds the unions of some groups to the empty list one after the other. -/
def addGroups (groups : List (List Bounds)) : Checked (List Bounds) :=
  groups.foldlM (fun sum group => do
    let set ← fromBounds group
    addSet sum set) []

theorem foldlM_addBounds (s : CharSet) (l : List Span) :
    (l.map Span.bounds).foldlM addBounds s.raw = .ok (l.foldl CharSet.insertSpan s).raw := by
  induction l generalizing s with
  | nil => rfl
  | cons t l ih =>
    rw [List.map_cons, List.foldlM_cons, addBounds_raw, ok_bind]
    exact ih (s.insertSpan t)

theorem foldlM_addSet (s : CharSet) (groups : List (List Span)) :
    (groups.map (List.map Span.bounds)).foldlM (fun sum group => do
      let set ← fromBounds group
      addSet sum set) s.raw =
      .ok ((groups.map CharSet.ofSpans).foldl (· ∪ ·) s).raw := by
  induction groups generalizing s with
  | nil => rfl
  | cons group groups ih =>
    rw [List.map_cons, List.foldlM_cons, fromBounds_eq, ok_bind, addSet_raw, ok_bind]
    exact ih (s ∪ CharSet.ofSpans group)

theorem addOneByOne_eq (l : List Span) :
    addOneByOne (l.map Span.bounds) = .ok (l.foldl CharSet.insertSpan ∅).raw :=
  foldlM_addBounds ∅ l

theorem addGroups_eq (groups : List (List Span)) :
    addGroups (groups.map (List.map Span.bounds)) =
      .ok ((groups.map CharSet.ofSpans).foldl (· ∪ ·) ∅).raw :=
  foldlM_addSet ∅ groups

end Machine

namespace CharSet

/-- However the spans of a list are gathered into a set, the set has the code points of these spans
and is the same list of spans: sorted at once, put in one after the other, or joined from groups, in
any order. Joining two sets does not depend on which comes first, and is putting the spans of one
into the other. The loops over bounds make that list too, without a fault. -/
theorem gathered_spans_agree :
    (∀ (l : List Span) (s : CharSet), Gathered l s →
      s = ofSpans l ∧ ∀ c, s.contains c = true ↔ ∃ t ∈ l, t.lo ≤ c ∧ c ≤ t.hi) ∧
    (∀ l m : List Span, m.Perm l →
      ofSpans m = ofSpans l ∧ m.foldl CharSet.insertSpan ∅ = ofSpans l) ∧
    (∀ (l : List Span) (groups : List (List Span)), groups.flatten.Perm l →
      (groups.map ofSpans).foldl (· ∪ ·) ∅ = ofSpans l) ∧
    (∀ s t : CharSet, s ∪ t = t ∪ s ∧ s ∪ t = t.toRuns.foldl CharSet.insertSpan s) ∧
    (∀ (l m : List Span) (groups : List (List Span)), m.Perm l → groups.flatten.Perm l →
      Machine.fromBounds (m.map Span.bounds) = .ok (ofSpans l).raw ∧
      Machine.addOneByOne (m.map Span.bounds) = .ok (ofSpans l).raw ∧
      Machine.addGroups (groups.map (List.map Span.bounds)) = .ok (ofSpans l).raw) := by
  have hnone : Gathered [] ∅ := .ofSpans []
  have hsorted : ∀ l m : List Span, m.Perm l → ofSpans m = ofSpans l := by
    intro l m hperm
    exact ((Gathered.ofSpans m).reorder hperm).unique (.ofSpans l)
  have hone : ∀ l m : List Span, m.Perm l → m.foldl CharSet.insertSpan ∅ = ofSpans l := by
    intro l m hperm
    exact ((hnone.foldl_insertSpan m).reorder hperm).unique (.ofSpans l)
  have hgroups : ∀ (l : List Span) (groups : List (List Span)), groups.flatten.Perm l →
      (groups.map ofSpans).foldl (· ∪ ·) ∅ = ofSpans l := by
    intro l groups hperm
    exact ((hnone.foldl_union groups).reorder hperm).unique (.ofSpans l)
  refine ⟨?_, ?_, hgroups, ?_, ?_⟩
  · intro l s h
    constructor
    · exact h.unique (.ofSpans l)
    · intro c
      rw [contains_eq_true_iff]
      exact h.mem_iff
  · intro l m hperm
    exact ⟨hsorted l m hperm, hone l m hperm⟩
  · intro s t
    exact ⟨union_comm s t, union_eq_foldl_insertSpan s t⟩
  · intro l m groups hperm hflatten
    rw [Machine.fromBounds_eq, Machine.addOneByOne_eq, Machine.addGroups_eq, hsorted l m hperm,
      hone l m hperm, hgroups l groups hflatten]
    exact ⟨rfl, rfl, rfl⟩

/-- Two spans at the ends of the code points, one of them given twice, and a third that closes the
gap between them: put in one after the other or joined from groups, they are all code points. -/
theorem gathered_spans_agree_bridged :
    let low : Span := ⟨0, 4, by decide, by decide⟩
    let high : Span := ⟨10, CodePoint.last, by decide, by decide⟩
    let bridge : Span := ⟨5, 9, by decide, by decide⟩
    let l := [low, high, bridge, high]
    let groups := [[high, low], [], [bridge, high]]
    [high, high, low, bridge].Perm l ∧ groups.flatten.Perm l ∧
      [high, high, low, bridge].foldl CharSet.insertSpan ∅ = upTo CodePoint.last ∧
      (groups.map ofSpans).foldl (· ∪ ·) ∅ = upTo CodePoint.last ∧
      Machine.addGroups (groups.map (List.map Span.bounds)) = .ok [⟨0, CodePoint.last⟩] ∧
      Gathered l (ofSpans [high, bridge] ∪ (ofSpans [high]).insertSpan low) ∧
      ofSpans [high, bridge] ∪ (ofSpans [high]).insertSpan low = upTo CodePoint.last := by
  intro low high bridge l groups
  obtain ⟨hgathered, hinsert, hjoin, -, hmachine⟩ := gathered_spans_agree
  have hperm : [high, high, low, bridge].Perm l := by decide
  have hflatten : groups.flatten.Perm l := by decide
  have hall : ofSpans l = upTo CodePoint.last := by decide
  have hmixed : Gathered l (ofSpans [high, bridge] ∪ (ofSpans [high]).insertSpan low) :=
    .reorder (by decide) (.union (.ofSpans [high, bridge]) (.insertSpan low (.ofSpans [high])))
  refine ⟨hperm, hflatten, ?_, ?_, ?_, hmixed, ?_⟩
  · exact (hinsert l _ hperm).2.trans hall
  · exact (hjoin l groups hflatten).trans hall
  · rw [(hmachine l _ groups hperm hflatten).2.2, hall]
    rfl
  · exact (hgathered l _ hmixed).1.trans hall

end CharSet

end ScannerAlphabet
