import ScannerAlphabet.Proofs.Machine.Cuts
import ScannerAlphabet.Proofs.PlainSplit

/-!
# Algebra of character sets

The difference of two sets has the members of one that the other lacks, and together with the
intersection it decomposes the first set: every member is in one of the two parts and in one only.
Since sets with the same members are equal, the parts make up the very same list of spans again,
also where a span of the second set lies across several of the first or ends where one of them
ends.

The intersection has the members that are in both, and does not depend on which set comes first,
although the sweep treats its two lists differently where their spans end together. The overlaps
that it meets are never merged and need not be: two of them always have a gap between them.
-/
namespace ScannerAlphabet.CharSet
variable {s t : CharSet} {c : Nat}

theorem contains_sdiff_iff :
    (s \ t).contains c = true ↔ s.contains c = true ∧ t.contains c = false := by
  rw [← Bool.not_eq_true, contains_eq_true_iff, contains_eq_true_iff, contains_eq_true_iff,
    mem_sdiff]

theorem eq_empty_iff : s = ∅ ↔ ∀ c, ¬ c ∈ s := by
  constructor
  · intro h c
    rw [h]
    exact not_mem_empty c
  · intro h
    apply ext_of_mem_iff
    intro c
    simp only [h c, not_mem_empty]

theorem not_mem_sdiff_and_inter : ¬ (c ∈ s \ t ∧ c ∈ s ∩ t) := by
  intro ⟨hdifference, hcommon⟩
  have hnot : ¬ c ∈ t := (mem_sdiff.mp hdifference).2
  exact hnot (mem_inter.mp hcommon).2

theorem sdiff_inter_inter : (s \ t) ∩ (s ∩ t) = ∅ := by
  rw [eq_empty_iff]
  intro c hc
  exact not_mem_sdiff_and_inter (mem_inter.mp hc)

theorem sdiff_union_inter (s t : CharSet) : (s \ t) ∪ (s ∩ t) = s := by
  apply ext_of_mem_iff
  intro c
  rw [mem_union, mem_sdiff, mem_inter]
  by_cases hc : c ∈ t
  · simp only [hc, not_true_eq_false, and_false, and_true, false_or]
  · simp only [hc, not_false_eq_true, and_true, and_false, or_false]

/-- The difference is exact, and with the intersection it decomposes the set: no code point is in
both parts, and joined together they are the same list of spans as before. -/
theorem sdiff_exact_and_decomposes (s t : CharSet) :
    (∀ c, (s \ t).contains c = true ↔ s.contains c = true ∧ t.contains c = false) ∧
    (∀ c, ¬ ((s \ t).contains c = true ∧ (s ∩ t).contains c = true)) ∧
    (s \ t) ∩ (s ∩ t) = ∅ ∧
    (s \ t) ∪ (s ∩ t) = s := by
  refine ⟨?_, ?_, sdiff_inter_inter, sdiff_union_inter s t⟩
  · intro c
    exact contains_sdiff_iff
  · intro c
    rw [contains_eq_true_iff, contains_eq_true_iff]
    exact not_mem_sdiff_and_inter

/-- One cut lies across two spans, two cuts fall into one span, and cuts end at bounds. -/
example :
    let s := ofSpans [⟨10, 20, by decide, by decide⟩, ⟨30, 40, by decide, by decide⟩]
    let t := ofSpans [⟨5, 10, by decide, by decide⟩, ⟨13, 14, by decide, by decide⟩,
      ⟨19, 31, by decide, by decide⟩, ⟨40, 50, by decide, by decide⟩]
    (s \ t).toRuns = [⟨11, 12, by decide, by decide⟩, ⟨15, 18, by decide, by decide⟩,
      ⟨32, 39, by decide, by decide⟩] := by
  decide

theorem contains_inter_iff :
    (s ∩ t).contains c = true ↔ s.contains c = true ∧ t.contains c = true := by
  rw [contains_eq_true_iff, contains_eq_true_iff, contains_eq_true_iff, mem_inter]

theorem inter_comm (s t : CharSet) : s ∩ t = t ∩ s := by
  apply ext_of_mem_iff
  intro c
  rw [mem_inter, mem_inter, and_comm]

theorem inter_eq_left_iff : s ∩ t = s ↔ ∀ c, s.contains c = true → t.contains c = true := by
  simp only [contains_eq_true_iff]
  exact eq_comm.trans eq_inter_left_iff

/-- The intersection is exact and does not depend on the order of the sets, and it is one of them
exactly when the other has all its members. The sweep over the bounds of both has no fault in either
order, and what it makes is the list of the intersection, in order and with gaps as it stands. -/
theorem inter_exact_and_commutes (s t : CharSet) :
    (∀ c, (s ∩ t).contains c = true ↔ s.contains c = true ∧ t.contains c = true) ∧
    s ∩ t = t ∩ s ∧
    (s ∩ t = s ↔ ∀ c, s.contains c = true → t.contains c = true) ∧
    ∃ out, Machine.intersect s.raw t.raw = .ok out ∧ Machine.intersect t.raw s.raw = .ok out ∧
      out = (s ∩ t).raw ∧
      (∀ b ∈ out, b.lo ≤ b.hi ∧ b.hi ≤ CodePoint.last) ∧
      out.IsChain (fun a b => a.hi + 1 < b.lo) := by
  have hsweep : Machine.intersect t.raw s.raw = .ok (s ∩ t).raw := by
    rw [Machine.intersect_raw, inter_comm]
  refine ⟨?_, inter_comm s t, inter_eq_left_iff, (s ∩ t).raw, Machine.intersect_raw s t, hsweep,
    rfl, ?_, (s ∩ t).pairwise_raw.isChain⟩
  · intro c
    exact contains_inter_iff
  · intro b hb
    exact bounds_of_mem_raw hb

/-- Spans that end together, one that lies across two others, and one that only touches. -/
example :
    let s := ofSpans [⟨10, 20, by decide, by decide⟩, ⟨30, 40, by decide, by decide⟩]
    let t := ofSpans [⟨5, 12, by decide, by decide⟩, ⟨15, 35, by decide, by decide⟩,
      ⟨37, 40, by decide, by decide⟩, ⟨42, 50, by decide, by decide⟩]
    (s ∩ t).toRuns = [⟨10, 12, by decide, by decide⟩, ⟨15, 20, by decide, by decide⟩,
      ⟨30, 35, by decide, by decide⟩, ⟨37, 40, by decide, by decide⟩] := by
  decide

end ScannerAlphabet.CharSet
