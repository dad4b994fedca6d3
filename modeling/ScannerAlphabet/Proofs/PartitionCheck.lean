import ScannerAlphabet.Proofs.Machine.Readings

/-!
# What the check of classes decides

The check intersects the classes in pairs, adds them up, and compares the sum with one span. It is
asked here about any list of sets, whether or not requests can lead to it: sets may be empty, come
twice, leave out a single code point or reach beyond the maximum. `Partitioning` says what the check
should find out, place by place and code point by code point, and the main statement is that it ends
without a fault exactly if that is so. On a list that has more sets than there are words the
numbering is what fails, and such a list is no partition either.
-/
namespace ScannerAlphabet

/-- No set of a list is empty, no code point is in the sets at two places, and the code points in
any set are those up to a maximum. -/
def CharSet.Partitioning (l : List CharSet) (m : Nat) : Prop :=
  (∀ s ∈ l, s.isEmpty = false) ∧
  (∀ (i j : Nat) (s t : CharSet), l[i]? = some s → l[j]? = some t →
    ∀ c, s.contains c = true → t.contains c = true → i = j) ∧
  ∀ c, (∃ s ∈ l, s.contains c = true) ↔ c ≤ m

namespace Partition
variable {l : List CharSet} {m : Nat}

theorem pairwise_disjoint_iff :
    (l.Pairwise fun s t => ∀ c, ¬ (c ∈ s ∧ c ∈ t)) ↔
      ∀ (i j : Nat) (s t : CharSet), l[i]? = some s → l[j]? = some t →
        ∀ c, c ∈ s → c ∈ t → i = j := by
  rw [List.pairwise_iff_getElem]
  constructor
  · intro h i j s t hi hj c hs ht
    obtain ⟨hilt, rfl⟩ := List.getElem?_eq_some_iff.mp hi
    obtain ⟨hjlt, rfl⟩ := List.getElem?_eq_some_iff.mp hj
    rcases Nat.lt_trichotomy i j with hij | hij | hij
    · exact absurd ⟨hs, ht⟩ (h i j hilt hjlt hij c)
    · exact hij
    · exact absurd ⟨ht, hs⟩ (h j i hjlt hilt hij c)
  · rintro h i j hi hj hij c ⟨hs, ht⟩
    have hsame := h i j _ _ (List.getElem?_eq_getElem hi) (List.getElem?_eq_getElem hj) c hs ht
    omega

theorem valid_iff_partitioning (hm : m ≤ CodePoint.last) :
    (⟨l, m⟩ : Partition).Valid ↔ CharSet.Partitioning l m := by
  have hempty : ∀ s : CharSet, s.isEmpty = false ↔ ∃ c, c ∈ s := by
    intro s
    rw [← Bool.not_eq_true, CharSet.isEmpty_iff]
    simp only [not_forall, not_not]
  unfold CharSet.Partitioning
  simp only [hempty, CharSet.contains_eq_true_iff, ← pairwise_disjoint_iff]
  constructor
  · intro h
    exact ⟨h.nonempty, h.disjoint, h.covers⟩
  · rintro ⟨hnonempty, hdisjoint, hcovers⟩
    exact ⟨hm, hnonempty, hdisjoint, hcovers⟩

end Partition

namespace Machine
variable {α : Type} {l : List α} {sets : List CharSet} {i m : Nat} {source : Option CaselessSource}

theorem enumerate_eq_overflow (hi : i < wordLimit) (h : wordLimit ≤ i + l.length) :
    enumerate l i = .error .overflow := by
  induction l generalizing i with
  | nil => exact absurd h (Nat.not_le.mpr hi)
  | cons a l ih =>
    rw [List.length_cons] at h
    unfold enumerate
    by_cases hnext : i + 1 < wordLimit
    · rw [add_eq_ok hnext, ok_bind, ih hnext (by omega)]
      rfl
    · have hfault : add i 1 = .error .overflow := if_neg hnext
      rw [hfault]
      rfl

namespace Classes

/-- The check of any classes asserts that they are a partition. -/
theorem check_raw (hlength : sets.length < wordLimit) :
    (⟨sets.map CharSet.raw, m, source⟩ : Classes).check =
      assert (⟨sets, m⟩ : Partition).check := by
  have hclasses : ofRefiner (Refiner.ofPartition ⟨sets, m⟩ source) =
      ⟨sets.map CharSet.raw, m, source⟩ := by
    rw [ofRefiner, Refiner.source?_ofPartition]
    rfl
  rw [← hclasses]
  exact check_ofRefiner (r := Refiner.ofPartition ⟨sets, m⟩ source) hlength

theorem check_of_wordLimit_le (hlength : wordLimit ≤ sets.length) :
    (⟨sets.map CharSet.raw, m, source⟩ : Classes).check = .error .overflow := by
  have hnumbered : enumerate (sets.map CharSet.raw) 0 = .error .overflow :=
    enumerate_eq_overflow (by decide) (by rw [List.length_map]; omega)
  rw [check, hnumbered]
  rfl

/-- The check of any list of sets ends without a fault exactly if no set is empty, no code point is
in the sets at two places, and the code points in some set are those up to the maximum. The answer
of the library is the same, and what fails otherwise is an assertion. -/
theorem check_decides_partition (sets : List CharSet) (source : Option CaselessSource)
    (hm : m ≤ CodePoint.last) :
    ((⟨sets.map CharSet.raw, m, source⟩ : Classes).check = .ok () ↔
      CharSet.Partitioning sets m) ∧
    ((⟨sets, m⟩ : Partition).check = true ↔ CharSet.Partitioning sets m) ∧
    (sets.length < wordLimit → ¬ CharSet.Partitioning sets m →
      (⟨sets.map CharSet.raw, m, source⟩ : Classes).check = .error .assertion) := by
  have hvalid := Partition.valid_iff_partitioning (l := sets) hm
  have hcheck : (⟨sets, m⟩ : Partition).check = true ↔ CharSet.Partitioning sets m :=
    (Partition.check_eq_true_iff hm).trans hvalid
  refine ⟨?_, hcheck, ?_⟩
  · by_cases hlength : sets.length < wordLimit
    · rw [check_raw hlength, ← hcheck]
      cases (⟨sets, m⟩ : Partition).check with
      | false => simp [assert]
      | true => simp [assert]
    · have hnot : ¬ CharSet.Partitioning sets m := fun h => hlength (count_lt (hvalid.mpr h))
      rw [check_of_wordLimit_le (Nat.not_lt.mp hlength)]
      simp only [reduceCtorEq, hnot]
  · intro hlength hnot
    have hfalse : (⟨sets, m⟩ : Partition).check = false := by
      rw [← Bool.not_eq_true, hcheck]
      exact hnot
    rw [check_raw hlength, hfalse]
    rfl

/-- Classes that no requests lead to pass; a gap of one code point, a class that comes twice and a
code point beyond the maximum are found. -/
theorem check_decides_partition_latin :
    let span (lo hi : Nat) (h : lo ≤ hi ∧ hi ≤ CodePoint.last) : CharSet :=
      CharSet.ofSpan ⟨lo, hi, h.1, h.2⟩
    let low := span 0 0x40 (by decide)
    let high := span 0x41 0x7F (by decide)
    0x7F ≤ CodePoint.last ∧
      (⟨[high, low].map CharSet.raw, 0x7F, none⟩ : Classes).check = .ok () ∧
      ¬ CharSet.Partitioning [low, span 0x42 0x7F (by decide)] 0x7F ∧
      (⟨[low, high, low].map CharSet.raw, 0x7F, none⟩ : Classes).check = .error .assertion ∧
      (⟨[low, span 0x41 0x80 (by decide)].map CharSet.raw, 0x7F, none⟩ : Classes).check =
        .error .assertion := by
  intro span low high
  have hlast : 0x7F ≤ CodePoint.last := by decide
  have hpass := (check_decides_partition [high, low] none hlast).2.1.mp (by decide)
  have hgap := (check_decides_partition [low, span 0x42 0x7F (by decide)] none hlast).2.1
  have htwice := (check_decides_partition [low, high, low] none hlast).2
  have hbeyond := (check_decides_partition [low, span 0x41 0x80 (by decide)] none hlast).2
  exact ⟨hlast, (check_decides_partition _ none hlast).1.mpr hpass,
    fun h => absurd (hgap.mpr h) (by decide),
    htwice.2 (by decide) fun h => absurd (htwice.1.mpr h) (by decide),
    hbeyond.2 (by decide) fun h => absurd (hbeyond.1.mpr h) (by decide)⟩

end Classes

end Machine

end ScannerAlphabet
