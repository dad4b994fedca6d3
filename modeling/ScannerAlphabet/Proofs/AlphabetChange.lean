import ScannerAlphabet.Partition.Resize
import ScannerAlphabet.Proofs.ClassCodes

/-!
# Changing the alphabet of a valid partition

`resize_cases` lists what a successful change can do: the first class gains the new code
points, or every class is clipped and keeps a member, or nothing happens. Each leaves a valid
partition of the new alphabet.
-/
namespace ScannerAlphabet.Partition
variable {p q : Partition} {s : CharSet} {c m : Nat}

theorem mem_clipped : c ∈ s ∩ CharSet.upTo m ↔ c ∈ s ∧ c ≤ m := by
  rw [CharSet.mem_inter, CharSet.mem_upTo]
  exact ⟨fun h => ⟨h.1, h.2.1⟩, fun h => ⟨h.1, h.2, CharSet.le_last_of_mem h.1⟩⟩

/-- Narrowing clips the classes, and succeeds when each of them keeps a member. -/
theorem narrow_eq_ok_iff :
    p.narrow m = .ok q ↔ q = p.clippedTo m ∧ ∀ s ∈ p.classes, ∃ c ∈ s, c ≤ m := by
  have hnone : (p.clippedTo m).classes.findIdx? CharSet.isEmpty = none ↔
      ∀ s ∈ p.classes, ∃ c ∈ s, c ≤ m := by
    simp only [clippedTo, List.findIdx?_eq_none_iff, List.forall_mem_map, ← Bool.not_eq_true,
      CharSet.isEmpty_iff, mem_clipped, not_forall, not_not]
  rw [← hnone]
  unfold narrow
  cases (p.clippedTo m).classes.findIdx? CharSet.isEmpty with
  | none => simp [eq_comm]
  | some code => simp

/-- All that a successful change can do. -/
theorem resize_cases (h : p.resize m = .ok q) : m ≤ CodePoint.last ∧
    ((∃ added : Span, added.lo = p.maximum + 1 ∧ added.hi = m ∧ q = p.widen added) ∨
      (m < p.maximum ∧ q = p.clippedTo m ∧ ∀ s ∈ p.classes, ∃ c ∈ s, c ≤ m) ∨
      (m = p.maximum ∧ q = p)) := by
  unfold resize at h
  split at h
  · cases h
  · rename_i hlast
    refine ⟨Nat.not_lt.mp hlast, ?_⟩
    split at h
    · cases h
      exact .inl ⟨_, rfl, rfl, rfl⟩
    · split at h
      · rename_i hnarrower
        exact .inr (.inl ⟨hnarrower, narrow_eq_ok_iff.mp h⟩)
      · cases h
        exact .inr (.inr ⟨by omega, rfl⟩)

theorem Valid.resize_self (hp : p.Valid) : p.resize p.maximum = .ok p := by
  unfold resize
  rw [dif_neg (Nat.not_lt.mpr hp.maximum_le), dif_neg (Nat.lt_irrefl _), if_neg (Nat.lt_irrefl _)]

theorem resize_of_lt (hlt : p.maximum < m) (hm : m ≤ CodePoint.last) :
    p.resize m = .ok (p.widen ⟨p.maximum + 1, m, hlt, hm⟩) := by
  unfold resize
  rw [dif_neg (Nat.not_lt.mpr hm), dif_pos hlt]

theorem Valid.widen (hp : p.Valid) {added : Span} (hlo : added.lo = p.maximum + 1) :
    (p.widen added).Valid := by
  have hbounds := added.lo_le_hi
  unfold Partition.widen
  cases hclasses : p.classes with
  | nil => exact absurd hp.count_pos (by simp [count, hclasses])
  | cons first rest =>
    have hdis := List.pairwise_cons.mp (hclasses ▸ hp.disjoint)
    have hcov : ∀ c, c ∈ first ∨ (∃ s ∈ rest, c ∈ s) ↔ c ≤ p.maximum := by
      intro c
      rw [← hp.covers c, hclasses, List.exists_mem_cons_iff]
    refine ⟨added.hi_le_last, ?_, ?_, fun c => ?_⟩
    · have hlo_mem : added.lo ∈ first.insertSpan added :=
        CharSet.mem_insertSpan.mpr (.inl added.lo_mem)
      refine List.forall_mem_cons.mpr ⟨⟨added.lo, hlo_mem⟩, fun s hs => ?_⟩
      exact hp.nonempty s (hclasses ▸ List.mem_cons_of_mem _ hs)
    · refine List.pairwise_cons.mpr ⟨fun s hs c ⟨hc, hcs⟩ => ?_, hdis.2⟩
      rcases CharSet.mem_insertSpan.mp hc with hc | hc
      · have hle := (hcov c).mp (.inr ⟨s, hs, hcs⟩)
        have hge := hc.1
        omega
      · exact hdis.1 s hs c ⟨hc, hcs⟩
    · simp only [List.exists_mem_cons_iff, CharSet.mem_insertSpan, or_assoc, hcov c, Span.mem_def]
      omega

theorem Valid.clippedTo (hp : p.Valid) (hm : m ≤ p.maximum)
    (hne : ∀ s ∈ p.classes, ∃ c ∈ s, c ≤ m) : (p.clippedTo m).Valid where
  maximum_le := Nat.le_trans hm hp.maximum_le
  nonempty := by
    refine List.forall_mem_map.mpr fun s hs => ?_
    obtain ⟨c, hc, hcm⟩ := hne s hs
    exact ⟨c, mem_clipped.mpr ⟨hc, hcm⟩⟩
  disjoint := by
    refine List.pairwise_map.mpr (hp.disjoint.imp fun h c hc => h c ?_)
    exact ⟨(mem_clipped.mp hc.1).1, (mem_clipped.mp hc.2).1⟩
  covers c := by
    constructor
    · rintro ⟨_, hs, hc⟩
      obtain ⟨s, -, rfl⟩ := List.mem_map.mp hs
      exact (mem_clipped.mp hc).2
    · intro hcm
      obtain ⟨s, hs, hcs⟩ := (hp.covers c).mpr (Nat.le_trans hcm hm)
      exact ⟨_, List.mem_map_of_mem hs, mem_clipped.mpr ⟨hcs, hcm⟩⟩

/-- A successful change of the alphabet keeps a partition valid. -/
theorem Valid.resize (hp : p.Valid) (h : p.resize m = .ok q) : q.Valid := by
  obtain ⟨-, ⟨added, hlo, -, rfl⟩ | ⟨hm, rfl, hne⟩ | ⟨-, rfl⟩⟩ := resize_cases h
  · exact hp.widen hlo
  · exact hp.clippedTo (Nat.le_of_lt hm) hne
  · exact hp

end ScannerAlphabet.Partition
