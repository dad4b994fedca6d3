import ScannerAlphabet.Partition
import Mathlib.Algebra.Ring.Nat
import Mathlib.Data.List.Nodup

/-!
# Codes and classes of a valid partition

In a valid partition each code point of the alphabet lies in one class, and its code is the
place of that class. Two code points have the same code exactly when they share a class, and a
partition is known up to the order of its classes once it is known who shares a class with whom.
The members of the classes add up to the alphabet, and the executable check accepts exactly the
valid partitions.
-/
namespace ScannerAlphabet

namespace CharSet

theorem length_toList (s : CharSet) : s.toList.length = s.size := by
  unfold toList size
  induction s.toRuns with
  | nil => rfl
  | cons t l ih =>
    rw [List.flatMap_cons, List.length_append, ih, Span.length_toList, List.foldr_cons]

theorem nodup_toList (s : CharSet) : s.toList.Nodup := by
  refine List.nodup_flatMap.mpr ⟨fun t _ => List.nodup_range', ?_⟩
  refine List.Pairwise.imp (fun {t u} htu c hct hcu => ?_) s.separated
  have ht := (Span.mem_toList.mp hct).2
  have hu := (Span.mem_toList.mp hcu).1
  omega

theorem mem_foldl_union {l : List CharSet} {c : Nat} :
    c ∈ l.foldl (· ∪ ·) ∅ ↔ ∃ s ∈ l, c ∈ s := by
  suffices h : ∀ u : CharSet, c ∈ l.foldl (· ∪ ·) u ↔ c ∈ u ∨ ∃ s ∈ l, c ∈ s by simp [h]
  induction l with
  | nil => simp
  | cons s l ih =>
    intro u
    rw [List.foldl_cons, ih, mem_union, List.exists_mem_cons_iff, or_assoc]

end CharSet

namespace Partition
variable {p q : Partition} {c d i j : Nat} {s t : CharSet}

/-- Two code points lie in one class. -/
def SameClass (p : Partition) (c d : Nat) : Prop :=
  ∃ s ∈ p.classes, c ∈ s ∧ d ∈ s

theorem class?_mem (h : p.class? i = some s) : s ∈ p.classes :=
  List.mem_of_getElem? h

theorem Valid.index_eq (hp : p.Valid) (hi : p.class? i = some s) (hj : p.class? j = some t)
    (hs : c ∈ s) (ht : c ∈ t) : i = j := by
  obtain ⟨hilt, rfl⟩ := List.getElem?_eq_some_iff.mp hi
  obtain ⟨hjlt, rfl⟩ := List.getElem?_eq_some_iff.mp hj
  have apart := List.pairwise_iff_getElem.mp hp.disjoint
  rcases Nat.lt_trichotomy i j with hij | hij | hij
  · exact absurd ⟨hs, ht⟩ (apart i j hilt hjlt hij c)
  · exact hij
  · exact absurd ⟨ht, hs⟩ (apart j i hjlt hilt hij c)

theorem Valid.class_eq (hp : p.Valid) (hs : s ∈ p.classes) (ht : t ∈ p.classes)
    (hcs : c ∈ s) (hct : c ∈ t) : s = t := by
  obtain ⟨i, hi⟩ := List.getElem?_of_mem hs
  obtain ⟨j, hj⟩ := List.getElem?_of_mem ht
  have hij := hp.index_eq hi hj hcs hct
  subst hij
  exact Option.some.inj (hi.symm.trans hj)

theorem Valid.le_of_mem (hp : p.Valid) (hs : s ∈ p.classes) (hc : c ∈ s) : c ≤ p.maximum :=
  (hp.covers c).mp ⟨s, hs, hc⟩

theorem Valid.exists_class? (hp : p.Valid) (hc : c ≤ p.maximum) :
    ∃ i s, p.class? i = some s ∧ c ∈ s := by
  obtain ⟨s, hs, hcs⟩ := (hp.covers c).mpr hc
  obtain ⟨i, hi⟩ := List.getElem?_of_mem hs
  exact ⟨i, s, hi, hcs⟩

theorem Valid.count_pos (hp : p.Valid) : 0 < p.count := by
  obtain ⟨s, hs, -⟩ := (hp.covers 0).mpr (Nat.zero_le _)
  exact List.length_pos_of_mem hs

theorem Valid.nodup (hp : p.Valid) : p.classes.Nodup := by
  refine List.Pairwise.imp_of_mem (fun {s t} hs _ hst heq => ?_) hp.disjoint
  obtain ⟨c, hc⟩ := hp.nonempty s hs
  exact hst c ⟨hc, heq ▸ hc⟩

/-- The code of a code point is the place of the class that has it. -/
theorem Valid.code?_eq_some_iff (hp : p.Valid) :
    p.code? c = some i ↔ ∃ s, p.class? i = some s ∧ c ∈ s := by
  unfold code?
  rw [List.findIdx?_eq_some_iff_getElem]
  constructor
  · rintro ⟨hi, hc, -⟩
    exact ⟨p.classes[i], List.getElem?_eq_getElem hi, CharSet.contains_eq_true_iff.mp hc⟩
  · rintro ⟨s, hs, hc⟩
    obtain ⟨hi, rfl⟩ := List.getElem?_eq_some_iff.mp hs
    refine ⟨hi, CharSet.contains_eq_true_iff.mpr hc, fun j hji hj => ?_⟩
    have hji' := hp.index_eq (List.getElem?_eq_getElem (Nat.lt_trans hji hi)) hs
      (CharSet.contains_eq_true_iff.mp hj) hc
    omega

theorem Valid.code?_eq_none_iff (hp : p.Valid) : p.code? c = none ↔ p.maximum < c := by
  rw [← Nat.not_le, ← hp.covers c]
  simp only [code?, List.findIdx?_eq_none_iff, ← Bool.not_eq_true, CharSet.contains_eq_true_iff,
    not_exists, not_and]

theorem Valid.code_eq_ok_iff (hp : p.Valid) :
    p.code c = .ok i ↔ ∃ s, p.class? i = some s ∧ c ∈ s := by
  rw [← hp.code?_eq_some_iff]
  unfold code
  cases p.code? c with
  | none => simp
  | some j => simp

theorem Valid.code_eq_error (hp : p.Valid) (hc : p.maximum < c) :
    p.code c = .error (.outOfRange c p.maximum) := by
  unfold code
  rw [hp.code?_eq_none_iff.mpr hc]

theorem Valid.exists_code (hp : p.Valid) (hc : c ≤ p.maximum) :
    ∃ i s, p.code c = .ok i ∧ p.class? i = some s ∧ c ∈ s := by
  obtain ⟨i, s, hi, hcs⟩ := hp.exists_class? hc
  exact ⟨i, s, hp.code_eq_ok_iff.mpr ⟨s, hi, hcs⟩, hi, hcs⟩

theorem Valid.code_eq_code_iff (hp : p.Valid) (hc : c ≤ p.maximum) :
    p.code c = p.code d ↔ p.SameClass c d := by
  constructor
  · intro h
    obtain ⟨i, s, hi, hs, hcs⟩ := hp.exists_code hc
    obtain ⟨t, ht, hdt⟩ := hp.code_eq_ok_iff.mp (h ▸ hi)
    obtain rfl := Option.some.inj (hs.symm.trans ht)
    exact ⟨s, class?_mem hs, hcs, hdt⟩
  · rintro ⟨s, hs, hcs, hds⟩
    obtain ⟨i, hi⟩ := List.getElem?_of_mem hs
    rw [hp.code_eq_ok_iff.mpr ⟨s, hi, hcs⟩, hp.code_eq_ok_iff.mpr ⟨s, hi, hds⟩]

/-- Who shares a class with whom determines the classes. -/
theorem Valid.mem_of_sameClass (hp : p.Valid) (hq : q.Valid) (hmax : p.maximum = q.maximum)
    (h : ∀ c d, c ≤ p.maximum → d ≤ p.maximum → (p.SameClass c d ↔ q.SameClass c d))
    (hs : s ∈ p.classes) : s ∈ q.classes := by
  obtain ⟨c, hcs⟩ := hp.nonempty s hs
  have hc := hp.le_of_mem hs hcs
  obtain ⟨t, ht, hct⟩ := (hq.covers c).mpr (hmax ▸ hc)
  have hst : s = t := by
    refine CharSet.ext_of_mem_iff fun d => ?_
    constructor
    · intro hds
      obtain ⟨u, hu, hcu, hdu⟩ := (h c d hc (hp.le_of_mem hs hds)).mp ⟨s, hs, hcs, hds⟩
      exact hq.class_eq hu ht hcu hct ▸ hdu
    · intro hdt
      obtain ⟨u, hu, hcu, hdu⟩ := (h c d hc (hmax ▸ hq.le_of_mem ht hdt)).mpr ⟨t, ht, hct, hdt⟩
      exact hp.class_eq hu hs hcu hcs ▸ hdu
  exact hst ▸ ht

theorem Valid.perm_of_sameClass (hp : p.Valid) (hq : q.Valid) (hmax : p.maximum = q.maximum)
    (h : ∀ c d, c ≤ p.maximum → d ≤ p.maximum → (p.SameClass c d ↔ q.SameClass c d)) :
    p.classes.Perm q.classes := by
  rw [List.perm_ext_iff_of_nodup hp.nodup hq.nodup]
  intro s
  constructor
  · exact hp.mem_of_sameClass hq hmax h
  · exact hq.mem_of_sameClass hp hmax.symm fun c d hc hd => (h c d (hmax ▸ hc) (hmax ▸ hd)).symm

theorem Valid.sum_size (hp : p.Valid) : (p.classes.map CharSet.size).sum = p.maximum + 1 := by
  have hnodup : (p.classes.flatMap CharSet.toList).Nodup := by
    refine List.nodup_flatMap.mpr ⟨fun s _ => s.nodup_toList, ?_⟩
    refine List.Pairwise.imp (fun {s t} hst c hcs hct => ?_) hp.disjoint
    exact hst c ⟨CharSet.mem_toList.mp hcs, CharSet.mem_toList.mp hct⟩
  have hperm : (p.classes.flatMap CharSet.toList).Perm (List.range (p.maximum + 1)) := by
    rw [List.perm_ext_iff_of_nodup hnodup List.nodup_range]
    intro c
    simp only [List.mem_flatMap, CharSet.mem_toList, List.mem_range, Nat.lt_succ_iff]
    exact hp.covers c
  have hlen := hperm.length_eq
  rw [List.length_flatMap, List.length_range] at hlen
  rw [← hlen]
  exact congrArg List.sum (List.map_congr_left fun s _ => s.length_toList.symm)

theorem disjointNonempty_eq_true_iff {l : List CharSet} : disjointNonempty l = true ↔
    (∀ s ∈ l, ∃ c, c ∈ s) ∧ l.Pairwise fun s t => ∀ c, ¬ (c ∈ s ∧ c ∈ t) := by
  induction l with
  | nil => simp [disjointNonempty]
  | cons s l ih =>
    have hempty : (!s.isEmpty) = true ↔ ∃ c, c ∈ s := by
      rw [Bool.not_eq_true', ← Bool.not_eq_true, CharSet.isEmpty_iff]
      simp only [not_forall, not_not]
    have hall : (l.all fun t => (s ∩ t).isEmpty) = true ↔
        ∀ t ∈ l, ∀ c, ¬ (c ∈ s ∧ c ∈ t) := by
      simp only [List.all_eq_true, CharSet.isEmpty_iff, CharSet.mem_inter]
    rw [disjointNonempty, Bool.and_eq_true, Bool.and_eq_true, ih, hempty, hall,
      List.forall_mem_cons, List.pairwise_cons]
    tauto

theorem mem_covered : c ∈ p.covered ↔ ∃ s ∈ p.classes, c ∈ s :=
  CharSet.mem_foldl_union

/-- The check accepts exactly the valid partitions. -/
theorem check_eq_true_iff (hmax : p.maximum ≤ CodePoint.last) : p.check = true ↔ p.Valid := by
  have hcovered : p.covered = CharSet.upTo p.maximum ↔
      ∀ c, (∃ s ∈ p.classes, c ∈ s) ↔ c ≤ p.maximum := by
    have hupTo : ∀ c, c ∈ CharSet.upTo p.maximum ↔ c ≤ p.maximum := by
      intro c
      rw [CharSet.mem_upTo]
      omega
    constructor
    · intro h c
      rw [← mem_covered, h, hupTo]
    · intro h
      refine CharSet.ext_of_mem_iff fun c => ?_
      rw [mem_covered, hupTo, h]
  rw [check, Bool.and_eq_true, beq_iff_eq, disjointNonempty_eq_true_iff, hcovered]
  constructor
  · rintro ⟨⟨hne, hdis⟩, hcov⟩
    exact ⟨hmax, hne, hdis, hcov⟩
  · intro hp
    exact ⟨⟨hp.nonempty, hp.disjoint⟩, hp.covers⟩

end Partition

end ScannerAlphabet
