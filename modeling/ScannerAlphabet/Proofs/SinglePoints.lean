import Mathlib.Algebra.BigOperators.Group.List.Basic
import ScannerAlphabet.Proofs.Coarsest
import ScannerAlphabet.Proofs.StableCodes

/-!
# Singling out code points

Refining by single code points, one after the other, takes each of them out of its class. Only the
last member of a class is never taken out: it stays in the place of the class, so that a class of
which every member is named makes one new class less than it has members. `count_replay_points` adds
this up over all classes, for any list of code points, with repetitions and with code points outside
the alphabet, and `class_of_point` says that a code point of the list is alone in the end.
-/
namespace ScannerAlphabet

namespace CharSet
variable {s g : CharSet} {n : Nat} {l : List Nat}

/-- How many members occur in a list, each counted once. -/
def occurring (s : CharSet) (l : List Nat) : Nat :=
  s.toList.countP (· ∈ l)

/-- How many members are taken out of a class when the code points of a list are singled out. -/
def takenOut (s : CharSet) (l : List Nat) : Nat :=
  min (s.occurring l) (s.size - 1)

theorem toList_perm_cons (hn : n ∈ s) (hg : ∀ c ∈ s, (c ∈ g ↔ c = n)) :
    s.toList.Perm (n :: (s \ g).toList) := by
  have hnot : ¬ n ∈ (s \ g).toList := by
    rw [mem_toList, mem_sdiff]
    exact fun h => h.2 ((hg n hn).mpr rfl)
  rw [List.perm_ext_iff_of_nodup s.nodup_toList (List.nodup_cons.mpr ⟨hnot, nodup_toList _⟩)]
  intro c
  rw [List.mem_cons, mem_toList, mem_toList, mem_sdiff]
  constructor
  · intro hc
    by_cases hcn : c = n
    · exact .inl hcn
    · exact .inr ⟨hc, fun hcg => hcn ((hg c hc).mp hcg)⟩
  · rintro (rfl | ⟨hc, -⟩)
    · exact hn
    · exact hc

theorem occurring_cons_of_not_mem (hn : ¬ n ∈ s) : s.occurring (n :: l) = s.occurring l := by
  apply List.countP_congr
  intro c hc
  have hcn : c ≠ n := fun h => hn (h ▸ mem_toList.mp hc)
  simp only [List.mem_cons, hcn, false_or]

theorem occurring_cons_of_mem (hn : n ∈ s) (hg : ∀ c ∈ s, (c ∈ g ↔ c = n)) :
    s.occurring (n :: l) = (s \ g).occurring l + 1 := by
  have hrest : ¬ n ∈ s \ g := fun h => (mem_sdiff.mp h).2 ((hg n hn).mpr rfl)
  rw [← occurring_cons_of_not_mem hrest]
  unfold occurring
  rw [(toList_perm_cons hn hg).countP_eq, List.countP_cons_of_pos (by simp)]

theorem size_of_mem (hn : n ∈ s) (hg : ∀ c ∈ s, (c ∈ g ↔ c = n)) : s.size = (s \ g).size + 1 := by
  rw [← length_toList, ← length_toList, (toList_perm_cons hn hg).length_eq, List.length_cons]

theorem size_pos_iff : 0 < s.size ↔ ∃ c, c ∈ s := by
  rw [← length_toList, List.length_pos_iff_exists_mem]
  simp only [mem_toList]

theorem takenOut_of_point (h : ∀ c ∈ s, c = n) (l : List Nat) : s.takenOut l = 0 := by
  have hsize : s.size - 1 = 0 := by
    by_cases hn : n ∈ s
    · have hrest : ¬ 0 < (s \ s).size := by
        rw [size_pos_iff]
        rintro ⟨c, hc⟩
        exact (mem_sdiff.mp hc).2 (mem_sdiff.mp hc).1
      have hsize := size_of_mem hn (g := s) fun c hc => iff_of_true hc (h c hc)
      omega
    · have hsize : ¬ 0 < s.size := by
        rw [size_pos_iff]
        rintro ⟨c, hc⟩
        exact hn (h c hc ▸ hc)
      omega
  rw [takenOut, hsize, Nat.min_zero]

/-- What a list takes out of a class is what its first code point cuts off, and what the others take
out of what stays. -/
theorem takenOut_cons (hg : ∀ c ∈ s, (c ∈ g ↔ c = n)) :
    s.takenOut (n :: l) = (g.staying s).takenOut l + if g.cuts s then 1 else 0 := by
  by_cases hn : n ∈ s
  · have hsize := size_of_mem hn hg
    have hoccurring := occurring_cons_of_mem (l := l) hn hg
    cases hcuts : g.cuts s with
    | true =>
      obtain ⟨-, c, hc, hcg⟩ := cuts_eq_true_iff.mp hcuts
      have hothers : 0 < (s \ g).size := size_pos_iff.mpr ⟨c, mem_sdiff.mpr ⟨hc, hcg⟩⟩
      rw [staying_of_cuts hcuts, takenOut, takenOut, hoccurring, hsize, if_pos rfl]
      omega
    | false =>
      have hall : ∀ c ∈ s, c = n := by
        rcases cuts_eq_false_iff.mp hcuts with hout | hin
        · exact absurd ((hg n hn).mpr rfl) (hout n hn)
        · exact fun c hc => (hg c hc).mp (hin c hc)
      rw [staying_of_not_cuts hcuts, takenOut_of_point hall, takenOut_of_point hall]
      rfl
  · have hcuts : g.cuts s = false := by
      rw [cuts_eq_false_iff]
      exact .inl fun c hc hcg => hn ((hg c hc).mp hcg ▸ hc)
    rw [staying_of_not_cuts hcuts, hcuts, takenOut, takenOut, occurring_cons_of_not_mem hn]
    rfl

theorem single_toOption_eq_some_iff : (CharSet.single n).toOption = some s ↔
    n ≤ CodePoint.last ∧ ∀ c, c ∈ s ↔ c = n := by
  unfold CharSet.single Span.single Span.ofBounds
  by_cases hn : n ≤ CodePoint.last
  · have hmem : ∀ c, c ∈ ofSpan ⟨n, n, Nat.le_refl n, hn⟩ ↔ c = n := by
      intro c
      rw [mem_ofSpan, Span.mem_def, Nat.le_antisymm_iff, and_comm]
    rw [dif_pos ⟨Nat.le_refl n, hn⟩]
    simp only [Except.map, Except.toOption, Option.some.injEq, hn, true_and]
    constructor
    · rintro rfl
      exact hmem
    · intro h
      exact ext_of_mem_iff fun c => (hmem c).trans (h c).symm
  · rw [dif_neg fun h => hn h.2]
    simp only [Except.map, Except.toOption, reduceCtorEq, hn, false_and]

end CharSet

namespace Partition
variable {p : Partition} {g : CharSet} {n d : Nat} {l : List Nat} {classes : List CharSet}

theorem sum_takenOut_cons (hg : ∀ s ∈ classes, ∀ c ∈ s, (c ∈ g ↔ c = n)) :
    (classes.map (·.takenOut (n :: l))).sum =
      ((kept g classes).map (·.takenOut l)).sum + (classes.filter g.cuts).length := by
  induction classes with
  | nil => rfl
  | cons s classes ih =>
    have hs := CharSet.takenOut_cons (l := l) (hg s List.mem_cons_self)
    have hrest := ih fun t ht => hg t (List.mem_cons_of_mem _ ht)
    rw [kept_cons, List.map_cons, List.map_cons, List.sum_cons, List.sum_cons, hs, hrest]
    cases hcuts : g.cuts s with
    | true =>
      rw [List.filter_cons_of_pos hcuts, List.length_cons, if_pos rfl]
      omega
    | false =>
      rw [List.filter_cons_of_neg (by simp [hcuts]), if_neg (by simp)]
      omega

theorem sum_takenOut_pieces (hg : ∀ s ∈ classes, ∀ c ∈ s, (c ∈ g ↔ c = n)) :
    ((pieces g classes).map (·.takenOut l)).sum = 0 := by
  apply List.sum_eq_zero
  intro k hk
  obtain ⟨t, ht, rfl⟩ := List.mem_map.mp hk
  obtain ⟨s, hs, rfl⟩ := List.mem_map.mp ht
  apply CharSet.takenOut_of_point (n := n)
  intro c hc
  obtain ⟨hcs, hcg⟩ := CharSet.mem_inter.mp hc
  exact (hg s (List.mem_of_mem_filter hs) c hcs).mp hcg

theorem Valid.count_refine_point (hp : p.Valid)
    (hg : ∀ s ∈ p.classes, ∀ c ∈ s, (c ∈ g ↔ c = n)) (l : List Nat) :
    (p.refine g).count + ((p.refine g).classes.map (·.takenOut l)).sum =
      p.count + (p.classes.map (·.takenOut (n :: l))).sum := by
  rw [hp.count_refine, hp.classes_refine, plainSplit, List.map_append, List.sum_append,
    sum_takenOut_pieces hg, sum_takenOut_cons hg]
  omega

/-- The splits by the code points of a list, as far as sets can hold them. -/
def points (l : List Nat) : List Move :=
  (l.filterMap fun n => (CharSet.single n).toOption).map .split

theorem points_cons_of_none (hs : (CharSet.single n).toOption = none) :
    points (n :: l) = points l :=
  congrArg (List.map Move.split)
    (List.filterMap_cons_none (f := fun n => (CharSet.single n).toOption) hs)

theorem points_cons_of_some (hs : (CharSet.single n).toOption = some g) :
    points (n :: l) = .split g :: points l :=
  congrArg (List.map Move.split)
    (List.filterMap_cons_some (f := fun n => (CharSet.single n).toOption) hs)

/-- Each class makes as many new ones as members are taken out of it. -/
theorem Valid.count_replay_points (hp : p.Valid) (l : List Nat) :
    (p.replay (points l)).count = p.count + (p.classes.map (·.takenOut l)).sum := by
  induction l generalizing p with
  | nil =>
    have hnone : (p.classes.map (·.takenOut [])).sum = 0 := by
      apply List.sum_eq_zero
      simp [CharSet.takenOut, CharSet.occurring]
    rw [hnone]
    rfl
  | cons n l ih =>
    cases hs : (CharSet.single n).toOption with
    | none =>
      have hout : ∀ s : CharSet, s.takenOut (n :: l) = s.takenOut l := by
        intro s
        have hn : ¬ n ∈ s := fun h =>
          Nat.not_le.mpr (Request.single_toOption_eq_none_iff.mp hs) (CharSet.le_last_of_mem h)
        rw [CharSet.takenOut, CharSet.takenOut, CharSet.occurring_cons_of_not_mem hn]
      simp only [points_cons_of_none hs, hout, ih hp]
    | some s =>
      have hmem := (CharSet.single_toOption_eq_some_iff.mp hs).2
      have hclip : ∀ t ∈ p.classes, ∀ c ∈ t, (c ∈ p.clip s ↔ c = n) := by
        intro t ht c hc
        rw [mem_clip, and_iff_left (hp.le_of_mem ht hc), hmem]
      rw [points_cons_of_some hs, replay_cons, Partition.move, ih (hp.refine _),
        hp.count_refine_point hclip]

/-- A code point of the alphabet that is singled out shares its class with no other one. -/
theorem Valid.sameClass_replay_points (hp : p.Valid) (hn : n ∈ l) (hmax : n ≤ p.maximum)
    (hd : d ≤ p.maximum) : (p.replay (points l)).SameClass n d ↔ d = n := by
  obtain ⟨s, hs⟩ : ∃ s, (CharSet.single n).toOption = some s := by
    apply Option.ne_none_iff_exists'.mp
    intro hnone
    have hlast := Request.single_toOption_eq_none_iff.mp hnone
    have hmaximum := hp.maximum_le
    omega
  have hmem := (CharSet.single_toOption_eq_some_iff.mp hs).2
  constructor
  · intro h
    have htold := ((hp.sameClass_replay_split hmax hd _).mp h).2
    have hside := htold s (List.mem_filterMap.mpr ⟨n, hn, hs⟩)
    exact (hmem d).mp (hside.mp ((hmem n).mpr rfl))
  · rintro rfl
    obtain ⟨t, ht, hnt⟩ := (hp.covers d).mpr hmax
    exact (hp.sameClass_replay_split hmax hmax _).mpr ⟨⟨t, ht, hnt, hnt⟩, fun _ _ => Iff.rfl⟩

theorem Valid.class_of_point (hp : p.Valid) (hn : n ∈ l) (hmax : n ≤ p.maximum) :
    ∃ i s, (p.replay (points l)).code n = .ok i ∧ (p.replay (points l)).class? i = some s ∧
      ∀ c, c ∈ s ↔ c = n := by
  have hvalid := hp.replay (points l)
  have hmaximum : (p.replay (points l)).maximum = p.maximum := maximum_replay_split p _
  obtain ⟨i, s, hcode, hclass, hns⟩ := hvalid.exists_code (hmaximum.symm ▸ hmax)
  refine ⟨i, s, hcode, hclass, fun c => ?_⟩
  constructor
  · intro hc
    have hle := hvalid.le_of_mem (class?_mem hclass) hc
    exact (hp.sameClass_replay_points hn hmax (hmaximum ▸ hle)).mp ⟨s, class?_mem hclass, hns, hc⟩
  · rintro rfl
    exact hns

end Partition

end ScannerAlphabet
