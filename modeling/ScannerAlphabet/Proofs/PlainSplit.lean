import ScannerAlphabet.Partition.Split
import ScannerAlphabet.Proofs.ClassCodes

/-!
# Splitting by a plain scan

The plain scan looks at every class with the whole set. A class that the set cuts keeps its
place with the part outside, and the parts inside follow in the order of their classes. The
splitting in `Partition.refine` compares with a shrinking remainder and stops early;
`splitClasses_eq` says that it makes the same list as long as the classes are disjoint. All
that is known about a split partition is read off the plain scan: it is valid again, two code
points still share a class when the set does not tell them apart, and classes keep their places.
-/
namespace ScannerAlphabet

/-- Whether a set has some members of a class, but not all. -/
def CharSet.cuts (s cls : CharSet) : Bool :=
  !(cls ∩ s).isEmpty && !(cls \ s).isEmpty

theorem CharSet.cuts_eq_true_iff {s cls : CharSet} :
    s.cuts cls = true ↔ (∃ c ∈ cls, c ∈ s) ∧ ∃ c ∈ cls, ¬ c ∈ s := by
  unfold cuts
  simp only [Bool.and_eq_true, Bool.not_eq_true', ← Bool.not_eq_true, isEmpty_iff, mem_inter,
    mem_sdiff, not_forall, not_not]

theorem CharSet.cuts_eq_false_iff {s cls : CharSet} :
    s.cuts cls = false ↔ (∀ c ∈ cls, ¬ c ∈ s) ∨ ∀ c ∈ cls, c ∈ s := by
  rw [← Bool.not_eq_true, cuts_eq_true_iff]
  grind

/-- What stays in the place of a class. -/
def CharSet.staying (s cls : CharSet) : CharSet :=
  if s.cuts cls then cls \ s else cls

theorem CharSet.staying_of_cuts {s cls : CharSet} (h : s.cuts cls = true) :
    s.staying cls = cls \ s := if_pos h

theorem CharSet.staying_of_not_cuts {s cls : CharSet} (h : s.cuts cls = false) :
    s.staying cls = cls := by
  unfold staying
  rw [h]
  rfl

theorem CharSet.mem_staying {s cls : CharSet} {c : Nat} :
    c ∈ s.staying cls ↔ c ∈ cls ∧ (s.cuts cls = true → ¬ c ∈ s) := by
  cases h : s.cuts cls with
  | true => rw [staying_of_cuts h, mem_sdiff]; simp
  | false => rw [staying_of_not_cuts h]; simp

theorem CharSet.eq_inter_left_iff {s cls : CharSet} : cls = cls ∩ s ↔ ∀ c ∈ cls, c ∈ s := by
  constructor
  · intro h c hc
    rw [h] at hc
    exact (mem_inter.mp hc).2
  · intro h
    exact ext_of_mem_iff fun c => by rw [mem_inter, and_iff_left_of_imp (h c)]

theorem CharSet.eq_inter_right_iff {s cls : CharSet} : s = cls ∩ s ↔ ∀ c ∈ s, c ∈ cls := by
  constructor
  · intro h c hc
    rw [h] at hc
    exact (mem_inter.mp hc).1
  · intro h
    exact ext_of_mem_iff fun c => by rw [mem_inter, and_iff_right_of_imp (h c)]

theorem CharSet.sdiff_inter (s cls : CharSet) : cls \ (cls ∩ s) = cls \ s := by
  refine ext_of_mem_iff fun c => ?_
  rw [mem_sdiff, mem_sdiff, mem_inter]
  tauto

theorem CharSet.cuts_of_part {s cls : CharSet} (hsome : ¬ (cls ∩ s).isEmpty = true)
    (hpart : ¬ cls = cls ∩ s) : s.cuts cls = true := by
  rw [cuts, Bool.and_eq_true, Bool.not_eq_true', Bool.not_eq_true', ← Bool.not_eq_true,
    ← Bool.not_eq_true, isEmpty_iff (s := cls \ s)]
  refine ⟨hsome, fun h => ?_⟩
  refine hpart (eq_inter_left_iff.mpr fun c hc => ?_)
  apply Decidable.byContradiction
  intro hcs
  exact h c (mem_sdiff.mpr ⟨hc, hcs⟩)

namespace Partition

/-- The classes in their places, without what a set cuts off. -/
def kept (s : CharSet) (l : List CharSet) : List CharSet :=
  l.map s.staying

/-- What a set cuts off, in the order of the classes. -/
def pieces (s : CharSet) (l : List CharSet) : List CharSet :=
  (l.filter s.cuts).map (· ∩ s)

/-- The classes after a scan that looks at each of them with the whole set. -/
def plainSplit (s : CharSet) (l : List CharSet) : List CharSet :=
  kept s l ++ pieces s l

variable {p : Partition} {s t : CharSet} {l : List CharSet} {c d i : Nat}

theorem kept_cons (cls : CharSet) :
    kept s (cls :: l) = s.staying cls :: kept s l := rfl

theorem pieces_cons_of_cuts {cls : CharSet} (h : s.cuts cls = true) :
    pieces s (cls :: l) = (cls ∩ s) :: pieces s l := by
  simp [pieces, h]

theorem pieces_cons_of_not_cuts {cls : CharSet} (h : s.cuts cls = false) :
    pieces s (cls :: l) = pieces s l := by
  simp [pieces, h]

theorem scan_congr (h : ∀ cls ∈ l, ∀ c ∈ cls, (c ∈ s ↔ c ∈ t)) :
    kept s l = kept t l ∧ pieces s l = pieces t l := by
  induction l with
  | nil => exact ⟨rfl, rfl⟩
  | cons cls l ih =>
    obtain ⟨hkept, hpieces⟩ := ih fun u hu => h u (List.mem_cons_of_mem _ hu)
    have hcls := h cls List.mem_cons_self
    have hcuts : s.cuts cls = t.cuts cls := by
      rw [Bool.eq_iff_iff, CharSet.cuts_eq_true_iff, CharSet.cuts_eq_true_iff]
      grind
    have hstaying : s.staying cls = t.staying cls := CharSet.ext_of_mem_iff fun c => by
      rw [CharSet.mem_staying, CharSet.mem_staying, hcuts]
      exact and_congr_right fun hc => imp_congr_right fun _ => not_congr (hcls c hc)
    have hinter : cls ∩ s = cls ∩ t := CharSet.ext_of_mem_iff fun c => by
      rw [CharSet.mem_inter, CharSet.mem_inter]
      exact and_congr_right (hcls c)
    refine ⟨by rw [kept_cons, kept_cons, hstaying, hkept], ?_⟩
    cases hc : t.cuts cls with
    | false => rw [pieces_cons_of_not_cuts (hcuts.trans hc), pieces_cons_of_not_cuts hc, hpieces]
    | true => rw [pieces_cons_of_cuts (hcuts.trans hc), pieces_cons_of_cuts hc, hpieces, hinter]

theorem scan_of_not_cuts (h : ∀ cls ∈ l, s.cuts cls = false) : kept s l = l ∧ pieces s l = [] := by
  constructor
  · unfold kept
    rw [List.map_congr_left (f := s.staying) (g := id) fun cls hcls =>
      CharSet.staying_of_not_cuts (h cls hcls), List.map_id]
  · unfold pieces
    rw [List.filter_eq_nil_iff.mpr fun cls hcls => by simp [h cls hcls], List.map_nil]

theorem scan_of_apart (h : ∀ cls ∈ l, ∀ c ∈ cls, ¬ c ∈ s) : kept s l = l ∧ pieces s l = [] :=
  scan_of_not_cuts fun cls hcls => CharSet.cuts_eq_false_iff.mpr (.inl (h cls hcls))

/-- Once a class has used up its part of the set, the classes apart from it see no difference. -/
theorem scan_remainder {cls : CharSet} (h : ∀ t ∈ l, ∀ c, ¬ (c ∈ cls ∧ c ∈ t)) :
    kept (s \ (cls ∩ s)) l = kept s l ∧ pieces (s \ (cls ∩ s)) l = pieces s l := by
  refine scan_congr fun t ht c hc => ?_
  rw [CharSet.mem_sdiff, CharSet.mem_inter]
  have hcls := h t ht c
  tauto

/-- The scan with a shrinking remainder and early exits makes the lists of the plain scan. -/
theorem splitClasses_eq (h : l.Pairwise fun s t => ∀ c, ¬ (c ∈ s ∧ c ∈ t)) :
    splitClasses s l = (kept s l, pieces s l) := by
  fun_induction splitClasses s l with
  | case1 s => rfl
  | case2 s cls more hempty =>
    obtain ⟨hkept, hpieces⟩ := scan_of_apart (s := s) (l := cls :: more)
      fun _ _ c _ => CharSet.isEmpty_iff.mp hempty c
    rw [hkept, hpieces]
  | case3 cls more hne =>
    have happart := (List.pairwise_cons.mp h).1
    have hcls : CharSet.cuts cls cls = false := CharSet.cuts_eq_false_iff.mpr (.inr fun _ hc => hc)
    obtain ⟨hkept, hpieces⟩ := scan_of_apart (s := cls) (l := more)
      fun u hu c hc hcls => happart u hu c ⟨hcls, hc⟩
    rw [kept_cons, CharSet.staying_of_not_cuts hcls, hkept, pieces_cons_of_not_cuts hcls, hpieces]
  | case4 s cls more _ _ _ hnone kept' pieces' hrest ih =>
    obtain ⟨_, hmore⟩ := List.pairwise_cons.mp h
    have hcls : s.cuts cls = false := CharSet.cuts_eq_false_iff.mpr (.inl fun c hc hcs =>
      CharSet.isEmpty_iff.mp hnone c (CharSet.mem_inter.mpr ⟨hc, hcs⟩))
    obtain ⟨rfl, rfl⟩ := Prod.mk.inj (hrest.symm.trans (ih hmore))
    rw [kept_cons, CharSet.staying_of_not_cuts hcls, pieces_cons_of_not_cuts hcls]
  | case5 s cls more _ _ _ _ hall kept' pieces' hrest ih =>
    obtain ⟨happart, hmore⟩ := List.pairwise_cons.mp h
    have hcls : s.cuts cls = false := CharSet.cuts_eq_false_iff.mpr
      (.inr (CharSet.eq_inter_left_iff.mp hall))
    obtain ⟨rfl, rfl⟩ := Prod.mk.inj (hrest.symm.trans (ih hmore))
    obtain ⟨hkept, hpieces⟩ := scan_remainder (s := s) happart
    rw [kept_cons, CharSet.staying_of_not_cuts hcls, pieces_cons_of_not_cuts hcls, hkept, hpieces]
  | case6 s cls more _ _ _ hsome hpart hall =>
    obtain ⟨happart, _⟩ := List.pairwise_cons.mp h
    have hcls := CharSet.cuts_of_part hsome hpart
    obtain ⟨hkept, hpieces⟩ := scan_of_apart (s := s) (l := more) fun u hu c hc hcs =>
      happart u hu c ⟨CharSet.eq_inter_right_iff.mp hall c hcs, hc⟩
    rw [kept_cons, CharSet.staying_of_cuts hcls, pieces_cons_of_cuts hcls, hkept, hpieces,
      CharSet.sdiff_inter]
  | case7 s cls more _ _ _ hsome hpart _ kept' pieces' hrest ih =>
    obtain ⟨happart, hmore⟩ := List.pairwise_cons.mp h
    have hcls := CharSet.cuts_of_part hsome hpart
    obtain ⟨rfl, rfl⟩ := Prod.mk.inj (hrest.symm.trans (ih hmore))
    obtain ⟨hkept, hpieces⟩ := scan_remainder (s := s) happart
    rw [kept_cons, CharSet.staying_of_cuts hcls, pieces_cons_of_cuts hcls, hkept, hpieces,
      CharSet.sdiff_inter]

theorem Valid.classes_refine (hp : p.Valid) (s : CharSet) :
    (p.refine s).classes = plainSplit s p.classes := by
  unfold refine
  rw [splitClasses_eq hp.disjoint]
  rfl

theorem mem_plainSplit : t ∈ plainSplit s l ↔
    ∃ cls ∈ l, t = s.staying cls ∨ (s.cuts cls = true ∧ t = cls ∩ s) := by
  unfold plainSplit kept pieces
  simp only [List.mem_append, List.mem_map, List.mem_filter]
  grind

/-- Two code points are still together if they were and the set does not tell them apart. -/
theorem together_plainSplit : (∃ t ∈ plainSplit s l, c ∈ t ∧ d ∈ t) ↔
    (∃ cls ∈ l, c ∈ cls ∧ d ∈ cls) ∧ (c ∈ s ↔ d ∈ s) := by
  constructor
  · rintro ⟨t, ht, hc, hd⟩
    obtain ⟨cls, hcls, rfl | ⟨-, rfl⟩⟩ := mem_plainSplit.mp ht
    · rw [CharSet.mem_staying] at hc hd
      refine ⟨⟨cls, hcls, hc.1, hd.1⟩, ?_⟩
      cases hcuts : s.cuts cls with
      | true => exact iff_of_false (hc.2 hcuts) (hd.2 hcuts)
      | false =>
        rcases CharSet.cuts_eq_false_iff.mp hcuts with hout | hin
        · exact iff_of_false (hout c hc.1) (hout d hd.1)
        · exact iff_of_true (hin c hc.1) (hin d hd.1)
    · rw [CharSet.mem_inter] at hc hd
      exact ⟨⟨cls, hcls, hc.1, hd.1⟩, iff_of_true hc.2 hd.2⟩
  · rintro ⟨⟨cls, hcls, hc, hd⟩, hiff⟩
    by_cases hcut : s.cuts cls = true ∧ c ∈ s
    · refine ⟨cls ∩ s, mem_plainSplit.mpr ⟨cls, hcls, .inr ⟨hcut.1, rfl⟩⟩, ?_, ?_⟩
      · exact CharSet.mem_inter.mpr ⟨hc, hcut.2⟩
      · exact CharSet.mem_inter.mpr ⟨hd, hiff.mp hcut.2⟩
    · refine ⟨s.staying cls, mem_plainSplit.mpr ⟨cls, hcls, .inl rfl⟩, ?_, ?_⟩
      · exact CharSet.mem_staying.mpr ⟨hc, fun hcuts hcs => hcut ⟨hcuts, hcs⟩⟩
      · exact CharSet.mem_staying.mpr ⟨hd, fun hcuts hds => hcut ⟨hcuts, hiff.mpr hds⟩⟩

theorem covered_plainSplit : (∃ t ∈ plainSplit s l, c ∈ t) ↔ ∃ cls ∈ l, c ∈ cls := by
  simpa only [and_self, iff_self, and_true] using
    together_plainSplit (s := s) (l := l) (c := c) (d := c)

theorem nonempty_plainSplit (h : ∀ cls ∈ l, ∃ c, c ∈ cls) :
    ∀ t ∈ plainSplit s l, ∃ c, c ∈ t := by
  intro t ht
  obtain ⟨cls, hcls, rfl | ⟨hcuts, rfl⟩⟩ := mem_plainSplit.mp ht
  · cases hcuts : s.cuts cls with
    | true =>
      obtain ⟨-, c, hc, hcs⟩ := CharSet.cuts_eq_true_iff.mp hcuts
      exact ⟨c, CharSet.mem_staying.mpr ⟨hc, fun _ => hcs⟩⟩
    | false =>
      rw [CharSet.staying_of_not_cuts hcuts]
      exact h cls hcls
  · obtain ⟨⟨c, hc, hcs⟩, -⟩ := CharSet.cuts_eq_true_iff.mp hcuts
    exact ⟨c, CharSet.mem_inter.mpr ⟨hc, hcs⟩⟩

theorem Valid.disjoint_plainSplit (hp : p.Valid) (s : CharSet) :
    (plainSplit s p.classes).Pairwise fun t u => ∀ c, ¬ (c ∈ t ∧ c ∈ u) := by
  unfold plainSplit kept pieces
  refine List.pairwise_append.mpr ⟨?_, ?_, ?_⟩
  · refine List.pairwise_map.mpr (hp.disjoint.imp fun h c hc => h c ?_)
    exact ⟨(CharSet.mem_staying.mp hc.1).1, (CharSet.mem_staying.mp hc.2).1⟩
  · refine List.pairwise_map.mpr ((hp.disjoint.filter _).imp fun h c hc => h c ?_)
    exact ⟨(CharSet.mem_inter.mp hc.1).1, (CharSet.mem_inter.mp hc.2).1⟩
  · intro t ht u hu c ⟨hct, hcu⟩
    obtain ⟨cls, hcls, rfl⟩ := List.mem_map.mp ht
    obtain ⟨cls', hcls', rfl⟩ := List.mem_map.mp hu
    obtain ⟨hmem, hcuts⟩ := List.mem_filter.mp hcls'
    rw [CharSet.mem_staying] at hct
    rw [CharSet.mem_inter] at hcu
    obtain rfl := hp.class_eq hcls hmem hct.1 hcu.1
    exact hct.2 hcuts hcu.2

/-- Splitting keeps a partition valid, whatever the set. -/
theorem Valid.refine (hp : p.Valid) (s : CharSet) : (p.refine s).Valid where
  maximum_le := hp.maximum_le
  nonempty := by
    rw [hp.classes_refine]
    exact nonempty_plainSplit hp.nonempty
  disjoint := by
    rw [hp.classes_refine]
    exact hp.disjoint_plainSplit s
  covers c := by
    rw [hp.classes_refine, covered_plainSplit]
    exact hp.covers c

theorem Valid.sameClass_refine (hp : p.Valid) (s : CharSet) :
    (p.refine s).SameClass c d ↔ p.SameClass c d ∧ (c ∈ s ↔ d ∈ s) := by
  unfold SameClass
  rw [hp.classes_refine]
  exact together_plainSplit

end Partition

end ScannerAlphabet
