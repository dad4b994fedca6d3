import ScannerAlphabet.Proofs.BuiltSets
import ScannerAlphabet.Proofs.CaseVariants
import ScannerAlphabet.Proofs.Machine.Classes

/-!
# Folding as one step and as a closure

Folding a set adds the variants of its members. The result grows while the members are gone
through, but the variants that come in are not folded again: whatever a source answers, folding is
one exact step along its links. Only when the links are an equivalence does one step reach
everything; then the fold is the smallest closed set around the set, and a closed set, which has all
or none of the code points that are linked, can be met or taken away before folding or after it.
-/
namespace ScannerAlphabet

namespace CharSet
variable {source : CaselessSource} {s t u : CharSet} {M N : Nat → Prop} {c d : Nat}

/-- A set has all code points that one of its members is linked to. -/
def ClosedUnder (u : CharSet) (source : CaselessSource) : Prop :=
  ∀ c ∈ u, ∀ d, source.Linked c d → d ∈ u

theorem contains_fold_iff : (s.fold source.variants?).contains d = true ↔
    s.contains d = true ∨
      ∃ c v, s.contains c = true ∧ source.variants? c = some v ∧ v.contains d = true := by
  simp only [contains_eq_true_iff, mem_fold, Option.mem_def]
  constructor
  · intro h
    rcases h with hd | ⟨c, hc, v, hv, hd⟩
    · exact .inl hd
    · exact .inr ⟨c, v, hc, hv, hd⟩
  · intro h
    rcases h with hd | ⟨c, v, hc, hv, hd⟩
    · exact .inl hd
    · exact .inr ⟨c, hc, v, hv, hd⟩

theorem mem_fold_of_mem (hc : c ∈ s) : c ∈ s.fold source.variants? :=
  mem_fold.mpr (.inl hc)

theorem fold_mono (h : ∀ c ∈ s, c ∈ t) (hc : c ∈ s.fold source.variants?) :
    c ∈ t.fold source.variants? := by
  rw [CaselessSource.mem_fold_iff_linked] at hc ⊢
  obtain ⟨d, hd, hlink⟩ := hc
  exact ⟨d, h d hd, hlink⟩

theorem fold_union (source : CaselessSource) (s t : CharSet) :
    (s ∪ t).fold source.variants? = s.fold source.variants? ∪ t.fold source.variants? := by
  apply ext_of_mem_iff
  intro c
  simp only [mem_union, CaselessSource.mem_fold_iff_linked, or_and_right, exists_or]

theorem Built.fold_eq (hs : Built s M) (ht : Built t N) (h : ∀ c, M c ↔ N c)
    (source : CaselessSource) : s.fold source.variants? = t.fold source.variants? := by
  have hst : s = t := (hs.eq_iff ht).mpr h
  rw [hst]

theorem ClosedUnder.mem_of_mem_fold (hu : u.ClosedUnder source) (h : ∀ c ∈ s, c ∈ u)
    (hc : c ∈ s.fold source.variants?) : c ∈ u := by
  obtain ⟨d, hd, hlink⟩ := CaselessSource.mem_fold_iff_linked.mp hc
  exact hu d (h d hd) c hlink

theorem ClosedUnder.fold_self (hu : u.ClosedUnder source) : u.fold source.variants? = u := by
  apply ext_of_mem_iff
  intro c
  constructor
  · exact hu.mem_of_mem_fold fun _ => id
  · exact mem_fold_of_mem

/-- A property that linked code points share can be asked of either end of a link. -/
theorem exists_linked_and_iff {P : Nat → Prop} (hP : ∀ d, source.Linked d c → (P d ↔ P c)) :
    (∃ d, (d ∈ s ∧ P d) ∧ source.Linked d c) ↔ (∃ d ∈ s, source.Linked d c) ∧ P c := by
  constructor
  · intro ⟨d, ⟨hds, hd⟩, hlink⟩
    exact ⟨⟨d, hds, hlink⟩, (hP d hlink).mp hd⟩
  · intro ⟨⟨d, hds, hlink⟩, hc⟩
    exact ⟨d, ⟨hds, (hP d hlink).mpr hc⟩, hlink⟩

section Equivalence
variable (h : Equivalence source.Linked)
include h

theorem closedUnder_fold (s : CharSet) : (s.fold source.variants?).ClosedUnder source := by
  intro c hc d hlink
  exact CaselessSource.mem_fold_of_linked h hlink hc

theorem ClosedUnder.mem_iff_of_linked (hu : u.ClosedUnder source) (hlink : source.Linked c d) :
    c ∈ u ↔ d ∈ u := by
  constructor
  · intro hc
    exact hu c hc d hlink
  · intro hd
    exact hu d hd c (h.symm hlink)

theorem ClosedUnder.fold_inter (hu : u.ClosedUnder source) (s : CharSet) :
    (s ∩ u).fold source.variants? = s.fold source.variants? ∩ u := by
  apply ext_of_mem_iff
  intro c
  simp only [mem_inter, CaselessSource.mem_fold_iff_linked]
  exact exists_linked_and_iff fun d hlink => hu.mem_iff_of_linked h hlink

theorem ClosedUnder.fold_sdiff (hu : u.ClosedUnder source) (s : CharSet) :
    (s \ u).fold source.variants? = s.fold source.variants? \ u := by
  apply ext_of_mem_iff
  intro c
  simp only [mem_sdiff, CaselessSource.mem_fold_iff_linked]
  exact exists_linked_and_iff fun d hlink => not_congr (hu.mem_iff_of_linked h hlink)

end Equivalence

/-- For any source, a fold has the members of the set and their variants and nothing else, and the
loop over bounds makes it without a fault. So folding loses nothing, keeps inclusions, goes through
unions, and does not depend on how the set was built. If the links of the source are an equivalence,
folding twice is folding once, the fold is the smallest closed set around the set, and folding goes
through the intersection with a closed set and through its difference. -/
theorem fold_exact_and_closing (source : CaselessSource) :
    (∀ s : CharSet, Machine.fold source s.raw = .ok (s.fold source.variants?).raw) ∧
    (∀ (s : CharSet) (d : Nat), (s.fold source.variants?).contains d = true ↔
      s.contains d = true ∨
        ∃ c v, s.contains c = true ∧ source.variants? c = some v ∧ v.contains d = true) ∧
    (∀ s : CharSet, ∀ c ∈ s, c ∈ s.fold source.variants?) ∧
    (∀ s t : CharSet, (∀ c ∈ s, c ∈ t) →
      ∀ c ∈ s.fold source.variants?, c ∈ t.fold source.variants?) ∧
    (∀ s t : CharSet,
      (s ∪ t).fold source.variants? = s.fold source.variants? ∪ t.fold source.variants?) ∧
    (∀ (s t : CharSet) (M N : Nat → Prop), Built s M → Built t N → (∀ c, M c ↔ N c) →
      s.fold source.variants? = t.fold source.variants?) ∧
    (Equivalence source.Linked →
      (∀ s : CharSet,
        (s.fold source.variants?).fold source.variants? = s.fold source.variants? ∧
        (s.fold source.variants?).ClosedUnder source ∧
        ∀ u : CharSet, u.ClosedUnder source → (∀ c ∈ s, c ∈ u) →
          ∀ c ∈ s.fold source.variants?, c ∈ u) ∧
      ∀ s u : CharSet, u.ClosedUnder source →
        (s ∩ u).fold source.variants? = s.fold source.variants? ∩ u ∧
        (s \ u).fold source.variants? = s.fold source.variants? \ u) := by
  refine ⟨Machine.fold_raw source, fun _ _ => contains_fold_iff, fun _ _ => mem_fold_of_mem,
    fun _ _ hst _ => fold_mono hst, fold_union source, ?_, ?_⟩
  · intro s t M N hs ht hMN
    exact hs.fold_eq ht hMN source
  · intro h
    constructor
    · intro s
      have hclosed := closedUnder_fold h s
      exact ⟨hclosed.fold_self, hclosed, fun u hu hsu c => hu.mem_of_mem_fold hsu⟩
    · intro s u hu
      exact ⟨hu.fold_inter h s, hu.fold_sdiff h s⟩

/-- Along links that are no equivalence the code points brought in stay as they are. -/
example :
    let next := fun c : Nat => if h : c < 3 then
      some (ofSpan ⟨c + 1, c + 1, Nat.le_refl _, by unfold CodePoint.last; omega⟩) else none
    let one := ofSpan ⟨1, 1, by decide, by decide⟩
    (one.fold next).toList = [1, 2] ∧ ((one.fold next).fold next).toList = [1, 2, 3] := by
  decide

/-- The letter k, its capital and the Kelvin sign, with a digit: the letters are closed, and folding
the small letter alone or as part of a union brings in the other two and no more. -/
theorem fold_exact_and_closing_kelvin :
    let kelvin := CaselessSource.ofGroup [0x4B, 0x6B, 0x212A]
    let fold := fun s : CharSet => s.fold kelvin.variants?
    let small := ofSpan ⟨0x6B, 0x6B, by decide, by decide⟩
    let digit := ofSpan ⟨0x30, 0x30, by decide, by decide⟩
    let letters := Unicode.VariantTable.groupSet [0x4B, 0x6B, 0x212A]
    Equivalence kelvin.Linked ∧ letters.ClosedUnder kelvin ∧
      (∀ c ∈ small, c ∈ small ∪ digit) ∧ (∀ c ∈ fold small, c ∈ fold (small ∪ digit)) ∧
      Built (small ∪ digit) (fun c => (0x6B ≤ c ∧ c ≤ 0x6B) ∨ 0x30 ≤ c ∧ c ≤ 0x30) ∧
      Built (digit ∪ small) (fun c => (0x30 ≤ c ∧ c ≤ 0x30) ∨ 0x6B ≤ c ∧ c ≤ 0x6B) ∧
      fold (small ∪ digit) = fold (digit ∪ small) ∧
      fold (small ∪ digit) = letters ∪ digit ∧
      fold (fold (small ∪ digit)) = letters ∪ digit ∧
      (∀ c ∈ fold small, c ∈ letters) ∧
      fold ((small ∪ digit) ∩ letters) = letters ∧ fold ((small ∪ digit) \ letters) = digit := by
  intro kelvin fold small digit letters
  obtain ⟨-, -, -, hmono, hunion, hbuilt, hclosing⟩ := fold_exact_and_closing kelvin
  have hkelvin : Equivalence kelvin.Linked := CaselessSource.equivalence_ofGroup _
  obtain ⟨hclosure, hparts⟩ := hclosing hkelvin
  have hletters : letters.ClosedUnder kelvin := by
    have hfolded : small.fold kelvin.variants? = letters := by decide
    rw [← hfolded]
    exact (hclosure small).2.1
  have hinside : ∀ c ∈ small, c ∈ small ∪ digit := by
    intro c hc
    exact mem_union.mpr (.inl hc)
  have hsmall : ∀ c ∈ small, c ∈ letters := by
    intro c hc
    have hk : c = 0x6B := Nat.le_antisymm (mem_ofSpan.mp hc).2 (mem_ofSpan.mp hc).1
    rw [hk, Unicode.VariantTable.mem_groupSet, Unicode.VariantTable.mem_members]
    decide
  have haccepted : Span.ofBounds 0x6B 0x6B = .ok ⟨0x6B, 0x6B, by decide, by decide⟩ := rfl
  have hzero : Span.ofBounds 0x30 0x30 = .ok ⟨0x30, 0x30, by decide, by decide⟩ := rfl
  have hjoined : Built (small ∪ digit) fun c => (0x6B ≤ c ∧ c ≤ 0x6B) ∨ 0x30 ≤ c ∧ c ≤ 0x30 :=
    .union (.ofSpan haccepted) (.ofSpan hzero)
  have hturned : Built (digit ∪ small) fun c => (0x30 ≤ c ∧ c ≤ 0x30) ∨ 0x6B ≤ c ∧ c ≤ 0x6B :=
    .union (.ofSpan hzero) (.ofSpan haccepted)
  have hfold : fold (small ∪ digit) = letters ∪ digit := by
    have hstep : fold (small ∪ digit) = fold small ∪ fold digit := hunion small digit
    rw [hstep]
    decide
  obtain ⟨hinter, hsdiff⟩ := hparts (small ∪ digit) letters hletters
  refine ⟨hkelvin, hletters, hinside, hmono small (small ∪ digit) hinside, hjoined, hturned,
    hbuilt _ _ _ _ hjoined hturned fun c => or_comm, hfold, ?_,
    (hclosure small).2.2 letters hletters hsmall, ?_, ?_⟩
  · exact (hclosure (small ∪ digit)).1.trans hfold
  · have hpart : fold (small ∪ digit) ∩ letters = letters := by
      rw [hfold]
      decide
    exact hinter.trans hpart
  · have hpart : fold (small ∪ digit) \ letters = digit := by
      rw [hfold]
      decide
    exact hsdiff.trans hpart

end CharSet

end ScannerAlphabet
