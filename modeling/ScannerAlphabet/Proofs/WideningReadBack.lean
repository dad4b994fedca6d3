import ScannerAlphabet.Proofs.ReadBack

/-!
# Reading sets back after widening

A wider alphabet puts its new code points into the first class, and changes neither the codes
that meet an older set nor those that miss it. So a set is still read back as long as the first
class lies outside it. Once the refinements have left in the first class only members of the
set, the new code points are read back with it, although no refinement has named them.
-/
namespace ScannerAlphabet

namespace Partition
variable {p : Partition} {s : CharSet} {added : Span} {c i M : Nat} {codes : List Nat}

theorem class?_widen (p : Partition) (added : Span) (i : Nat) :
    (p.widen added).class? i =
      (p.class? i).map fun s => if i = 0 then s.insertSpan added else s := by
  unfold class? widen
  cases p.classes with
  | nil => rfl
  | cons first rest =>
    cases i with
    | zero => rfl
    | succ i => simp

theorem codesWhere_widen {f : CharSet → Bool} (hf : ∀ s, f (s.insertSpan added) = f s) :
    (p.widen added).codesWhere f = p.codesWhere f := by
  unfold codesWhere widen
  cases p.classes with
  | nil => rfl
  | cons first rest => simp only [List.zipIdx_cons, List.filterMap_cons, hf]

theorem codesMeeting_widen (hs : ∀ c ∈ s, c < added.lo) :
    (p.widen added).codesMeeting s = p.codesMeeting s := by
  refine codesWhere_widen fun t => ?_
  have hinter : t.insertSpan added ∩ s = t ∩ s := by
    refine CharSet.ext_of_mem_iff fun c => ?_
    rw [CharSet.mem_inter, CharSet.mem_inter, CharSet.mem_insertSpan]
    constructor
    · rintro ⟨hc | hc, hcs⟩
      · have hlt := hs c hcs
        have hle := hc.1
        omega
      · exact ⟨hc, hcs⟩
    · exact fun hc => ⟨.inr hc.1, hc.2⟩
  rw [hinter]

theorem exists_first (hcount : 0 < p.count) : ∃ first, p.class? 0 = some first :=
  ⟨_, List.getElem?_eq_getElem hcount⟩

theorem mem_unionOf_widen (hcount : 0 < p.count) : c ∈ (p.widen added).unionOf codes ↔
    c ∈ p.unionOf codes ∨ (0 ∈ codes ∧ c ∈ added) := by
  simp only [mem_unionOf, class?_widen, Option.map_eq_some_iff]
  constructor
  · rintro ⟨i, hi, _, ⟨s, hs, rfl⟩, hc⟩
    split at hc
    · rename_i hzero
      rcases CharSet.mem_insertSpan.mp hc with hc | hc
      · exact .inr ⟨hzero ▸ hi, hc⟩
      · exact .inl ⟨i, hi, s, hs, hc⟩
    · exact .inl ⟨i, hi, s, hs, hc⟩
  · rintro (⟨i, hi, s, hs, hc⟩ | ⟨hzero, hc⟩)
    · refine ⟨i, hi, _, ⟨s, hs, rfl⟩, ?_⟩
      split
      · exact CharSet.mem_insertSpan.mpr (.inr hc)
      · exact hc
    · obtain ⟨first, hfirst⟩ := exists_first hcount
      exact ⟨0, hzero, _, ⟨first, hfirst, rfl⟩, CharSet.mem_insertSpan.mpr (.inl hc)⟩

/-- A union of classes has all of the first class, and then meets its code, or nothing of it. -/
theorem Valid.first_cases (hp : p.Valid) (h : p.IsUnion s) {first : CharSet}
    (hfirst : p.class? 0 = some first) :
    ((∀ c ∈ first, c ∈ s) ∧ 0 ∈ p.codesMeeting s) ∨
      ((∀ c ∈ first, ¬ c ∈ s) ∧ ¬ 0 ∈ p.codesMeeting s) := by
  rw [mem_codesMeeting, hfirst]
  simp only [Option.some.injEq, exists_eq_left']
  have hmem := class?_mem hfirst
  rcases CharSet.cuts_eq_false_iff.mp ((hp.isUnion_iff.mp h).2 first hmem) with hout | hin
  · exact .inr ⟨hout, fun ⟨c, hc, hcs⟩ => hout c hc hcs⟩
  · obtain ⟨c, hc⟩ := hp.nonempty first hmem
    exact .inl ⟨hin, c, hc, hin c hc⟩

/-- A change to an alphabet that is not smaller succeeds. The classes that meet an older set cover
what they did, and the new code points besides if the first class is among them. -/
theorem Valid.exists_resize (hp : p.Valid) (hle : p.maximum ≤ M) (hM : M ≤ CodePoint.last) :
    ∃ q, p.resize M = .ok q ∧ q.Valid ∧ q.maximum = M ∧
      ∀ s : CharSet, (∀ c ∈ s, c ≤ p.maximum) → ∀ c, c ∈ q.unionOf (q.codesMeeting s) ↔
        c ∈ p.unionOf (p.codesMeeting s) ∨
          (0 ∈ p.codesMeeting s ∧ p.maximum < c ∧ c ≤ M) := by
  rcases Nat.eq_or_lt_of_le hle with rfl | hlt
  · refine ⟨p, hp.resize_self, hp, rfl, fun s _ c => (or_iff_left ?_).symm⟩
    omega
  · have hresize := resize_of_lt hlt hM
    refine ⟨_, hresize, hp.resize hresize, rfl, fun s hs c => ?_⟩
    rw [codesMeeting_widen fun c hc => Nat.lt_succ_of_le (hs c hc), mem_unionOf_widen hp.count_pos]
    rfl

end Partition

namespace Refiner
variable {m M : Nat} {p : Partition} {source : Option CaselessSource} {qs : List Request}

/-- After refinements by sets of the alphabet and a widening, each of the sets has one of two
relations to the class that came first: it has no member of it and is read back, or it has
all of them, and what is read back has all new code points besides. -/
theorem read_back_after_widening (hp : Partition.ofMaximum m = .ok p) (hmM : m ≤ M)
    (hM : M ≤ CodePoint.last) (hqs : ∀ n, Request.alphabet n ∉ qs)
    (hsets : ∀ f ∈ qs.flatMap (Request.effectiveSets source), ∀ c ∈ f, c ≤ m) :
    let r := (ofPartition p source).run qs
    let o := r.apply (.alphabet M)
    let q := o.refiner.partition
    o.result = .ok () ∧ ∃ first, r.partition.class? 0 = some first ∧
      ∀ s ∈ qs.flatMap (Request.effectiveSets source),
        ((∀ c ∈ first, ¬ c ∈ s) ∧ q.unionOf (q.codesMeeting s) = s ∧
          q.unionOf (q.codesMissing s) = CharSet.upTo M \ s) ∨
        ((∀ c ∈ first, c ∈ s) ∧
          q.unionOf (q.codesMeeting s) = s ∪ (CharSet.upTo M \ CharSet.upTo m) ∧
          q.unionOf (q.codesMissing s) = CharSet.upTo m \ s) := by
  intro r o q
  have hfresh : (ofPartition p source).Reachable := .ofMaximum hp source
  have hr : r.partition.Valid := (hfresh.run qs).valid
  have hmax : r.partition.maximum = m := maximum_run hp hqs
  obtain ⟨q', hresize, hq', hmax', hmem⟩ := hr.exists_resize (hmax ▸ hmM) hM
  obtain ⟨hresult, hafter⟩ := apply_alphabet_of_ok hresize
  have hq : q = q' := hafter
  obtain ⟨first, hfirst⟩ := Partition.exists_first hr.count_pos
  refine ⟨hresult, first, hfirst, fun s hs => ?_⟩
  have hin : ∀ c ∈ s, c ≤ r.partition.maximum := fun c hc => hmax ▸ hsets s hs c hc
  have hunion : r.partition.IsUnion s := by
    rw [← Partition.clip_eq_self hin]
    exact (NeverWidens.of_fixed_alphabet hqs).isUnion_clip hfresh (by rwa [source?_ofPartition])
  have hmeeting : ∀ c, c ∈ q.unionOf (q.codesMeeting s) ↔
      c ∈ s ∨ (0 ∈ r.partition.codesMeeting s ∧ m < c ∧ c ≤ M) := by
    intro c
    rw [hq, hmem s hin c, hr.unionOf_codesMeeting_of_isUnion hunion, hmax]
  have hmissing : q.unionOf (q.codesMissing s) =
      CharSet.upTo M \ q.unionOf (q.codesMeeting s) := by
    rw [hq, hq'.unionOf_codesMissing, hmax']
  rcases hr.first_cases hunion hfirst with ⟨hall, hzero⟩ | ⟨hout, hzero⟩
  · have hread : q.unionOf (q.codesMeeting s) = s ∪ (CharSet.upTo M \ CharSet.upTo m) := by
      refine CharSet.ext_of_mem_iff fun c => ?_
      rw [hmeeting, CharSet.mem_union, CharSet.mem_sdiff, CharSet.mem_upTo, CharSet.mem_upTo]
      grind
    refine .inr ⟨hall, hread, ?_⟩
    rw [hmissing, hread]
    refine CharSet.ext_of_mem_iff fun c => ?_
    simp only [CharSet.mem_sdiff, CharSet.mem_union, CharSet.mem_upTo]
    grind
  · have hread : q.unionOf (q.codesMeeting s) = s := by
      refine CharSet.ext_of_mem_iff fun c => ?_
      rw [hmeeting, or_iff_left fun h => hzero h.1]
    exact .inl ⟨hout, hread, by rw [hmissing, hread]⟩

/-- Small letters and the rest of seven bits, widened to eight: the letters are read back, the rest
gains what is new. -/
theorem read_back_after_widening_letters :
    let letters := CharSet.ofSpan ⟨0x61, 0x7A, by decide, by decide⟩
    let others := CharSet.upTo 0x7F \ letters
    let qs : List Request := [.set letters false, .set others false]
    let r := (ofPartition (Partition.whole 0x7F) none).run qs
    let o := r.apply (.alphabet 0xFF)
    let q := o.refiner.partition
    Partition.ofMaximum 0x7F = .ok (Partition.whole 0x7F) ∧ (∀ n, Request.alphabet n ∉ qs) ∧
      (∀ f ∈ qs.flatMap (Request.effectiveSets none), ∀ c ∈ f, c ≤ 0x7F) ∧
      o.result = .ok () ∧ r.partition.class? 0 = some others ∧
      q.unionOf (q.codesMeeting letters) = letters ∧
      q.unionOf (q.codesMeeting others) = others ∪ (CharSet.upTo 0xFF \ CharSet.upTo 0x7F) := by
  intro letters others qs
  have hfresh : Partition.ofMaximum 0x7F = .ok (Partition.whole 0x7F) := rfl
  have hqs : ∀ n, Request.alphabet n ∉ qs := by simp [qs]
  have hsets : ∀ f ∈ qs.flatMap (Request.effectiveSets none), ∀ c ∈ f, c ≤ 0x7F := by
    have heffective : qs.flatMap (Request.effectiveSets none) = [letters, others] := rfl
    rw [heffective]
    simp only [List.forall_mem_cons, letters, others, CharSet.mem_ofSpan, CharSet.mem_sdiff,
      CharSet.mem_upTo, Span.mem_def]
    grind
  obtain ⟨hresult, first, hfirst, hread⟩ :=
    read_back_after_widening hfresh (by decide : 0x7F ≤ 0xFF) (by decide) hqs hsets
  have hclass : ((ofPartition (Partition.whole 0x7F) none).run qs).partition.class? 0 =
      some others := by decide
  obtain rfl : others = first := Option.some.inj (hclass.symm.trans hfirst)
  have hnul : 0 ∈ others ∧ ¬ 0 ∈ letters := by simp [others, letters, Span.mem_def]
  refine ⟨hfresh, hqs, hsets, hresult, hclass, ?_, ?_⟩
  · rcases hread letters List.mem_cons_self with ⟨-, h, -⟩ | ⟨hall, -⟩
    · exact h
    · exact absurd (hall 0 hnul.1) hnul.2
  · rcases hread others (List.mem_cons_of_mem _ List.mem_cons_self) with ⟨hout, -⟩ | ⟨-, h, -⟩
    · exact absurd hnul.1 (hout 0 hnul.1)
    · exact h

/-- All of a seven-bit alphabet but the small letters is refined and lies in the alphabet, and is
not read back from its one code in eight bits: its class has the new code points too, and they are
missing in its complement. -/
theorem not_read_back_after_widening :
    let letters := CharSet.ofSpan ⟨0x61, 0x7A, by decide, by decide⟩
    let others := CharSet.upTo 0x7F \ letters
    let qs : List Request := [.set letters false, .set others false]
    let o := ((ofPartition (Partition.whole 0x7F) none).run qs).apply (.alphabet 0xFF)
    let q := o.refiner.partition
    qs.flatMap (Request.effectiveSets none) = [letters, others] ∧ o.result = .ok () ∧
      q.codesMeeting others = [0] ∧ q.unionOf (q.codesMeeting others) ≠ others ∧
      q.codesMissing others = [1] ∧
      q.unionOf (q.codesMissing others) ≠ CharSet.upTo 0xFF \ others := by
  decide

end Refiner

end ScannerAlphabet
