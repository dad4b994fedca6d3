import ScannerAlphabet.Proofs.NarrowingRuns
import ScannerAlphabet.Proofs.StableCodes

/-!
# Reading sets back from codes

The codes of a set are those of the classes that meet it, and the other codes belong to its
complement. Both lists are read off by testing classes for common members, so that they cover a
set exactly when it is a union of classes. A set that has been refined stays one while the
alphabet is not widened, which gives the main statement: every effective set of such a run, and
its complement, can be read back from their codes.
-/
namespace ScannerAlphabet

namespace Partition
variable {p : Partition} {s t : CharSet} {f : CharSet → Bool} {c i : Nat} {codes : List Nat}

/-- The code points of the classes with some codes. -/
def unionOf (p : Partition) (codes : List Nat) : CharSet :=
  (codes.filterMap p.class?).foldl (· ∪ ·) ∅

theorem mem_unionOf : c ∈ p.unionOf codes ↔ ∃ i ∈ codes, ∃ s, p.class? i = some s ∧ c ∈ s := by
  unfold unionOf
  rw [CharSet.mem_foldl_union]
  simp only [List.mem_filterMap]
  constructor
  · rintro ⟨s, ⟨i, hi, hs⟩, hc⟩
    exact ⟨i, hi, s, hs, hc⟩
  · rintro ⟨i, hi, s, hs, hc⟩
    exact ⟨s, ⟨i, hi, hs⟩, hc⟩

theorem codesWhere_eq (p : Partition) (f : CharSet → Bool) :
    p.codesWhere f = (p.classes.zipIdx.filter fun x => f x.1).map Prod.snd := by
  unfold codesWhere
  induction p.classes.zipIdx with
  | nil => rfl
  | cons x l ih =>
    cases hf : f x.1 with
    | true => simp [hf, ih]
    | false => simp [hf, ih]

theorem mem_codesWhere : i ∈ p.codesWhere f ↔ ∃ s, p.class? i = some s ∧ f s = true := by
  rw [codesWhere_eq]
  simp only [List.mem_map, List.mem_filter, Prod.exists, List.mem_zipIdx_iff_getElem?]
  constructor
  · rintro ⟨s, j, ⟨hs, hf⟩, rfl⟩
    exact ⟨s, hs, hf⟩
  · rintro ⟨s, hs, hf⟩
    exact ⟨s, i, ⟨hs, hf⟩, rfl⟩

theorem ascending_codesWhere (p : Partition) (f : CharSet → Bool) :
    (p.codesWhere f).Pairwise (· < ·) := by
  have hsub : (p.codesWhere f).Sublist (p.classes.zipIdx.map Prod.snd) := by
    rw [codesWhere_eq]
    exact List.filter_sublist.map _
  rw [List.zipIdx_map_snd, ← List.range_eq_range'] at hsub
  exact List.Pairwise.sublist hsub List.pairwise_lt_range

theorem perm_codesWhere (p : Partition) (f : CharSet → Bool) :
    (p.codesWhere f ++ p.codesWhere fun s => !f s).Perm (List.range p.count) := by
  rw [codesWhere_eq, codesWhere_eq, ← List.map_append]
  have hperm := (List.filter_append_perm (fun x => f x.1) p.classes.zipIdx).map Prod.snd
  rw [List.zipIdx_map_snd, ← List.range_eq_range'] at hperm
  exact hperm

theorem mem_codesMeeting :
    i ∈ p.codesMeeting t ↔ ∃ s, p.class? i = some s ∧ ∃ c ∈ s, c ∈ t := by
  unfold codesMeeting
  simp only [mem_codesWhere, Bool.not_eq_true', ← Bool.not_eq_true, CharSet.isEmpty_iff,
    CharSet.mem_inter, not_forall, not_not]

theorem mem_codesMissing :
    i ∈ p.codesMissing t ↔ ∃ s, p.class? i = some s ∧ ∀ c ∈ s, ¬ c ∈ t := by
  unfold codesMissing
  simp only [mem_codesWhere, CharSet.isEmpty_iff, CharSet.mem_inter, not_and]

theorem perm_codes (p : Partition) (t : CharSet) :
    (p.codesMeeting t ++ p.codesMissing t).Perm (List.range p.count) := by
  have hperm := p.perm_codesWhere fun s => !(s ∩ t).isEmpty
  simp only [Bool.not_not] at hperm
  exact hperm

/-- The classes that meet a set cover what it has of the alphabet, and perhaps more. -/
theorem Valid.mem_unionOf_codesMeeting (hp : p.Valid) : c ∈ p.unionOf (p.codesMeeting t) ↔
    c ≤ p.maximum ∧ ∃ d, p.SameClass c d ∧ d ∈ t := by
  rw [mem_unionOf]
  constructor
  · rintro ⟨i, hi, s, hs, hc⟩
    obtain ⟨s', hs', d, hd, hdt⟩ := mem_codesMeeting.mp hi
    obtain rfl := Option.some.inj (hs.symm.trans hs')
    exact ⟨hp.le_of_mem (class?_mem hs) hc, d, ⟨s, class?_mem hs, hc, hd⟩, hdt⟩
  · rintro ⟨-, d, ⟨s, hs, hc, hd⟩, hdt⟩
    obtain ⟨i, hi⟩ := List.getElem?_of_mem hs
    exact ⟨i, mem_codesMeeting.mpr ⟨s, hi, d, hd, hdt⟩, s, hi, hc⟩

theorem Valid.mem_unionOf_codesMissing (hp : p.Valid) : c ∈ p.unionOf (p.codesMissing t) ↔
    c ≤ p.maximum ∧ ¬ c ∈ p.unionOf (p.codesMeeting t) := by
  rw [hp.mem_unionOf_codesMeeting, mem_unionOf]
  constructor
  · rintro ⟨i, hi, s, hs, hc⟩
    obtain ⟨s', hs', hmiss⟩ := mem_codesMissing.mp hi
    obtain rfl := Option.some.inj (hs.symm.trans hs')
    refine ⟨hp.le_of_mem (class?_mem hs) hc, ?_⟩
    rintro ⟨-, d, ⟨u, hu, hcu, hdu⟩, hdt⟩
    obtain rfl := hp.class_eq hu (class?_mem hs) hcu hc
    exact hmiss d hdu hdt
  · rintro ⟨hmax, hmiss⟩
    obtain ⟨i, s, hi, hc⟩ := hp.exists_class? hmax
    refine ⟨i, mem_codesMissing.mpr ⟨s, hi, fun d hd hdt => hmiss ?_⟩, s, hi, hc⟩
    exact ⟨hmax, d, ⟨s, class?_mem hi, hc, hd⟩, hdt⟩

/-- A set is read back exactly when what it has of the alphabet is a union of classes. -/
theorem Valid.unionOf_codesMeeting_eq_clip_iff (hp : p.Valid) :
    p.unionOf (p.codesMeeting t) = p.clip t ↔ p.IsUnion (p.clip t) := by
  constructor
  · intro h
    refine ⟨(p.codesMeeting t).filterMap p.class?, fun s hs => ?_, fun c => ?_⟩
    · obtain ⟨i, -, hi⟩ := List.mem_filterMap.mp hs
      exact class?_mem hi
    · rw [← h]
      exact CharSet.mem_foldl_union
  · rintro ⟨l, hl, hunion⟩
    refine CharSet.ext_of_mem_iff fun c => ?_
    rw [hp.mem_unionOf_codesMeeting]
    constructor
    · rintro ⟨-, d, ⟨s, hs, hc, hd⟩, hdt⟩
      obtain ⟨u, hu, hdu⟩ := (hunion d).mp (mem_clip.mpr ⟨hdt, hp.le_of_mem hs hd⟩)
      obtain rfl := hp.class_eq hs (hl hu) hd hdu
      exact (hunion c).mpr ⟨s, hu, hc⟩
    · intro hc
      obtain ⟨hct, hmax⟩ := mem_clip.mp hc
      obtain ⟨s, hs, hcs⟩ := (hp.covers c).mpr hmax
      exact ⟨hmax, c, ⟨s, hs, hcs, hcs⟩, hct⟩

theorem clip_eq_self (h : ∀ c ∈ t, c ≤ p.maximum) : p.clip t = t := by
  refine CharSet.ext_of_mem_iff fun c => ?_
  rw [mem_clip, and_iff_left_of_imp (h c)]

theorem Valid.unionOf_codesMeeting_of_isUnion (hp : p.Valid) (h : p.IsUnion t) :
    p.unionOf (p.codesMeeting t) = t := by
  have hclip : p.clip t = t := clip_eq_self (hp.isUnion_iff.mp h).1
  have hread := hp.unionOf_codesMeeting_eq_clip_iff.mpr (hclip.symm ▸ h)
  exact hread.trans hclip

theorem Valid.unionOf_codesMissing (hp : p.Valid) :
    p.unionOf (p.codesMissing t) = CharSet.upTo p.maximum \ p.unionOf (p.codesMeeting t) := by
  refine CharSet.ext_of_mem_iff fun c => ?_
  rw [hp.mem_unionOf_codesMissing, CharSet.mem_sdiff, CharSet.mem_upTo]
  have hlast : c ≤ p.maximum → c ≤ CodePoint.last := fun hc => Nat.le_trans hc hp.maximum_le
  tauto

theorem Valid.isUnion_clip_of_sameClass (hp : p.Valid)
    (h : ∀ c d, c ≤ p.maximum → d ≤ p.maximum → p.SameClass c d → (c ∈ t ↔ d ∈ t)) :
    p.IsUnion (p.clip t) := by
  refine hp.isUnion_iff.mpr ⟨fun c hc => (mem_clip.mp hc).2, fun s hs => ?_⟩
  rw [← Bool.not_eq_true, CharSet.cuts_eq_true_iff]
  rintro ⟨⟨c, hc, hct⟩, d, hd, hdt⟩
  have hmax := hp.le_of_mem hs hd
  have hsame := h c d (hp.le_of_mem hs hc) hmax ⟨s, hs, hc, hd⟩
  exact hdt (mem_clip.mpr ⟨hsame.mp (mem_clip.mp hct).1, hmax⟩)

end Partition

namespace Refiner
variable {r : Refiner} {qs : List Request} {f : CharSet}

/-- An effective set of the run is a union of classes at its end. -/
theorem NeverWidens.isUnion_clip (h : r.NeverWidens qs) (hr : r.Reachable)
    (hf : f ∈ qs.flatMap (Request.effectiveSets r.source?)) :
    (r.run qs).partition.IsUnion ((r.run qs).partition.clip f) := by
  refine (hr.run qs).valid.isUnion_clip_of_sameClass fun c d hc hd hsame => ?_
  exact ((h.sameClass_run hr.valid hc hd).mp hsame).2 f hf

/-- The codes of a set and those of its complement are ascending and are all codes, each once; the
classes of a set cover what it has of the alphabet exactly when that is a union of classes. In a
run that never widens the alphabet this holds of every effective set so far, and the other
classes cover its complement. -/
theorem codes_read_back :
    (∀ r : Refiner, r.Reachable → ∀ t : CharSet,
      let p := r.partition
      (p.codesMeeting t).Pairwise (· < ·) ∧ (p.codesMissing t).Pairwise (· < ·) ∧
      (p.codesMeeting t ++ p.codesMissing t).Perm (List.range p.count) ∧
      (p.unionOf (p.codesMeeting t) = p.clip t ↔ p.IsUnion (p.clip t))) ∧
    (∀ r : Refiner, r.Reachable → ∀ qs : List Request, r.NeverWidens qs →
      let p := (r.run qs).partition
      ∀ f ∈ qs.flatMap (Request.effectiveSets r.source?),
        p.unionOf (p.codesMeeting f) = p.clip f ∧
        p.unionOf (p.codesMissing f) = CharSet.upTo p.maximum \ f) := by
  constructor
  · intro r hr t p
    exact ⟨p.ascending_codesWhere _, p.ascending_codesWhere _, p.perm_codes t,
      hr.valid.unionOf_codesMeeting_eq_clip_iff⟩
  · intro r hr qs hqs p f hf
    have hp : p.Valid := (hr.run qs).valid
    have hread : p.unionOf (p.codesMeeting f) = p.clip f :=
      hp.unionOf_codesMeeting_eq_clip_iff.mpr (hqs.isUnion_clip hr hf)
    refine ⟨hread, CharSet.ext_of_mem_iff fun c => ?_⟩
    rw [hp.unionOf_codesMissing, hread, CharSet.mem_sdiff, CharSet.mem_sdiff, CharSet.mem_upTo,
      Partition.mem_clip]
    tauto

/-- A set that reaches beyond the alphabet of seven bits is read back from two codes after `x` was
split off from it, a narrowing clipped it and a further narrowing was refused. -/
theorem codes_read_back_after_clipping :
    let s := CharSet.ofSpan ⟨0x41, 0xDE, by decide, by decide⟩
    let qs : List Request := [.set s false, .char 'x' false, .alphabet 0x7F, .alphabet 0x10]
    let r := ofPartition (Partition.whole 0xFF) none
    let p := (r.run qs).partition
    r.Reachable ∧ r.NeverWidens qs ∧ p.maximum = 0x7F ∧
      p.codesMeeting s = [1, 2] ∧ p.unionOf [1, 2] = p.clip s ∧
      p.codesMissing s = [0] ∧ p.unionOf [0] = CharSet.upTo 0x7F \ s ∧
      p.IsUnion (p.clip s) := by
  intro s qs r p
  have hr : r.Reachable := .ofMaximum (show Partition.ofMaximum 0xFF = .ok _ from rfl) none
  have hqs : r.NeverWidens qs :=
    .step (by decide) (.step (by decide) (.step (by decide) (.step (by decide) (.done _))))
  have hs : s ∈ qs.flatMap (Request.effectiveSets r.source?) := List.mem_cons_self
  obtain ⟨hmeeting, hmissing⟩ := codes_read_back.2 r hr qs hqs s hs
  have hmax : p.maximum = 0x7F := by decide
  have hcodes : p.codesMeeting s = [1, 2] := by decide
  have hothers : p.codesMissing s = [0] := by decide
  obtain ⟨-, -, -, hunion⟩ := codes_read_back.1 (r.run qs) (hr.run qs) s
  exact ⟨hr, hqs, hmax, hcodes, hcodes ▸ hmeeting, hothers, hmax ▸ hothers ▸ hmissing,
    hunion.mp hmeeting⟩

end Refiner

end ScannerAlphabet
