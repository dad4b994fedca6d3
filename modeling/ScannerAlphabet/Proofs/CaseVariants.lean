import Mathlib.Data.List.Sort
import ScannerAlphabet.Proofs.ReadBack
import ScannerAlphabet.Proofs.VariantGroups

/-!
# Classes and case variants

A source of case variants whose links are an equivalence closes every set that it folds: a code
point is in the fold exactly when those linked to it are. The fold is what a request that
ignores case refines by, before the alphabet clips it, so that no effective set of such a run
tells linked code points apart, and clipping takes none away from the ones that stay. The main
statement says so of the classes and of the codes that are read off for a submitted set.
-/
namespace ScannerAlphabet

namespace CaselessSource
open Unicode.VariantTable
variable {source : CaselessSource} {s : CharSet} {c d : Nat} {g : List Nat}

theorem mem_fold_iff_linked : c ∈ s.fold source.variants? ↔ ∃ d ∈ s, source.Linked d c := by
  rw [CharSet.mem_fold]
  constructor
  · rintro (hc | ⟨d, hd, hv⟩)
    · exact ⟨c, hc, .inl rfl⟩
    · exact ⟨d, hd, .inr hv⟩
  · rintro ⟨d, hd, rfl | hv⟩
    · exact .inl hd
    · exact .inr ⟨d, hd, hv⟩

theorem mem_fold_of_linked (h : Equivalence source.Linked) (hcd : source.Linked c d)
    (hc : c ∈ s.fold source.variants?) : d ∈ s.fold source.variants? := by
  obtain ⟨e, he, hec⟩ := mem_fold_iff_linked.mp hc
  exact mem_fold_iff_linked.mpr ⟨e, he, h.trans hec hcd⟩

/-- A source whose only variants are the members of one group. -/
def ofGroup (g : List Nat) : CaselessSource where
  variants? c := if c ∈ members g then some (groupSet g) else none
  maximum := CodePoint.last
  onFirstLookup := Thunk.mk fun _ => []

theorem linked_ofGroup :
    (ofGroup g).Linked c d ↔ c = d ∨ c ∈ members g ∧ d ∈ members g := by
  have hvariants : (ofGroup g).variants? c =
    if c ∈ members g then some (groupSet g) else none := rfl
  unfold Linked
  rw [hvariants]
  by_cases hc : c ∈ members g
  · rw [if_pos hc]
    simp only [Option.mem_def, Option.some.injEq, exists_eq_left', mem_groupSet, hc, true_and]
  · rw [if_neg hc]
    simp [hc]

theorem equivalence_ofGroup (g : List Nat) : Equivalence (ofGroup g).Linked where
  refl _ := .inl rfl
  symm {c d} h := by
    rw [linked_ofGroup] at h ⊢
    grind
  trans {c d e} h h' := by
    rw [linked_ofGroup] at h h' ⊢
    grind

end CaselessSource

namespace Request
variable {q : Request} {source : CaselessSource}

/-- The request ignores case, if it refines at all. -/
def ignoresCase : Request → Bool
  | .set _ caseless => caseless
  | .char _ caseless => caseless
  | .text _ caseless => caseless
  | .spans _ caseless => caseless
  | .complement _ caseless => caseless
  | .alphabet _ => true

/-- The sets that a request submits, before any folding. -/
def submittedSets : Request → List CharSet
  | .set s _ => [s]
  | .char c _ => (CharSet.single c.toNat).toOption.toList
  | .text s _ =>
      (s.toList.takeWhile fun c => c.toNat ≤ CodePoint.last).filterMap fun c =>
        (CharSet.single c.toNat).toOption
  | .spans l _ => [CharSet.ofSpans l]
  | .complement l _ => [CharSet.ofSpans l]
  | .alphabet _ => []

theorem effectiveChar?_ignoring_case (c : Char) : effectiveChar? (some source) true c =
    (CharSet.single c.toNat).toOption.map fun s => s.fold source.variants? := by
  unfold effectiveChar?
  cases (CharSet.single c.toNat).toOption with
  | none => rfl
  | some s => rfl

/-- A request that ignores case refines by the folds of what it submits. -/
theorem effectiveSets_ignoring_case (h : q.ignoresCase = true) :
    q.effectiveSets (some source) = q.submittedSets.map fun s => s.fold source.variants? := by
  cases q with
  | text s caseless =>
    obtain rfl : caseless = true := h
    rw [effectiveSets, submittedSets, List.map_filterMap]
    exact List.filterMap_congr fun c _ => effectiveChar?_ignoring_case c
  | char c caseless =>
    obtain rfl : caseless = true := h
    rw [effectiveSets, submittedSets, effectiveChar?_ignoring_case, Option.toList_map]
  | set s caseless =>
    obtain rfl : caseless = true := h
    rfl
  | spans l caseless =>
    obtain rfl : caseless = true := h
    rfl
  | complement l caseless =>
    obtain rfl : caseless = true := h
    rfl
  | alphabet n => rfl

end Request

namespace Partition
variable {p : Partition} {source : CaselessSource} {s t : CharSet}

theorem codesMeeting_congr
    (h : ∀ cls ∈ p.classes, (∃ c ∈ cls, c ∈ s) ↔ ∃ c ∈ cls, c ∈ t) :
    p.codesMeeting s = p.codesMeeting t := by
  have hascending : ∀ u : CharSet, (p.codesMeeting u).Pairwise (· < ·) :=
    fun u => p.ascending_codesWhere _
  refine (hascending s).eq_of_mem_iff (hascending t) fun i => ?_
  rw [mem_codesMeeting, mem_codesMeeting]
  exact exists_congr fun cls => and_congr_right fun hcls => h cls (class?_mem hcls)

/-- Where linked code points share classes, folding brings in no other classes. -/
theorem Valid.codesMeeting_fold (hp : p.Valid)
    (hsame : ∀ c d, c ≤ p.maximum → d ≤ p.maximum → source.Linked c d → p.SameClass c d)
    (hle : ∀ c ∈ s, c ≤ p.maximum) :
    p.codesMeeting (s.fold source.variants?) = p.codesMeeting s := by
  refine codesMeeting_congr fun cls hcls => ?_
  constructor
  · intro ⟨c, hc, hcf⟩
    obtain ⟨d, hd, hdc⟩ := CaselessSource.mem_fold_iff_linked.mp hcf
    obtain ⟨u, hu, hdu, hcu⟩ := hsame d c (hle d hd) (hp.le_of_mem hcls hc) hdc
    have hdcls : d ∈ cls := hp.class_eq hu hcls hcu hc ▸ hdu
    exact ⟨d, hdcls, hd⟩
  · intro ⟨c, hc, hcs⟩
    exact ⟨c, hc, CharSet.mem_fold.mpr (.inl hcs)⟩

end Partition

namespace Refiner
variable {p : Partition} {source : CaselessSource} {qs : List Request} {s : CharSet} {c d m : Nat}

/-- Code points that are linked share a class as long as every request ignores case. -/
theorem NeverWidens.sameClass_of_linked (h : (ofPartition p (some source)).NeverWidens qs)
    (hp : Partition.ofMaximum m = .ok p) (hsource : Equivalence source.Linked)
    (hcase : ∀ q ∈ qs, q.ignoresCase = true)
    (hc : c ≤ ((ofPartition p (some source)).run qs).partition.maximum)
    (hd : d ≤ ((ofPartition p (some source)).run qs).partition.maximum)
    (hcd : source.Linked c d) :
    ((ofPartition p (some source)).run qs).partition.SameClass c d := by
  obtain ⟨rfl, hm⟩ := Partition.ofMaximum_eq_ok_iff.mp hp
  have hmax := h.maximum_run_le
  refine (h.sameClass_run (Partition.valid_whole hm) hc hd).mpr ⟨?_, fun f hf => ?_⟩
  · exact Partition.sameClass_whole hm (Nat.le_trans hc hmax) (Nat.le_trans hd hmax)
  · obtain ⟨q, hq, hfq⟩ := List.mem_flatMap.mp hf
    rw [source?_ofPartition, Request.effectiveSets_ignoring_case (hcase q hq)] at hfq
    obtain ⟨s, -, rfl⟩ := List.mem_map.mp hfq
    exact ⟨CaselessSource.mem_fold_of_linked hsource hcd,
      CaselessSource.mem_fold_of_linked hsource (hsource.symm hcd)⟩

/-- Linked code points are in one class, whether the link goes through the alphabet or not; the
codes of a submitted set are those of its fold, and their classes cover what the fold has of the
alphabet. This holds as long as every request ignores case and none widens the alphabet, for any
source whose links are an equivalence, as they are in every version. -/
theorem case_variants_share_classes :
    (∀ v : Unicode.Version,
      Equivalence (Unicode.Database.ofVersion v).caselessSource.Linked) ∧
    (∀ (source : CaselessSource) (m : Nat) (fresh : Partition) (qs : List Request),
      Equivalence source.Linked → Partition.ofMaximum m = .ok fresh →
      (ofPartition fresh (some source)).NeverWidens qs → (∀ q ∈ qs, q.ignoresCase = true) →
      let p := ((ofPartition fresh (some source)).run qs).partition
      (∀ c d e, c ≤ p.maximum → e ≤ p.maximum → source.Linked c d → source.Linked d e →
        ∃ i, p.code c = .ok i ∧ p.code e = .ok i) ∧
      (∀ s ∈ qs.flatMap Request.submittedSets, (∀ c ∈ s, c ≤ p.maximum) →
        p.codesMeeting s = p.codesMeeting (s.fold source.variants?) ∧
        p.unionOf (p.codesMeeting s) = p.clip (s.fold source.variants?))) := by
  refine ⟨Unicode.Database.equivalence_linked_ofVersion, ?_⟩
  intro source m fresh qs hsource hfresh hqs hcase p
  have hreach : (ofPartition fresh (some source)).Reachable := .ofMaximum hfresh (some source)
  have hp : p.Valid := (hreach.run qs).valid
  have hsame : ∀ c d, c ≤ p.maximum → d ≤ p.maximum → source.Linked c d → p.SameClass c d :=
    fun c d hc hd => hqs.sameClass_of_linked hfresh hsource hcase hc hd
  constructor
  · intro c d e hc he hcd hde
    obtain ⟨i, _, hi, -, -⟩ := hp.exists_code hc
    have hcode := (hp.code_eq_code_iff hc).mpr (hsame c e hc he (hsource.trans hcd hde))
    exact ⟨i, hi, hcode ▸ hi⟩
  · intro s hs hle
    have hcodes : p.codesMeeting (s.fold source.variants?) = p.codesMeeting s :=
      hp.codesMeeting_fold hsame hle
    have hread : p.unionOf (p.codesMeeting (s.fold source.variants?)) =
        p.clip (s.fold source.variants?) := by
      refine hp.unionOf_codesMeeting_eq_clip_iff.mpr (hqs.isUnion_clip hreach ?_)
      obtain ⟨q, hq, hsq⟩ := List.mem_flatMap.mp hs
      refine List.mem_flatMap.mpr ⟨q, hq, ?_⟩
      rw [source?_ofPartition, Request.effectiveSets_ignoring_case (hcase q hq)]
      exact List.mem_map_of_mem hsq
    exact ⟨hcodes.symm, hcodes ▸ hread⟩

/-- The small and the capital letter share a class of seven bits although only the Kelvin sign was
submitted before the alphabet was narrowed; the codes of one letter cover both. -/
theorem case_variants_share_classes_kelvin :
    let kelvin := CaselessSource.ofGroup [0x4B, 0x6B, 0x212A]
    let qs : List Request :=
      [.char '\u212A' true, .text "x" true, .alphabet 0x7F, .char 'k' true]
    let small := CharSet.ofSpan ⟨0x6B, 0x6B, by decide, by decide⟩
    let letters := small ∪ CharSet.ofSpan ⟨0x4B, 0x4B, by decide, by decide⟩
    let p := ((ofPartition (Partition.whole CodePoint.last) (some kelvin)).run qs).partition
    Equivalence kelvin.Linked ∧
      Partition.ofMaximum CodePoint.last = .ok (Partition.whole CodePoint.last) ∧
      (ofPartition (Partition.whole CodePoint.last) (some kelvin)).NeverWidens qs ∧
      (∀ q ∈ qs, q.ignoresCase = true) ∧ p.maximum = 0x7F ∧
      (∃ i, p.code 0x4B = .ok i ∧ p.code 0x6B = .ok i) ∧
      p.codesMeeting small = [1] ∧ p.unionOf [1] = letters := by
  intro kelvin qs small letters
  have hkelvin : Equivalence kelvin.Linked := CaselessSource.equivalence_ofGroup _
  have hfresh : Partition.ofMaximum CodePoint.last = .ok (Partition.whole CodePoint.last) := rfl
  have hqs : (ofPartition (Partition.whole CodePoint.last) (some kelvin)).NeverWidens qs :=
    .step (by decide) (.step (by decide) (.step (by decide) (.step (by decide) (.done _))))
  have hcase : ∀ q ∈ qs, q.ignoresCase = true := by decide
  obtain ⟨hcode, hread⟩ :=
    case_variants_share_classes.2 kelvin _ _ qs hkelvin hfresh hqs hcase
  have hmax : ((ofPartition (Partition.whole CodePoint.last) (some kelvin)).run
    qs).partition.maximum = 0x7F := by decide
  have hlink : kelvin.Linked 0x4B 0x212A ∧ kelvin.Linked 0x212A 0x6B := by
    simp [kelvin, CaselessSource.linked_ofGroup, Unicode.VariantTable.mem_members, CodePoint.last]
  have hsmall : small ∈ qs.flatMap Request.submittedSets := by decide
  rw [hmax] at hcode hread
  have hle : ∀ c ∈ small, c ≤ 0x7F := by
    simp only [small, CharSet.mem_ofSpan, Span.mem_def]
    omega
  obtain ⟨-, hunion⟩ := hread small hsmall hle
  have hcodes : ((ofPartition (Partition.whole CodePoint.last) (some kelvin)).run
    qs).partition.codesMeeting small = [1] := by decide
  have hclip : ((ofPartition (Partition.whole CodePoint.last) (some kelvin)).run
    qs).partition.clip (small.fold kelvin.variants?) = letters := by decide
  rw [hcodes, hclip] at hunion
  exact ⟨hkelvin, hfresh, hqs, hcase, hmax,
    hcode 0x4B 0x212A 0x6B (by decide) (by decide) hlink.1 hlink.2, hcodes, hunion⟩

end Refiner

end ScannerAlphabet
