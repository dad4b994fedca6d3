import ScannerAlphabet.Proofs.Reachable

/-!
# The coarsest partition

A run of refinements separates two code points exactly when one of its effective sets does:
each split keeps together who was together and is on the same side of the set, and nothing else
happens in such a run. So the classes, up to their order, depend on nothing but the distinctions
that the sets make in the alphabet. The order of the requests, repetitions, and exchanging a set
for its complement do not matter.
-/
namespace ScannerAlphabet

/-- Two sets make the same distinction in an alphabet if they agree there or are complements. -/
def CharSet.SameCut (maximum : Nat) (s t : CharSet) : Prop :=
  s ∩ upTo maximum = t ∩ upTo maximum ∨ s ∩ upTo maximum = upTo maximum \ t

theorem CharSet.SameCut.iff {m c d : Nat} {s t : CharSet} (h : SameCut m s t)
    (hm : m ≤ CodePoint.last) (hc : c ≤ m) (hd : d ≤ m) :
    (c ∈ s ↔ d ∈ s) ↔ (c ∈ t ↔ d ∈ t) := by
  have hin : ∀ e ≤ m, (e ∈ s ↔ e ∈ s ∩ upTo m) := by
    intro e he
    rw [mem_inter, mem_upTo, and_iff_left ⟨he, Nat.le_trans he hm⟩]
  have hside : (∀ e ≤ m, (e ∈ s ↔ e ∈ t)) ∨ ∀ e ≤ m, (e ∈ s ↔ ¬ e ∈ t) := by
    rcases h with h | h
    · refine .inl fun e he => ?_
      rw [hin e he, h, mem_inter, mem_upTo, and_iff_left ⟨he, Nat.le_trans he hm⟩]
    · refine .inr fun e he => ?_
      rw [hin e he, h, mem_sdiff, mem_upTo, and_iff_right ⟨he, Nat.le_trans he hm⟩]
  rcases hside with hside | hside
  · rw [hside c hc, hside d hd]
  · rw [hside c hc, hside d hd, not_iff_not]

namespace Partition
variable {p : Partition} {c d : Nat}

theorem maximum_replay_split (p : Partition) (fs : List CharSet) :
    (p.replay (fs.map .split)).maximum = p.maximum := by
  induction fs generalizing p with
  | nil => rfl
  | cons f fs ih => exact ih _

/-- After some splits two code points are together if they were and no set tells them apart. -/
theorem Valid.sameClass_replay_split (hp : p.Valid) (hc : c ≤ p.maximum) (hd : d ≤ p.maximum)
    (fs : List CharSet) : (p.replay (fs.map .split)).SameClass c d ↔
      p.SameClass c d ∧ ∀ f ∈ fs, (c ∈ f ↔ d ∈ f) := by
  induction fs generalizing p with
  | nil => simp
  | cons f fs ih =>
    have hclip : (c ∈ p.clip f ↔ d ∈ p.clip f) ↔ (c ∈ f ↔ d ∈ f) := by
      rw [mem_clip, mem_clip, and_iff_left hc, and_iff_left hd]
    have hrest := ih (hp.refine (p.clip f)) hc hd
    rw [List.forall_mem_cons, ← and_assoc, ← hclip, ← hp.sameClass_refine]
    exact hrest

theorem sameClass_whole {m : Nat} (hm : m ≤ CodePoint.last) (hc : c ≤ m) (hd : d ≤ m) :
    (whole m).SameClass c d :=
  ⟨CharSet.upTo m, List.mem_singleton.mpr rfl, CharSet.mem_upTo.mpr ⟨hc, Nat.le_trans hc hm⟩,
    CharSet.mem_upTo.mpr ⟨hd, Nat.le_trans hd hm⟩⟩

end Partition

namespace Refiner
variable {m c d : Nat} {p : Partition} {source source' : Option CaselessSource}
  {qs qs' : List Request}

theorem partition_run_of_fresh (hp : Partition.ofMaximum m = .ok p)
    (hqs : ∀ n, Request.alphabet n ∉ qs) : ((ofPartition p source).run qs).partition =
      (Partition.whole m).replay ((qs.flatMap (Request.effectiveSets source)).map .split) := by
  obtain ⟨rfl, -⟩ := Partition.ofMaximum_eq_ok_iff.mp hp
  rw [partition_run, source?_ofPartition, Request.moves_eq_split hqs]
  rfl

theorem sameClass_run (hp : Partition.ofMaximum m = .ok p)
    (hqs : ∀ n, Request.alphabet n ∉ qs) (hc : c ≤ m) (hd : d ≤ m) :
    ((ofPartition p source).run qs).partition.SameClass c d ↔
      ∀ f ∈ qs.flatMap (Request.effectiveSets source), (c ∈ f ↔ d ∈ f) := by
  have hm := (Partition.ofMaximum_eq_ok_iff.mp hp).2
  rw [partition_run_of_fresh hp hqs, (Partition.valid_whole hm).sameClass_replay_split hc hd,
    and_iff_right (Partition.sameClass_whole hm hc hd)]

theorem maximum_run (hp : Partition.ofMaximum m = .ok p) (hqs : ∀ n, Request.alphabet n ∉ qs) :
    ((ofPartition p source).run qs).partition.maximum = m := by
  rw [partition_run_of_fresh hp hqs, Partition.maximum_replay_split]
  rfl

/-- Runs whose sets make the same distinctions have the same classes. -/
theorem perm_run (hp : Partition.ofMaximum m = .ok p) (hqs : ∀ n, Request.alphabet n ∉ qs)
    (hqs' : ∀ n, Request.alphabet n ∉ qs')
    (hfwd : ∀ f ∈ qs.flatMap (Request.effectiveSets source),
      ∃ g ∈ qs'.flatMap (Request.effectiveSets source'), CharSet.SameCut m f g)
    (hbwd : ∀ g ∈ qs'.flatMap (Request.effectiveSets source'),
      ∃ f ∈ qs.flatMap (Request.effectiveSets source), CharSet.SameCut m f g) :
    ((ofPartition p source).run qs).partition.classes.Perm
      ((ofPartition p source').run qs').partition.classes := by
  have hm := (Partition.ofMaximum_eq_ok_iff.mp hp).2
  have hmax : ((ofPartition p source).run qs).partition.maximum = m := maximum_run hp hqs
  refine ((Reachable.ofMaximum hp source).run qs).valid.perm_of_sameClass
    ((Reachable.ofMaximum hp source').run qs').valid (hmax.trans (maximum_run hp hqs').symm)
    fun c d hc hd => ?_
  rw [hmax] at hc hd
  rw [sameClass_run hp hqs hc hd, sameClass_run hp hqs' hc hd]
  constructor
  · intro h g hg
    obtain ⟨f, hf, hcut⟩ := hbwd g hg
    exact (hcut.iff hm hc hd).mp (h f hf)
  · intro h f hf
    obtain ⟨g, hg, hcut⟩ := hfwd f hf
    exact (hcut.iff hm hc hd).mpr (h g hg)

/-- After refinements of a fresh alphabet two code points have one code exactly when no effective
set tells them apart. The classes are the same, up to their order, for all requests whose sets
agree in the alphabet up to complements, and so for the same requests in any order and number. -/
theorem run_classes_coarsest (hp : Partition.ofMaximum m = .ok p)
    (source : Option CaselessSource) (hqs : ∀ n, Request.alphabet n ∉ qs) :
    (∀ c d, c ≤ m → d ≤ m →
      (((ofPartition p source).run qs).partition.code c =
          ((ofPartition p source).run qs).partition.code d ↔
        ∀ f ∈ qs.flatMap (Request.effectiveSets source), (c ∈ f ↔ d ∈ f))) ∧
    (∀ (source' : Option CaselessSource) (qs' : List Request),
      (∀ n, Request.alphabet n ∉ qs') →
      (∀ f ∈ qs.flatMap (Request.effectiveSets source),
        ∃ g ∈ qs'.flatMap (Request.effectiveSets source'), CharSet.SameCut m f g) →
      (∀ g ∈ qs'.flatMap (Request.effectiveSets source'),
        ∃ f ∈ qs.flatMap (Request.effectiveSets source), CharSet.SameCut m f g) →
      ((ofPartition p source).run qs).partition.classes.Perm
        ((ofPartition p source').run qs').partition.classes) ∧
    (∀ qs' : List Request, (∀ q, q ∈ qs ↔ q ∈ qs') →
      ((ofPartition p source).run qs).partition.classes.Perm
        ((ofPartition p source).run qs').partition.classes) := by
  refine ⟨fun c d hc hd => ?_, fun source' qs' hqs' => perm_run hp hqs hqs', fun qs' hmem => ?_⟩
  · have hvalid := ((Reachable.ofMaximum hp source).run qs).valid
    rw [hvalid.code_eq_code_iff ((maximum_run hp hqs).symm ▸ hc), sameClass_run hp hqs hc hd]
  · have hsets : ∀ f, f ∈ qs.flatMap (Request.effectiveSets source) ↔
        f ∈ qs'.flatMap (Request.effectiveSets source) := by
      intro f
      simp only [List.mem_flatMap, hmem]
    exact perm_run hp hqs (fun n hn => hqs n ((hmem _).mpr hn))
      (fun f hf => ⟨f, (hsets f).mp hf, .inl rfl⟩) (fun g hg => ⟨g, (hsets g).mpr hg, .inl rfl⟩)

/-- The letters `c` and `d` stay together while `a` and `b` are told apart, and the classes
do not depend on the order and number of the requests. -/
theorem run_classes_coarsest_latin :
    let qs : List Request := [.char 'k' false, .text "a😀b" false]
    let qs' : List Request := [.text "a😀b" false, .char 'k' false, .char 'k' false]
    let r := ofPartition (Partition.whole 0xFF) none
    Partition.ofMaximum 0xFF = .ok (Partition.whole 0xFF) ∧ (∀ n, Request.alphabet n ∉ qs) ∧
      (r.run qs).partition.code 0x63 = (r.run qs).partition.code 0x64 ∧
      (r.run qs).partition.code 0x61 ≠ (r.run qs).partition.code 0x62 ∧
      (r.run qs).partition.classes.Perm (r.run qs').partition.classes := by
  intro qs qs' r
  have hqs : ∀ n, Request.alphabet n ∉ qs := by simp [qs]
  have hsets : qs.flatMap (Request.effectiveSets none) =
      [CharSet.ofSpan ⟨0x6B, 0x6B, by decide, by decide⟩,
        CharSet.ofSpan ⟨0x61, 0x61, by decide, by decide⟩] := by decide
  obtain ⟨hcode, -, hperm⟩ := run_classes_coarsest (m := 0xFF) rfl none hqs
  rw [hsets] at hcode
  refine ⟨rfl, hqs, (hcode _ _ (by decide) (by decide)).mpr ?_, fun h => ?_, hperm qs' ?_⟩
  · simp [Span.mem_def]
  · have htold := (hcode _ _ (by decide) (by decide)).mp h
    simp [Span.mem_def] at htold
  · simp [qs, qs', or_comm]

end Refiner

end ScannerAlphabet
