import ScannerAlphabet.Proofs.Reachable

/-!
# Codes are stable under refinement

The classes after a refinement are those of the plain scan, place by place. So the class in a
place only loses members, new classes stand behind the old ones, a set that is a union of
classes changes nothing, and the set becomes such a union. A code point that no set of a run
has keeps the code 0 of the first class.
-/
namespace ScannerAlphabet

namespace Partition
variable {p : Partition} {s t cls : CharSet} {c i : Nat} {l : List CharSet}

/-- The set has all members of some classes, and no others. -/
def IsUnion (p : Partition) (s : CharSet) : Prop :=
  ∃ l, l ⊆ p.classes ∧ ∀ c, c ∈ s ↔ ∃ cls ∈ l, c ∈ cls

/-- A union of classes is a part of the alphabet that cuts no class. -/
theorem Valid.isUnion_iff (hp : p.Valid) :
    p.IsUnion s ↔ (∀ c ∈ s, c ≤ p.maximum) ∧ ∀ cls ∈ p.classes, s.cuts cls = false := by
  constructor
  · rintro ⟨l, hl, hs⟩
    refine ⟨fun c hc => ?_, fun cls hcls => ?_⟩
    · obtain ⟨u, hu, hcu⟩ := (hs c).mp hc
      exact hp.le_of_mem (hl hu) hcu
    · rw [CharSet.cuts_eq_false_iff]
      by_cases hin : cls ∈ l
      · exact .inr fun c hc => (hs c).mpr ⟨cls, hin, hc⟩
      · refine .inl fun c hc hcs => ?_
        obtain ⟨u, hu, hcu⟩ := (hs c).mp hcs
        exact hin (hp.class_eq hcls (hl hu) hc hcu ▸ hu)
  · rintro ⟨hmax, hcuts⟩
    refine ⟨p.classes.filter fun cls => !(cls ∩ s).isEmpty, List.filter_sublist.subset, fun c => ?_⟩
    constructor
    · intro hc
      obtain ⟨cls, hcls, hcc⟩ := (hp.covers c).mpr (hmax c hc)
      refine ⟨cls, List.mem_filter.mpr ⟨hcls, ?_⟩, hcc⟩
      rw [Bool.not_eq_true', ← Bool.not_eq_true, CharSet.isEmpty_iff]
      exact fun h => h c (CharSet.mem_inter.mpr ⟨hcc, hc⟩)
    · rintro ⟨cls, hmem, hcc⟩
      obtain ⟨hcls, hmeets⟩ := List.mem_filter.mp hmem
      rw [Bool.not_eq_true', ← Bool.not_eq_true, CharSet.isEmpty_iff] at hmeets
      rcases CharSet.cuts_eq_false_iff.mp (hcuts cls hcls) with hout | hin
      · refine absurd (fun d hd => ?_) hmeets
        rw [CharSet.mem_inter] at hd
        exact hout d hd.1 hd.2
      · exact hin c hcc

theorem not_cuts_of_mem_plainSplit (ht : t ∈ plainSplit s l) : s.cuts t = false := by
  have hsame : ∀ c ∈ t, ∀ d ∈ t, (c ∈ s ↔ d ∈ s) := fun c hc d hd =>
    (together_plainSplit.mp ⟨t, ht, hc, hd⟩).2
  rw [← Bool.not_eq_true, CharSet.cuts_eq_true_iff]
  rintro ⟨⟨c, hc, hcs⟩, d, hd, hds⟩
  exact hds ((hsame c hc d hd).mp hcs)

theorem Valid.refine_eq_self (hp : p.Valid) (h : ∀ cls ∈ p.classes, s.cuts cls = false) :
    p.refine s = p := by
  have hclasses : (p.refine s).classes = p.classes := by
    obtain ⟨hkept, hpieces⟩ := scan_of_not_cuts h
    rw [hp.classes_refine, plainSplit, hkept, hpieces, List.append_nil]
  obtain ⟨classes, maximum⟩ := p
  exact congrArg (Partition.mk · maximum) hclasses

theorem Valid.isUnion_refine (hp : p.Valid) (hs : ∀ c ∈ s, c ≤ p.maximum) :
    (p.refine s).IsUnion s := by
  refine (hp.refine s).isUnion_iff.mpr ⟨hs, fun t ht => ?_⟩
  rw [hp.classes_refine] at ht
  exact not_cuts_of_mem_plainSplit ht

/-- The class in a place keeps it, with what the set does not cut off. -/
theorem Valid.class?_refine (hp : p.Valid) (h : p.class? i = some cls) :
    (p.refine s).class? i = some (s.staying cls) := by
  have hi := (List.getElem?_eq_some_iff.mp h).choose
  unfold class? at h ⊢
  rw [hp.classes_refine, plainSplit, kept, List.getElem?_append_left (by simpa using hi),
    List.getElem?_map, h]
  rfl

theorem Valid.count_refine (hp : p.Valid) (s : CharSet) :
    (p.refine s).count = p.count + (p.classes.filter s.cuts).length := by
  unfold count
  rw [hp.classes_refine, plainSplit, List.length_append, kept, pieces, List.length_map,
    List.length_map]

/-- A code point outside the set keeps its code. -/
theorem Valid.code_refine (hp : p.Valid) (h : p.code c = .ok i) (hc : ¬ c ∈ s) :
    (p.refine s).code c = .ok i := by
  obtain ⟨cls, hcls, hcc⟩ := hp.code_eq_ok_iff.mp h
  refine (hp.refine s).code_eq_ok_iff.mpr ⟨s.staying cls, hp.class?_refine hcls, ?_⟩
  exact CharSet.mem_staying.mpr ⟨hcc, fun _ => hc⟩

theorem Valid.code_replay_split (hp : p.Valid) (h : p.code c = .ok i) {fs : List CharSet}
    (hfs : ∀ f ∈ fs, ¬ c ∈ f) : (p.replay (fs.map .split)).code c = .ok i := by
  induction fs generalizing p with
  | nil => exact h
  | cons f fs ih =>
    obtain ⟨hf, hfs⟩ := List.forall_mem_cons.mp hfs
    have hclip : ¬ c ∈ p.clip f := fun hc => hf (mem_clip.mp hc).1
    exact ih (hp.refine (p.clip f)) (hp.code_refine h hclip) hfs

theorem code_whole {m : Nat} (hm : m ≤ CodePoint.last) (hc : c ≤ m) : (whole m).code c = .ok 0 :=
  (valid_whole hm).code_eq_ok_iff.mpr
    ⟨CharSet.upTo m, rfl, CharSet.mem_upTo.mpr ⟨hc, Nat.le_trans hc hm⟩⟩

end Partition

namespace Refiner

/-- A refinement makes the list of the plain scan. The class in each place only loses members,
their number does not fall and at most doubles, and the set is a union of classes afterwards;
sets that are unions of classes already change nothing. In a run of refinements a code point of
no effective set keeps the code 0. -/
theorem classes_refined_by_plain_scan :
    (∀ r : Refiner, r.Reachable → ∀ s : CharSet,
      let p := r.partition
      let o := r.apply (.set s false)
      let q := o.refiner.partition
      o.result = .ok () ∧ q.maximum = p.maximum ∧
      q.classes = Partition.plainSplit (p.clip s) p.classes ∧
      (∀ i old, p.class? i = some old → ∃ new, q.class? i = some new ∧ ∀ c ∈ new, c ∈ old) ∧
      p.count ≤ q.count ∧ q.count ≤ 2 * p.count ∧
      q.IsUnion (p.clip s) ∧
      (∀ t, p.IsUnion (p.clip t) → (r.apply (.set t false)).refiner.partition = p) ∧
      (o.refiner.apply (.set s false)).refiner.partition = q) ∧
    (∀ (m : Nat) (p : Partition), Partition.ofMaximum m = .ok p →
      ∀ (source : Option CaselessSource) (qs : List Request), (∀ n, Request.alphabet n ∉ qs) →
      ∀ c ≤ m, (∀ f ∈ qs.flatMap (Request.effectiveSets source), ¬ c ∈ f) →
        ((ofPartition p source).run qs).partition.code c = .ok 0) := by
  refine ⟨fun r hr s => ?_, fun m p hm source qs hqs c hc hout => ?_⟩
  · intro p o q
    have hp : p.Valid := hr.valid
    have hq : q = p.refine (p.clip s) := rfl
    have hunion : q.IsUnion (p.clip s) := hp.isUnion_refine fun c hc => (Partition.mem_clip.mp hc).2
    have hcount : q.count = p.count + (p.classes.filter (p.clip s).cuts).length := hp.count_refine _
    have hfilter : (p.classes.filter (p.clip s).cuts).length ≤ p.count :=
      List.length_filter_le _ _
    refine ⟨rfl, rfl, hp.classes_refine _, fun i old hold => ?_, by omega, by omega, hunion,
      fun t ht => ?_, ?_⟩
    · refine ⟨_, hp.class?_refine hold, fun c hc => ?_⟩
      exact (CharSet.mem_staying.mp hc).1
    · exact hp.refine_eq_self (hp.isUnion_iff.mp ht).2
    · have hvalid : q.Valid := hp.refine _
      exact hvalid.refine_eq_self (hvalid.isUnion_iff.mp hunion).2
  · obtain ⟨rfl, hlast⟩ := Partition.ofMaximum_eq_ok_iff.mp hm
    rw [partition_run, source?_ofPartition, Request.moves_eq_split hqs]
    exact (Partition.valid_whole hlast).code_replay_split (Partition.code_whole hlast hc) hout

/-- Splitting the letters `a` to `f` and the others by `c` to `k` appends both parts inside, the
part of the first class ahead; `z` keeps the code 0. -/
theorem classes_refined_by_plain_scan_letters :
    let letters (lo hi : Nat) (h : lo ≤ hi ∧ hi ≤ CodePoint.last) : CharSet :=
      CharSet.ofSpan ⟨lo, hi, h.1, h.2⟩
    let qs : List Request := [.set (letters 0x61 0x66 (by decide)) false]
    let r := (ofPartition (Partition.whole 0x7F) none).run qs
    let s := letters 0x63 0x6B (by decide)
    r.Reachable ∧ (r.apply (.set s false)).refiner.partition.classes =
      [letters 0 0x60 (by decide) ∪ letters 0x6C 0x7F (by decide), letters 0x61 0x62 (by decide),
        letters 0x67 0x6B (by decide), letters 0x63 0x66 (by decide)] ∧
      r.partition.code 0x7A = .ok 0 := by
  intro letters qs r s
  have hfresh : Partition.ofMaximum 0x7F = .ok (Partition.whole 0x7F) := rfl
  have hr : r.Reachable := (Reachable.ofMaximum hfresh none).run qs
  obtain ⟨-, -, hclasses, -⟩ := classes_refined_by_plain_scan.1 r hr s
  have hqs : ∀ n, Request.alphabet n ∉ qs := by simp [qs]
  have hout : ∀ f ∈ qs.flatMap (Request.effectiveSets none), ¬ 0x7A ∈ f := by
    simp [qs, Request.effectiveSets, Request.effective?, letters, Span.mem_def]
  have hcode := classes_refined_by_plain_scan.2 0x7F _ hfresh none qs hqs 0x7A (by decide) hout
  refine ⟨hr, hclasses.trans ?_, hcode⟩
  decide

end Refiner

end ScannerAlphabet
