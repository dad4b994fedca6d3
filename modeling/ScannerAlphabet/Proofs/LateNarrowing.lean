import ScannerAlphabet.Proofs.NarrowingRuns

/-!
# Narrowing late and starting narrow

The alphabet may be narrowed after the refinements or before them. A late narrowing is refused
when a class has no member left, and that happens exactly when the narrow alphabet alone would
have fewer classes. When it succeeds, every class on the way had members left on both sides of
each cut, since it is a union of classes at the end; so each split of the wide run is one of the
narrow run, in the same place, and both runs end in the same list of classes.
-/
namespace ScannerAlphabet

namespace Partition
variable {p q : Partition} {s f : CharSet} {l : List CharSet} {c d m M : Nat}

/-- Every class keeps a member in a smaller alphabet. -/
def Survives (p : Partition) (m : Nat) : Prop :=
  ∀ s ∈ p.classes, ∃ c ∈ s, c ≤ m

theorem cuts_clipped {cls : CharSet} (h : s.cuts cls = true →
    (∃ c ∈ cls ∩ s, c ≤ m) ∧ ∃ c ∈ cls \ s, c ≤ m) :
    s.cuts (cls ∩ CharSet.upTo m) = s.cuts cls := by
  cases hcuts : s.cuts cls with
  | false =>
    rw [CharSet.cuts_eq_false_iff] at hcuts ⊢
    rcases hcuts with hout | hin
    · exact .inl fun c hc => hout c (mem_clipped.mp hc).1
    · exact .inr fun c hc => hin c (mem_clipped.mp hc).1
  | true =>
    obtain ⟨⟨c, hc, hcm⟩, d, hd, hdm⟩ := h hcuts
    rw [CharSet.mem_inter] at hc
    rw [CharSet.mem_sdiff] at hd
    exact CharSet.cuts_eq_true_iff.mpr
      ⟨⟨c, mem_clipped.mpr ⟨hc.1, hcm⟩, hc.2⟩, d, mem_clipped.mpr ⟨hd.1, hdm⟩, hd.2⟩

theorem staying_clipped {cls : CharSet}
    (h : s.cuts (cls ∩ CharSet.upTo m) = s.cuts cls) :
    s.staying (cls ∩ CharSet.upTo m) = s.staying cls ∩ CharSet.upTo m := by
  refine CharSet.ext_of_mem_iff fun c => ?_
  rw [CharSet.mem_staying, mem_clipped, mem_clipped, CharSet.mem_staying, h]
  tauto

/-- A plain scan of clipped classes clips what the scan of the classes makes, as long as nothing of
that is clipped away. -/
theorem plainSplit_clipped (h : ∀ t ∈ plainSplit s l, ∃ c ∈ t, c ≤ m) :
    plainSplit s (l.map (· ∩ CharSet.upTo m)) = (plainSplit s l).map (· ∩ CharSet.upTo m) := by
  have hcuts : ∀ cls ∈ l, s.cuts (cls ∩ CharSet.upTo m) = s.cuts cls := by
    intro cls hcls
    refine cuts_clipped fun hcut => ⟨?_, ?_⟩
    · exact h _ (mem_plainSplit.mpr ⟨cls, hcls, .inr ⟨hcut, rfl⟩⟩)
    · exact CharSet.staying_of_cuts hcut ▸ h _ (mem_plainSplit.mpr ⟨cls, hcls, .inl rfl⟩)
  have hkept : kept s (l.map (· ∩ CharSet.upTo m)) = (kept s l).map (· ∩ CharSet.upTo m) := by
    unfold kept
    rw [List.map_map, List.map_map]
    exact List.map_congr_left fun cls hcls => staying_clipped (hcuts cls hcls)
  have hpieces : pieces s (l.map (· ∩ CharSet.upTo m)) =
      (pieces s l).map (· ∩ CharSet.upTo m) := by
    have hfilter : l.filter (s.cuts ∘ (· ∩ CharSet.upTo m)) = l.filter s.cuts :=
      List.filter_congr hcuts
    unfold pieces
    rw [List.filter_map, hfilter, List.map_map, List.map_map]
    refine List.map_congr_left fun cls _ => CharSet.ext_of_mem_iff fun c => ?_
    simp only [Function.comp_apply, CharSet.mem_inter]
    tauto
  rw [plainSplit, hkept, hpieces, ← List.map_append, plainSplit]

theorem survives_of_plainSplit (h : ∀ t ∈ plainSplit s l, ∃ c ∈ t, c ≤ m) :
    ∀ cls ∈ l, ∃ c ∈ cls, c ≤ m := by
  intro cls hcls
  obtain ⟨c, hc, hcm⟩ := h _ (mem_plainSplit.mpr ⟨cls, hcls, .inl rfl⟩)
  exact ⟨c, (CharSet.mem_staying.mp hc).1, hcm⟩

/-- Clipping after a split is clipping before it, if every class survives. -/
theorem Valid.clippedTo_move_split (hp : p.Valid) (hm : m ≤ p.maximum)
    (h : (p.move (.split f)).Survives m) :
    p.Survives m ∧ (p.move (.split f)).clippedTo m = (p.clippedTo m).move (.split f) := by
  have hclasses : (p.move (.split f)).classes = plainSplit (p.clip f) p.classes :=
    hp.classes_refine _
  unfold Survives at h
  rw [hclasses] at h
  have hsurvives : p.Survives m := survives_of_plainSplit h
  have hclipped : ((p.clippedTo m).move (.split f)).classes =
      plainSplit ((p.clippedTo m).clip f) (p.clippedTo m).classes :=
    (hp.clippedTo hm hsurvives).classes_refine _
  -- the narrow alphabet clips the set further, but not within the clipped classes
  have hagree : ∀ cls ∈ (p.clippedTo m).classes, ∀ c ∈ cls,
      (c ∈ (p.clippedTo m).clip f ↔ c ∈ p.clip f) := by
    intro cls hcls c hc
    have hcm : c ≤ m := (hp.clippedTo hm hsurvives).le_of_mem hcls hc
    rw [mem_clip, mem_clip]
    exact and_congr_right fun _ => iff_of_true hcm (Nat.le_trans hcm hm)
  obtain ⟨hkept, hpieces⟩ := scan_congr hagree
  have hlists : (p.move (.split f)).classes.map (· ∩ CharSet.upTo m) =
      ((p.clippedTo m).move (.split f)).classes := by
    rw [hclasses, hclipped, ← plainSplit_clipped h]
    unfold plainSplit
    rw [hkept, hpieces]
    rfl
  exact ⟨hsurvives, congrArg (Partition.mk · m) hlists⟩

theorem Valid.clippedTo_replay_split (hp : p.Valid) (hm : m ≤ p.maximum) (fs : List CharSet)
    (h : (p.replay (fs.map .split)).Survives m) : p.Survives m ∧
      (p.replay (fs.map .split)).clippedTo m = (p.clippedTo m).replay (fs.map .split) := by
  induction fs generalizing p with
  | nil => exact ⟨h, rfl⟩
  | cons f fs ih =>
    obtain ⟨hstep, hrest⟩ := ih (hp.move (.split f)) hm h
    obtain ⟨hsurvives, hmove⟩ := hp.clippedTo_move_split hm hstep
    refine ⟨hsurvives, ?_⟩
    rw [List.map_cons, replay_cons, replay_cons, hrest, hmove]

theorem clippedTo_whole (hmM : m ≤ M) : (whole M).clippedTo m = whole m := by
  have hset : CharSet.upTo M ∩ CharSet.upTo m = CharSet.upTo m := by
    refine CharSet.ext_of_mem_iff fun c => ?_
    rw [mem_clipped, CharSet.mem_upTo, CharSet.mem_upTo]
    omega
  exact congrArg (fun s => Partition.mk [s] m) hset

theorem Valid.survives_maximum (hp : p.Valid) : p.Survives p.maximum := by
  intro s hs
  obtain ⟨c, hc⟩ := hp.nonempty s hs
  exact ⟨c, hc, hp.le_of_mem hs hc⟩

theorem Valid.clippedTo_maximum (hp : p.Valid) : p.clippedTo p.maximum = p := by
  have hclasses : p.classes.map (· ∩ CharSet.upTo p.maximum) = p.classes := by
    have hid : ∀ s ∈ p.classes, s ∩ CharSet.upTo p.maximum = id s := by
      intro s hs
      refine CharSet.ext_of_mem_iff fun c => ?_
      rw [mem_clipped, id_eq, and_iff_left_of_imp (hp.le_of_mem hs)]
    rw [List.map_congr_left hid, List.map_id]
  exact congrArg (Partition.mk · p.maximum) hclasses

/-- A change to an alphabet that is not larger clips the classes, if every class survives. -/
theorem Valid.resize_eq_ok_iff (hp : p.Valid) (hm : m ≤ p.maximum) :
    p.resize m = .ok q ↔ q = p.clippedTo m ∧ p.Survives m := by
  rcases Nat.eq_or_lt_of_le hm with rfl | hlt
  · rw [hp.resize_self, hp.clippedTo_maximum, and_iff_left hp.survives_maximum]
    exact ⟨fun h => (Except.ok.inj h).symm, fun h => congrArg _ h.symm⟩
  · have hlast := Nat.le_trans hm hp.maximum_le
    rw [Partition.resize, dif_neg (Nat.not_lt.mpr hlast), dif_neg (Nat.not_lt.mpr hm), if_pos hlt]
    exact narrow_eq_ok_iff

/-- The classes that keep a member in a smaller alphabet. -/
def remnants (p : Partition) (m : Nat) : Partition :=
  ⟨(p.clippedTo m).classes.filter fun s => !s.isEmpty, m⟩

theorem mem_remnants : s ∈ (p.remnants m).classes ↔
    ∃ cls ∈ p.classes, cls ∩ CharSet.upTo m = s ∧ ∃ c, c ∈ s := by
  unfold remnants clippedTo
  simp only [List.mem_filter, List.mem_map, Bool.not_eq_true', ← Bool.not_eq_true,
    CharSet.isEmpty_iff, not_forall, not_not]
  grind

theorem Valid.remnants (hp : p.Valid) (hm : m ≤ p.maximum) : (p.remnants m).Valid where
  maximum_le := Nat.le_trans hm hp.maximum_le
  nonempty s hs := by
    obtain ⟨-, -, -, hne⟩ := mem_remnants.mp hs
    exact hne
  disjoint := by
    refine List.Pairwise.filter _ (List.pairwise_map.mpr (hp.disjoint.imp fun h c hc => h c ?_))
    exact ⟨(mem_clipped.mp hc.1).1, (mem_clipped.mp hc.2).1⟩
  covers c := by
    constructor
    · rintro ⟨s, hs, hc⟩
      obtain ⟨cls, -, rfl, -⟩ := mem_remnants.mp hs
      exact (mem_clipped.mp hc).2
    · intro hcm
      obtain ⟨cls, hcls, hc⟩ := (hp.covers c).mpr (Nat.le_trans hcm hm)
      have hclip := mem_clipped.mpr ⟨hc, hcm⟩
      exact ⟨_, mem_remnants.mpr ⟨cls, hcls, rfl, c, hclip⟩, hclip⟩

theorem sameClass_remnants (hc : c ≤ m) (hd : d ≤ m) :
    (p.remnants m).SameClass c d ↔ p.SameClass c d := by
  rw [← sameClass_clippedTo (p := p) hc hd]
  constructor
  · rintro ⟨s, hs, hcd⟩
    exact ⟨s, List.mem_of_mem_filter hs, hcd⟩
  · rintro ⟨s, hs, hcs, hds⟩
    obtain ⟨cls, hcls, rfl⟩ := List.mem_map.mp hs
    exact ⟨_, mem_remnants.mpr ⟨cls, hcls, rfl, c, hcs⟩, hcs, hds⟩

theorem count_remnants_eq_iff : (p.remnants m).count = p.count ↔ p.Survives m := by
  have hcount : p.count = (p.clippedTo m).classes.length := (List.length_map ..).symm
  rw [hcount, count, remnants, List.length_filter_eq_length_iff]
  unfold clippedTo Survives
  simp only [List.forall_mem_map, Bool.not_eq_true', ← Bool.not_eq_true, CharSet.isEmpty_iff,
    mem_clipped, not_forall, not_not]

/-- Where two partitions agree on a smaller alphabet that is all of the second, every class of the
first survives exactly when there are as many in the second. -/
theorem Valid.survives_iff_count_eq (hp : p.Valid) (hq : q.Valid) (hle : q.maximum ≤ p.maximum)
    (h : ∀ c d, c ≤ q.maximum → d ≤ q.maximum → (p.SameClass c d ↔ q.SameClass c d)) :
    p.Survives q.maximum ↔ p.count = q.count := by
  have hperm : (p.remnants q.maximum).classes.Perm q.classes := by
    refine (hp.remnants hle).perm_of_sameClass hq rfl fun c d hc hd => ?_
    exact (sameClass_remnants hc hd).trans (h c d hc hd)
  have hcount : (p.remnants q.maximum).count = q.count := hperm.length_eq
  rw [← count_remnants_eq_iff, hcount, eq_comm]

end Partition

namespace Refiner
variable {m M : Nat} {wide narrow : Partition} {qs : List Request}

/-- The same refinements on a wide and on a narrow alphabet: narrowing the wide one afterwards
succeeds exactly when both have as many classes, and then makes the same list of classes. -/
theorem narrowing_late_eq_starting_narrow (hwide : Partition.ofMaximum M = .ok wide)
    (hnarrow : Partition.ofMaximum m = .ok narrow) (hmM : m ≤ M)
    (source : Option CaselessSource) (hqs : ∀ n, Request.alphabet n ∉ qs) :
    let late := (ofPartition wide source).run qs
    let early := (ofPartition narrow source).run qs
    let o := late.apply (.alphabet m)
    (o.result = .ok () ↔ late.partition.count = early.partition.count) ∧
    (o.result = .ok () → o.refiner.partition = early.partition) := by
  intro late early o
  have hlate : late.partition.Valid := ((Reachable.ofMaximum hwide source).run qs).valid
  have hearly : early.partition.Valid := ((Reachable.ofMaximum hnarrow source).run qs).valid
  have hM : late.partition.maximum = M := maximum_run hwide hqs
  have hm : early.partition.maximum = m := maximum_run hnarrow hqs
  have hsurvives : late.partition.Survives m ↔ late.partition.count = early.partition.count := by
    rw [← hm]
    refine hlate.survives_iff_count_eq hearly (by omega) fun c d hc hd => ?_
    rw [hm] at hc hd
    rw [sameClass_run hwide hqs (Nat.le_trans hc hmM) (Nat.le_trans hd hmM),
      sameClass_run hnarrow hqs hc hd]
  have hclipped : late.partition.Survives m → late.partition.clippedTo m = early.partition := by
    intro h
    rw [partition_run_of_fresh hwide hqs] at h ⊢
    rw [partition_run_of_fresh hnarrow hqs]
    have hvalid := Partition.valid_whole (Partition.ofMaximum_eq_ok_iff.mp hwide).2
    rw [(hvalid.clippedTo_replay_split hmM _ h).2, Partition.clippedTo_whole hmM]
  have hresize := fun q => hlate.resize_eq_ok_iff (q := q) (hM.symm ▸ hmM : m ≤ _)
  by_cases h : late.partition.Survives m
  · obtain ⟨hresult, hafter⟩ := apply_alphabet_of_ok ((hresize _).mpr ⟨rfl, h⟩)
    exact ⟨iff_of_true hresult (hsurvives.mp h), fun _ => hafter.trans (hclipped h)⟩
  · have hrefused : o.result ≠ .ok () := by
      cases hcase : late.partition.resize m with
      | ok q => exact absurd ((hresize q).mp hcase).2 h
      | error e => simp [o, apply_alphabet_of_error hcase, refuse]
    exact ⟨iff_of_false hrefused (mt hsurvives.mpr h), fun hok => absurd hok hrefused⟩

/-- Eight bits narrowed to seven after two refinements: three classes either way. A refinement by a
letter beyond seven bits makes a fourth class in the wide run only, and the narrowing is refused. -/
theorem narrowing_late_eq_starting_narrow_latin :
    let qs : List Request := [.set (CharSet.ofSpan ⟨0x41, 0xE0, by decide, by decide⟩) false,
      .char 'x' false]
    let qs' : List Request := qs ++ [.char 'é' false]
    Partition.ofMaximum 0xFF = .ok (Partition.whole 0xFF) ∧
      Partition.ofMaximum 0x7F = .ok (Partition.whole 0x7F) ∧
      (∀ n, Request.alphabet n ∉ qs) ∧ (∀ n, Request.alphabet n ∉ qs') ∧
      (((ofPartition (Partition.whole 0xFF) none).run qs).apply (.alphabet 0x7F)).refiner.partition =
        ((ofPartition (Partition.whole 0x7F) none).run qs).partition ∧
      (((ofPartition (Partition.whole 0xFF) none).run qs').apply (.alphabet 0x7F)).result ≠ .ok () := by
  intro qs qs'
  have hwide : Partition.ofMaximum 0xFF = .ok (Partition.whole 0xFF) := rfl
  have hnarrow : Partition.ofMaximum 0x7F = .ok (Partition.whole 0x7F) := rfl
  have hqs : ∀ n, Request.alphabet n ∉ qs := by simp [qs]
  have hqs' : ∀ n, Request.alphabet n ∉ qs' := by simp [qs', qs]
  obtain ⟨hcount, hpartition⟩ :=
    narrowing_late_eq_starting_narrow hwide hnarrow (by decide) none hqs
  obtain ⟨hcount', -⟩ := narrowing_late_eq_starting_narrow hwide hnarrow (by decide) none hqs'
  have hsame := hpartition (hcount.mpr (by decide))
  exact ⟨hwide, hnarrow, hqs, hqs', hsame, mt hcount'.mp (by decide)⟩

end Refiner

end ScannerAlphabet
