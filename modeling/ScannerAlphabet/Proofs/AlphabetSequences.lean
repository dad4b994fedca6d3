import ScannerAlphabet.Proofs.LateNarrowing
import ScannerAlphabet.Proofs.WideningReadBack

/-!
# Sequences of alphabet changes

Widening puts code points into the first class and narrowing clips all classes, but both come to
one description: every class keeps its members that are still in the alphabet, and the first class
gets all code points that were not in it before. With it two changes are one as long as the
alphabet in between is not smaller than both the one before and the one after, and any sequence of
changes is known by the smallest alphabet on the way and the last one (`resizes_iff`). Widening and
going back, widening or narrowing in two steps, and narrowing and going back are cases of that.
-/
namespace ScannerAlphabet

namespace Partition
variable {p q : Partition} {s : CharSet} {a b c i l m n : Nat} {ns : List Nat}

/-- What becomes of a class when the alphabet is another: its members stay if they can, and the
first class gets what is new. -/
def adjusted (old new i : Nat) (s : CharSet) : CharSet :=
  if i = 0 then (s ∩ CharSet.upTo new) ∪ (CharSet.upTo new \ CharSet.upTo old)
  else s ∩ CharSet.upTo new

/-- All classes as they become in another alphabet, whether they keep members or not. -/
def adjustedTo (p : Partition) (n : Nat) : Partition :=
  ⟨p.classes.mapIdx (adjusted p.maximum n), n⟩

theorem mem_adjusted : c ∈ adjusted a b i s ↔
    (c ∈ s ∧ c ≤ b) ∨ (i = 0 ∧ a < c ∧ c ≤ b ∧ c ≤ CodePoint.last) := by
  have hnew : c ∈ CharSet.upTo b \ CharSet.upTo a ↔ a < c ∧ c ≤ b ∧ c ≤ CodePoint.last := by
    rw [CharSet.mem_sdiff, CharSet.mem_upTo, CharSet.mem_upTo]
    omega
  unfold adjusted
  by_cases hi : i = 0
  · rw [if_pos hi, CharSet.mem_union, mem_clipped, hnew, and_iff_right hi]
  · rw [if_neg hi, mem_clipped, or_iff_left (fun h => hi h.1)]

@[simp] theorem maximum_adjustedTo : (p.adjustedTo n).maximum = n := rfl

theorem class?_adjustedTo :
    (p.adjustedTo n).class? i = (p.class? i).map (adjusted p.maximum n i) :=
  List.getElem?_mapIdx

@[simp] theorem count_adjustedTo : (p.adjustedTo n).count = p.count :=
  List.length_mapIdx

theorem eq_of_class?_map {x y : Partition} {f g : Nat → CharSet → CharSet}
    (hmaximum : x.maximum = y.maximum) (hx : ∀ i, x.class? i = (p.class? i).map (f i))
    (hy : ∀ i, y.class? i = (p.class? i).map (g i))
    (h : ∀ i s, p.class? i = some s → ∀ c, c ∈ f i s ↔ c ∈ g i s) : x = y := by
  have hclass : ∀ i, x.class? i = y.class? i := by
    intro i
    rw [hx, hy]
    exact Option.map_congr fun s hs => CharSet.ext_of_mem_iff (h i s hs)
  obtain ⟨classes, maximum⟩ := x
  obtain rfl : maximum = y.maximum := hmaximum
  exact congrArg (Partition.mk · y.maximum) (List.ext_getElem? hclass)

theorem survives_iff : p.Survives n ↔ ∀ i s, p.class? i = some s → ∃ c ∈ s, c ≤ n := by
  constructor
  · intro h i s hs
    exact h s (class?_mem hs)
  · intro h s hs
    obtain ⟨i, hi⟩ := List.getElem?_of_mem hs
    exact h i s hi

theorem Survives.mono (h : p.Survives a) (hab : a ≤ b) : p.Survives b := by
  intro s hs
  obtain ⟨c, hc, hca⟩ := h s hs
  exact ⟨c, hc, Nat.le_trans hca hab⟩

theorem Valid.survives_min_iff (hp : p.Valid) : p.Survives (min p.maximum n) ↔ p.Survives n := by
  constructor
  · intro h
    exact h.mono (Nat.min_le_right _ _)
  · intro h s hs
    obtain ⟨c, hc, hcn⟩ := h s hs
    exact ⟨c, hc, Nat.le_min.mpr ⟨hp.le_of_mem hs hc, hcn⟩⟩

theorem adjustedTo_of_le (hn : n ≤ p.maximum) : p.adjustedTo n = p.clippedTo n := by
  have hclip : ∀ i, (p.clippedTo n).class? i = (p.class? i).map (· ∩ CharSet.upTo n) :=
    fun _ => List.getElem?_map
  refine eq_of_class?_map rfl (fun _ => class?_adjustedTo) hclip ?_
  intro i s _ c
  rw [mem_adjusted, mem_clipped]
  grind

theorem Valid.adjustedTo_of_lt (hp : p.Valid) (hlt : p.maximum < n) (hn : n ≤ CodePoint.last) :
    p.adjustedTo n = p.widen ⟨p.maximum + 1, n, hlt, hn⟩ := by
  refine eq_of_class?_map rfl (fun _ => class?_adjustedTo) (p.class?_widen _) ?_
  intro i s hs c
  have hle : c ∈ s → c ≤ p.maximum := hp.le_of_mem (class?_mem hs)
  rw [mem_adjusted]
  by_cases hi : i = 0
  · rw [if_pos hi, CharSet.mem_insertSpan, Span.mem_def]
    dsimp only
    grind
  · rw [if_neg hi]
    grind

/-- Both ways to change the alphabet in one description. -/
theorem Valid.resize_eq_ok_iff_adjustedTo (hp : p.Valid) :
    p.resize n = .ok q ↔ n ≤ CodePoint.last ∧ p.Survives n ∧ q = p.adjustedTo n := by
  rcases Nat.lt_or_ge p.maximum n with hlt | hle
  · have hsurvives : p.Survives n := hp.survives_maximum.mono (Nat.le_of_lt hlt)
    constructor
    · intro h
      have hn := (resize_cases h).1
      rw [resize_of_lt hlt hn, Except.ok.injEq] at h
      rw [hp.adjustedTo_of_lt hlt hn]
      exact ⟨hn, hsurvives, h.symm⟩
    · intro ⟨hn, _, hq⟩
      rw [resize_of_lt hlt hn, hq, hp.adjustedTo_of_lt hlt hn]
  · rw [hp.resize_eq_ok_iff hle, adjustedTo_of_le hle,
      and_iff_right (Nat.le_trans hle hp.maximum_le)]
    exact and_comm

theorem Valid.adjustedTo_maximum (hp : p.Valid) : p.adjustedTo p.maximum = p := by
  rw [adjustedTo_of_le (Nat.le_refl _), hp.clippedTo_maximum]

/-- An alphabet in between makes no difference unless it is smaller than both others. -/
theorem Valid.adjustedTo_adjustedTo (hp : p.Valid) (h : min p.maximum b ≤ a) :
    (p.adjustedTo a).adjustedTo b = p.adjustedTo b := by
  have htwice : ∀ i, ((p.adjustedTo a).adjustedTo b).class? i =
      (p.class? i).map (adjusted a b i ∘ adjusted p.maximum a i) := by
    intro i
    rw [class?_adjustedTo, class?_adjustedTo, Option.map_map, maximum_adjustedTo]
  refine eq_of_class?_map rfl htwice (fun _ => class?_adjustedTo) ?_
  intro i s hs c
  have hle : c ∈ s → c ≤ p.maximum := hp.le_of_mem (class?_mem hs)
  rw [Function.comp_apply, mem_adjusted, mem_adjusted, mem_adjusted]
  grind

theorem Valid.survives_adjustedTo_iff (hp : p.Valid) (h : min p.maximum b ≤ a) :
    (p.adjustedTo a).Survives b ↔ p.Survives b := by
  simp only [survives_iff, class?_adjustedTo, Option.map_eq_some_iff]
  constructor
  · intro hadjusted i s hs
    obtain ⟨c, hc, hcb⟩ := hadjusted i _ ⟨s, hs, rfl⟩
    rcases mem_adjusted.mp hc with ⟨hcs, -⟩ | ⟨-, hnew, -⟩
    · exact ⟨c, hcs, hcb⟩
    · obtain ⟨d, hd⟩ := hp.nonempty s (class?_mem hs)
      have hdle : d ≤ p.maximum := hp.le_of_mem (class?_mem hs) hd
      exact ⟨d, hd, by omega⟩
  · intro hsurvives i t ⟨s, hs, ht⟩
    obtain ⟨c, hc, hcb⟩ := hsurvives i s hs
    have hcle : c ≤ p.maximum := hp.le_of_mem (class?_mem hs) hc
    rw [← ht]
    exact ⟨c, mem_adjusted.mpr (.inl ⟨hc, by omega⟩), hcb⟩

theorem Valid.adjustedTo_below (hp : p.Valid) (hl : l ≤ n) :
    ((p.adjustedTo n).adjustedTo l).adjustedTo m =
      (p.adjustedTo (min p.maximum l)).adjustedTo m := by
  rw [hp.adjustedTo_adjustedTo (by omega)]
  rcases Nat.le_total l p.maximum with hle | hle
  · rw [Nat.min_eq_right hle]
  · rw [Nat.min_eq_left hle, hp.adjustedTo_maximum, hp.adjustedTo_adjustedTo (by omega)]

/-- After narrowing and going back, what the classes have lost is in the first one. -/
theorem classes_adjustedTo_back (hn : n < p.maximum) :
    ((p.adjustedTo n).adjustedTo p.maximum).classes = p.classes.mapIdx fun i s =>
      if i = 0 then (s ∩ CharSet.upTo n) ∪ (CharSet.upTo p.maximum \ CharSet.upTo n)
      else s ∩ CharSet.upTo n := by
  have hboth : ((p.adjustedTo n).adjustedTo p.maximum).classes =
      p.classes.mapIdx fun i => adjusted n p.maximum i ∘ adjusted p.maximum n i :=
    List.mapIdx_mapIdx
  rw [hboth]
  congr 1
  funext i s
  apply CharSet.ext_of_mem_iff
  intro c
  rw [Function.comp_apply, mem_adjusted, mem_adjusted]
  by_cases hi : i = 0
  · rw [if_pos hi, CharSet.mem_union, mem_clipped, CharSet.mem_sdiff, CharSet.mem_upTo,
      CharSet.mem_upTo]
    grind
  · rw [if_neg hi, mem_clipped]
    grind

theorem Valid.code_of_resize (hp : p.Valid) (h : p.resize n = .ok q) (hc : c ≤ p.maximum)
    (hcn : c ≤ n) : q.code c = p.code c := by
  obtain ⟨i, s, hcode, hs, hcs⟩ := hp.exists_code hc
  obtain ⟨-, -, rfl⟩ := hp.resize_eq_ok_iff_adjustedTo.mp h
  have hq := hp.resize h
  rw [hcode, hq.code_eq_ok_iff, class?_adjustedTo, hs]
  exact ⟨_, rfl, mem_adjusted.mpr (.inl ⟨hcs, hcn⟩)⟩

/-- The smallest of an alphabet and those that follow. -/
def lowest (m : Nat) (ns : List Nat) : Nat :=
  ns.foldl min m

theorem le_lowest_iff : c ≤ lowest m ns ↔ c ≤ m ∧ ∀ n ∈ ns, c ≤ n := by
  induction ns generalizing m with
  | nil => simp [lowest]
  | cons n ns ih =>
    have hstep : lowest m (n :: ns) = lowest (min m n) ns := rfl
    rw [hstep, ih, Nat.le_min, List.forall_mem_cons, and_assoc]

theorem lowest_le : lowest m ns ≤ m :=
  (le_lowest_iff.mp (Nat.le_refl _)).1

@[simp] theorem lowest_nil : lowest m [] = m := rfl

@[simp] theorem lowest_cons : lowest m (n :: ns) = min m (lowest n ns) :=
  List.foldl_assoc

/-- All classes as some changes of the alphabet leave them, one after the other. -/
def adjustedThrough (p : Partition) (ns : List Nat) : Partition :=
  (p.adjustedTo (lowest p.maximum ns)).adjustedTo (ns.getLastD p.maximum)

theorem Valid.adjustedThrough_nil (hp : p.Valid) : p.adjustedThrough [] = p := by
  have hself : p.adjustedThrough [] = (p.adjustedTo p.maximum).adjustedTo p.maximum := rfl
  rw [hself, hp.adjustedTo_maximum, hp.adjustedTo_maximum]

theorem Valid.adjustedThrough_cons (hp : p.Valid) :
    p.adjustedThrough (n :: ns) = (p.adjustedTo n).adjustedThrough ns := by
  unfold adjustedThrough
  rw [lowest_cons, List.getLastD_cons, maximum_adjustedTo, hp.adjustedTo_below lowest_le]

end Partition

namespace Refiner
variable {r v w : Refiner} {q : Partition} {c m n : Nat} {ns ns' : List Nat}

/-- Some changes of the alphabet succeed one after the other. -/
inductive Resizes : Refiner → List Nat → Refiner → Prop
  | done (r : Refiner) : Resizes r [] r
  | step {r v : Refiner} {n : Nat} {ns : List Nat}
      (h : (r.apply (.alphabet n)).result = .ok ()) :
      Resizes (r.apply (.alphabet n)).refiner ns v → Resizes r (n :: ns) v

theorem refiner_apply_alphabet (h : r.partition.resize n = .ok q) :
    (r.apply (.alphabet n)).refiner = { r with partition := q } := by
  simp [apply, changeAlphabet, h]

theorem apply_alphabet_eq_ok_iff :
    (r.apply (.alphabet n)).result = .ok () ↔ ∃ q, r.partition.resize n = .ok q := by
  cases h : r.partition.resize n with
  | error e => simp [apply_alphabet_of_error h, refuse]
  | ok q => simp [apply_alphabet_of_ok h]

theorem resizes_nil_iff : r.Resizes [] v ↔ v = r := by
  constructor
  · intro h
    cases h
    rfl
  · intro h
    rw [h]
    exact .done r

theorem resizes_cons_iff : r.Resizes (n :: ns) v ↔
    ∃ q, r.partition.resize n = .ok q ∧ ({ r with partition := q } : Refiner).Resizes ns v := by
  constructor
  · intro h
    cases h with
    | step hok hrest =>
      obtain ⟨q, hq⟩ := apply_alphabet_eq_ok_iff.mp hok
      exact ⟨q, hq, refiner_apply_alphabet hq ▸ hrest⟩
  · intro ⟨q, hq, hrest⟩
    exact .step (apply_alphabet_eq_ok_iff.mpr ⟨q, hq⟩) (refiner_apply_alphabet hq ▸ hrest)

/-- Changes of the alphabet succeed one after the other exactly when classes can hold each of the
alphabets and every class keeps a member in the smallest one; what they leave depends only on the
smallest alphabet and the last. -/
theorem resizes_iff (hp : r.partition.Valid) : r.Resizes ns v ↔
    (∀ n ∈ ns, n ≤ CodePoint.last) ∧
      r.partition.Survives (Partition.lowest r.partition.maximum ns) ∧
      v = { r with partition := r.partition.adjustedThrough ns } := by
  induction ns generalizing r with
  | nil =>
    rw [resizes_nil_iff, Partition.lowest_nil, hp.adjustedThrough_nil,
      and_iff_right hp.survives_maximum]
    simp
  | cons n ns ih =>
    have hlow : Partition.lowest n ns ≤ n := Partition.lowest_le
    have hafter : (r.partition.adjustedTo n).Survives (Partition.lowest n ns) ↔
        r.partition.Survives (Partition.lowest n ns) :=
      hp.survives_adjustedTo_iff (Nat.le_trans (Nat.min_le_right _ _) hlow)
    rw [resizes_cons_iff, Partition.lowest_cons, hp.survives_min_iff, hp.adjustedThrough_cons,
      List.forall_mem_cons]
    constructor
    · intro ⟨q, hq, hrest⟩
      have hvalid := hp.resize hq
      obtain ⟨hn, -, rfl⟩ := hp.resize_eq_ok_iff_adjustedTo.mp hq
      obtain ⟨hns, hsurvives, hv⟩ := (ih hvalid).mp hrest
      exact ⟨⟨hn, hns⟩, hafter.mp hsurvives, hv⟩
    · intro ⟨⟨hn, hns⟩, hsurvives, hv⟩
      have hq : r.partition.resize n = .ok (r.partition.adjustedTo n) :=
        hp.resize_eq_ok_iff_adjustedTo.mpr ⟨hn, hsurvives.mono hlow, rfl⟩
      exact ⟨_, hq, (ih (hp.resize hq)).mpr ⟨hns, hafter.mpr hsurvives, hv⟩⟩

theorem Resizes.maximum_eq (h : r.Resizes ns v) (hp : r.partition.Valid) :
    v.partition.maximum = ns.getLastD r.partition.maximum := by
  obtain ⟨-, -, rfl⟩ := (resizes_iff hp).mp h
  rfl

theorem Resizes.count_eq (h : r.Resizes ns v) (hp : r.partition.Valid) :
    v.partition.count = r.partition.count := by
  obtain ⟨-, -, rfl⟩ := (resizes_iff hp).mp h
  exact Partition.count_adjustedTo.trans Partition.count_adjustedTo

/-- Code points that are in every alphabet on the way keep their codes. -/
theorem Resizes.code_eq (h : r.Resizes ns v) (hp : r.partition.Valid)
    (hc : c ≤ r.partition.maximum) (hns : ∀ n ∈ ns, c ≤ n) :
    v.partition.code c = r.partition.code c := by
  induction h with
  | done r => rfl
  | @step r v n ns hok _ ih =>
    obtain ⟨hcn, hrest⟩ := List.forall_mem_cons.mp hns
    obtain ⟨q, hq⟩ := apply_alphabet_eq_ok_iff.mp hok
    rw [refiner_apply_alphabet hq] at ih
    have hmaximum : q.maximum = n := by
      obtain ⟨-, -, rfl⟩ := hp.resize_eq_ok_iff_adjustedTo.mp hq
      rfl
    rw [ih (hp.resize hq) (hmaximum ▸ hcn) hrest]
    exact hp.code_of_resize hq hc hcn

theorem resizes_congr (hp : r.partition.Valid)
    (hlast : (∀ n ∈ ns, n ≤ CodePoint.last) ↔ ∀ n ∈ ns', n ≤ CodePoint.last)
    (hlowest : Partition.lowest r.partition.maximum ns =
      Partition.lowest r.partition.maximum ns')
    (hend : ns.getLastD r.partition.maximum = ns'.getLastD r.partition.maximum) :
    r.Resizes ns v ↔ r.Resizes ns' v := by
  rw [resizes_iff hp, resizes_iff hp, hlast, hlowest, Partition.adjustedThrough, hlowest, hend]
  rfl

theorem resizes_wider_and_back (hp : r.partition.Valid) (hn : r.partition.maximum ≤ n)
    (hlast : n ≤ CodePoint.last) : r.Resizes [n, r.partition.maximum] r := by
  have hback : r.Resizes [n, r.partition.maximum] r ↔ r.Resizes [] r := by
    apply resizes_congr hp
    · simp [hlast, hp.maximum_le]
    · simp [hn]
    · rfl
  exact hback.mpr (.done r)

theorem exists_resizes_wider (hp : r.partition.Valid) (hn : r.partition.maximum ≤ n)
    (hlast : n ≤ CodePoint.last) : ∃ v, r.Resizes [n] v := by
  have hsurvives : r.partition.Survives (Partition.lowest r.partition.maximum [n]) := by
    rw [Partition.lowest_cons, Partition.lowest_nil, Nat.min_eq_left hn]
    exact hp.survives_maximum
  exact ⟨_, (resizes_iff hp).mpr ⟨by simpa using hlast, hsurvives, rfl⟩⟩

/-- Two changes are one as long as the alphabet in between is not smaller than both others, and is
one that classes can hold if the last is. -/
theorem resizes_twice_iff (hp : r.partition.Valid) (hm : min r.partition.maximum n ≤ m)
    (hlast : n ≤ CodePoint.last → m ≤ CodePoint.last) :
    r.Resizes [m, n] v ↔ r.Resizes [n] v := by
  apply resizes_congr hp
  · simp only [List.forall_mem_cons, List.not_mem_nil, false_imp_iff, implies_true, and_true]
    exact and_iff_right_of_imp hlast
  · simp only [Partition.lowest_cons, Partition.lowest_nil]
    omega
  · rfl

theorem exists_resizes_narrower_and_back (hp : r.partition.Valid) (hm : m < r.partition.maximum)
    (h : r.Resizes [m] w) : ∃ v, r.Resizes [m, r.partition.maximum] v ∧
      v.partition = (r.partition.adjustedTo m).adjustedTo r.partition.maximum := by
  have hlowest : Partition.lowest r.partition.maximum [m, r.partition.maximum] = m := by
    simp only [Partition.lowest_cons, Partition.lowest_nil]
    omega
  have hsame : Partition.lowest r.partition.maximum [m] = m := by
    simp only [Partition.lowest_cons, Partition.lowest_nil]
    omega
  obtain ⟨hlast, hsurvives, -⟩ := (resizes_iff hp).mp h
  rw [hsame] at hsurvives
  refine ⟨_, (resizes_iff hp).mpr ⟨?_, by rwa [hlowest], rfl⟩, ?_⟩
  · rw [List.forall_mem_cons] at hlast ⊢
    exact ⟨hlast.1, by simpa using hp.maximum_le⟩
  · unfold Partition.adjustedThrough
    rw [hlowest]
    rfl

/-- Changes of the alphabet compose, in every state: a widening can be taken back, and two widenings
or two narrowings are the one to the last alphabet, refused when that is refused. A narrowing can be
followed by the way back, which leaves what the classes have lost in the first one. In any sequence
of changes there are as many classes afterwards as before, and the code points that were in the
alphabet all the time have the same codes. -/
theorem Reachable.alphabet_changes_compose (hr : r.Reachable) :
    (∀ M, r.partition.maximum ≤ M → M ≤ CodePoint.last →
      r.Resizes [M, r.partition.maximum] r) ∧
    (∀ M₁ M₂, r.partition.maximum ≤ M₁ → M₁ ≤ M₂ →
      (∀ v, r.Resizes [M₁, M₂] v ↔ r.Resizes [M₂] v) ∧
        (M₂ ≤ CodePoint.last → ∃ v, r.Resizes [M₂] v)) ∧
    (∀ m₁ m₂, m₂ ≤ m₁ → m₁ ≤ r.partition.maximum →
      ∀ v, r.Resizes [m₁, m₂] v ↔ r.Resizes [m₂] v) ∧
    (∀ m, m < r.partition.maximum → (∃ w, r.Resizes [m] w) →
      ∃ v, r.Resizes [m, r.partition.maximum] v ∧
        v.partition.classes = r.partition.classes.mapIdx fun i s =>
          if i = 0 then
            (s ∩ CharSet.upTo m) ∪ (CharSet.upTo r.partition.maximum \ CharSet.upTo m)
          else s ∩ CharSet.upTo m) ∧
    (∀ ns v, r.Resizes ns v →
      v.partition.maximum = ns.getLastD r.partition.maximum ∧
      v.partition.count = r.partition.count ∧
      ∀ c ≤ r.partition.maximum, (∀ n ∈ ns, c ≤ n) →
        v.partition.code c = r.partition.code c) := by
  have hp := hr.valid
  have hmaximum := hp.maximum_le
  refine ⟨?_, ?_, ?_, ?_, ?_⟩
  · intro M hM hlast
    exact resizes_wider_and_back hp hM hlast
  · intro M₁ M₂ h₁ h₂
    constructor
    · intro v
      exact resizes_twice_iff hp (by omega) (Nat.le_trans h₂)
    · intro hlast
      exact exists_resizes_wider hp (Nat.le_trans h₁ h₂) hlast
  · intro m₁ m₂ h₂ h₁ v
    exact resizes_twice_iff hp (by omega) fun _ => Nat.le_trans h₁ hmaximum
  · intro m hm ⟨w, hw⟩
    obtain ⟨v, hv, hpartition⟩ := exists_resizes_narrower_and_back hp hm hw
    exact ⟨v, hv, hpartition ▸ Partition.classes_adjustedTo_back hm⟩
  · intro ns v h
    exact ⟨h.maximum_eq hp, h.count_eq hp, fun c => h.code_eq hp⟩

/-- Seven bits in two classes, widened and back, widened twice, narrowed twice, and narrowed and
back, which moves the end of the second class to the first one. -/
theorem alphabet_changes_compose_sevenBit :
    let letters := CharSet.ofSpan ⟨0x61, 0x7F, by decide, by decide⟩
    let r := (ofPartition (Partition.ofWidth .sevenBit) none).run [.set letters false]
    r.Reachable ∧ r.partition.maximum = 0x7F ∧ r.Resizes [0xFF, 0x7F] r ∧
      (∃ v, r.Resizes [0xFF, 0x17F] v) ∧ (∃ w, r.Resizes [0x68] w) ∧
      (∃ v, r.Resizes [0x70, 0x68] v) ∧
      ∃ v, r.Resizes [0x70, 0x7F] v ∧
        v.partition.classes = [CharSet.ofSpans [⟨0, 0x60, by decide, by decide⟩,
          ⟨0x71, 0x7F, by decide, by decide⟩],
          CharSet.ofSpan ⟨0x61, 0x70, by decide, by decide⟩] ∧
        v.partition.count = 2 ∧ v.partition.code 0x61 = r.partition.code 0x61 := by
  intro letters r
  have hr : r.Reachable := (Reachable.ofWidth .sevenBit none).run _
  obtain ⟨hback, hwider, hnarrower, hreturn, hkept⟩ := hr.alphabet_changes_compose
  have hmaximum : r.partition.maximum = 0x7F := by decide
  have hcount : r.partition.count = 2 := by decide
  rw [hmaximum] at hback hwider hnarrower hreturn hkept
  have hsmall : r.Resizes [0x68] _ := .step (by decide) (.done _)
  have hmiddle : r.Resizes [0x70] _ := .step (by decide) (.done _)
  obtain ⟨htwice, hexists⟩ := hwider 0xFF 0x17F (by decide) (by decide)
  obtain ⟨wide, hwide⟩ := hexists (by decide)
  obtain ⟨v, hv, hclasses⟩ := hreturn 0x70 (by decide) ⟨_, hmiddle⟩
  obtain ⟨-, hsame, hcode⟩ := hkept _ _ hv
  refine ⟨hr, hmaximum, hback 0xFF (by decide) (by decide), ⟨wide, (htwice wide).mpr hwide⟩,
    ⟨_, hsmall⟩, ⟨_, (hnarrower 0x70 0x68 (by decide) (by decide) _).mpr hsmall⟩, v, hv, ?_,
    hsame.trans hcount, hcode 0x61 (by decide) (by decide)⟩
  rw [hclasses]
  decide

end Refiner

end ScannerAlphabet
