import ScannerAlphabet.CharSet.Packed
import ScannerAlphabet.Proofs.Machine.Unions

/-!
# Packed sets on a machine

A machine leaves out the pairs that start above `CodePoint.last`, cuts the others there without a
look at their order, and sorts what it has. Where the pairs are in order it makes the bounds of the
set that `CharSet.unpack` makes. Since pairs that are left out have no effect wherever they stand,
they may stand between the pairs of a packed set, and unpacking still gives the set back.
-/
namespace ScannerAlphabet

namespace CharSet
variable {bounds l m front rest : List Nat} {lo hi c : Nat}

/-- The pairs that start up to `CodePoint.last`, in the order of the list. -/
def keptPairs (bounds : List Nat) : List (Nat × Nat) :=
  (pairs bounds).filter (·.1 ≤ CodePoint.last)

/-- No complete pair of a flat list starts above its end. -/
def PairsOrdered (bounds : List Nat) : Prop :=
  ∀ i lo hi : Nat, bounds[2 * i]? = some lo → bounds[2 * i + 1]? = some hi → lo ≤ hi

/-- A number lies between the bounds of some complete pair. -/
def LiesInPair (bounds : List Nat) (c : Nat) : Prop :=
  ∃ i lo hi : Nat, bounds[2 * i]? = some lo ∧ bounds[2 * i + 1]? = some hi ∧ lo ≤ c ∧ c ≤ hi

/-- A flat list with further pairs that start above `CodePoint.last`, before, between and behind the
pairs it has, and at most one bound at the end that has no partner. -/
inductive Interleaved : List Nat → List Nat → Prop where
  | ending (odd : Option Nat) : Interleaved [] odd.toList
  | keep {l m : List Nat} (lo hi : Nat) (h : Interleaved l m) :
      Interleaved (lo :: hi :: l) (lo :: hi :: m)
  | above {l m : List Nat} (lo hi : Nat) (hlo : CodePoint.last < lo) (h : Interleaved l m) :
      Interleaved l (lo :: hi :: m)

theorem length_le_one (h : ∀ lo hi rest, bounds = lo :: hi :: rest → False) :
    bounds.length ≤ 1 := by
  rcases bounds with _ | ⟨lo, _ | ⟨hi, rest⟩⟩
  · exact Nat.zero_le 1
  · exact Nat.le_refl 1
  · exact absurd rfl (h lo hi rest)

/-- The complete pairs start at the even places. -/
theorem mem_pairs_iff : (lo, hi) ∈ pairs bounds ↔
    ∃ i : Nat, bounds[2 * i]? = some lo ∧ bounds[2 * i + 1]? = some hi := by
  induction bounds using pairs.induct with
  | case1 first second rest ih =>
    rw [pairs, List.mem_cons, Prod.mk.injEq, ih]
    constructor
    · rintro (⟨rfl, rfl⟩ | ⟨i, hlo, hhi⟩)
      · exact ⟨0, rfl, rfl⟩
      · exact ⟨i + 1, hlo, hhi⟩
    · rintro ⟨i, hlo, hhi⟩
      cases i with
      | zero => exact .inl ⟨(Option.some.inj hlo).symm, (Option.some.inj hhi).symm⟩
      | succ i => exact .inr ⟨i, hlo, hhi⟩
  | case2 bounds hshort =>
    have hlength := length_le_one hshort
    have hnone : pairs bounds = [] := by
      rw [pairs]
      exact hshort
    rw [hnone]
    simp only [List.not_mem_nil, false_iff, not_exists, not_and]
    intro i _ hhi
    have hlt := (List.getElem?_eq_some_iff.mp hhi).choose
    omega

theorem liesInPair_iff :
    LiesInPair bounds c ↔ ∃ p ∈ pairs bounds, p.1 ≤ c ∧ c ≤ p.2 := by
  simp only [LiesInPair, Prod.exists, mem_pairs_iff]
  constructor
  · rintro ⟨i, lo, hi, hlo, hhi, hc⟩
    exact ⟨lo, hi, ⟨i, hlo, hhi⟩, hc⟩
  · rintro ⟨lo, hi, ⟨i, hlo, hhi⟩, hc⟩
    exact ⟨i, lo, hi, hlo, hhi, hc⟩

theorem pairsOrdered_iff : PairsOrdered bounds ↔ ∀ p ∈ pairs bounds, p.1 ≤ p.2 := by
  constructor
  · intro h p hp
    obtain ⟨i, hlo, hhi⟩ := mem_pairs_iff.mp hp
    exact h i _ _ hlo hhi
  · intro h i lo hi hlo hhi
    exact h (lo, hi) (mem_pairs_iff.mpr ⟨i, hlo, hhi⟩)

theorem pairs_append (h : front.length % 2 = 0) :
    pairs (front ++ rest) = pairs front ++ pairs rest := by
  induction front using pairs.induct with
  | case1 lo hi front ih =>
    simp only [List.length_cons] at h
    simp only [List.cons_append, pairs, ih (by omega)]
  | case2 front hshort =>
    have hlength := length_le_one hshort
    obtain rfl : front = [] := List.length_eq_zero_iff.mp (by omega)
    rfl

theorem unpack_eq_of_keptPairs (h : keptPairs l = keptPairs m) : unpack l = unpack m := by
  have hmem (bounds : List Nat) (c : Nat) :
      c ∈ unpack bounds ↔ c ≤ CodePoint.last ∧ ∃ p ∈ keptPairs bounds, p.1 ≤ c ∧ c ≤ p.2 := by
    rw [mem_unpack]
    simp only [keptPairs, List.mem_filter, decide_eq_true_eq]
    constructor
    · rintro ⟨hlast, p, hp, hlo, hhi⟩
      exact ⟨hlast, p, ⟨hp, Nat.le_trans hlo hlast⟩, hlo, hhi⟩
    · rintro ⟨hlast, p, ⟨hp, -⟩, hc⟩
      exact ⟨hlast, p, hp, hc⟩
  apply ext_of_mem_iff
  intro c
  rw [hmem, hmem, h]

theorem keptPairs_cons_of_above (hlo : CodePoint.last < lo) :
    keptPairs (lo :: hi :: rest) = keptPairs rest :=
  List.filter_cons_of_neg (by simpa using hlo)

theorem keptPairs_cons_of_le (hlo : lo ≤ CodePoint.last) :
    keptPairs (lo :: hi :: rest) = (lo, hi) :: keptPairs rest :=
  List.filter_cons_of_pos (by simpa using hlo)

theorem keptPairs_append (h : front.length % 2 = 0) :
    keptPairs (front ++ rest) = keptPairs front ++ keptPairs rest := by
  unfold keptPairs
  rw [pairs_append h, List.filter_append]

theorem Interleaved.keptPairs_eq (h : Interleaved l m) : keptPairs m = keptPairs l := by
  induction h with
  | ending odd =>
    cases odd with
    | none => rfl
    | some _ => rfl
  | keep lo hi _ ih =>
    by_cases hlo : lo ≤ CodePoint.last
    · rw [keptPairs_cons_of_le hlo, keptPairs_cons_of_le hlo, ih]
    · rw [keptPairs_cons_of_above (Nat.not_le.mp hlo), keptPairs_cons_of_above (Nat.not_le.mp hlo),
        ih]
  | above lo hi hlo _ ih => rw [keptPairs_cons_of_above hlo, ih]

theorem pairsOrdered_pack (s : CharSet) : PairsOrdered s.pack := by
  rw [pairsOrdered_iff, pack, pairs_flatMap]
  intro p hp
  obtain ⟨t, -, rfl⟩ := List.mem_map.mp hp
  exact t.lo_le_hi

end CharSet

namespace Machine
variable {bounds l m front rest : List Nat} {lo hi : Nat}

/-- Bounds of spans up to `CodePoint.last`, ascending and with gaps between them. -/
structure Canonical (l : List Bounds) : Prop where
  spans : ∀ t ∈ l, t.lo ≤ t.hi ∧ t.hi ≤ CodePoint.last
  gaps : l.Pairwise fun t u => t.hi + 1 < u.lo

theorem canonical_raw (s : CharSet) : Canonical s.raw where
  spans _ := CharSet.bounds_of_mem_raw
  gaps := s.pairwise_raw

theorem mem_raw_iff {s : CharSet} {c : Nat} : (∃ t ∈ s.raw, t.lo ≤ c ∧ c ≤ t.hi) ↔ c ∈ s := by
  simp only [CharSet.raw, List.mem_map]
  constructor
  · rintro ⟨-, ⟨t, ht, rfl⟩, hc⟩
    exact ⟨t, ht, hc⟩
  · rintro ⟨t, ht, hc⟩
    exact ⟨t.bounds, ⟨t, ht, rfl⟩, hc⟩

/-- The bounds of a pair that is kept, cut off at `CodePoint.last`. -/
def cutBounds (p : Nat × Nat) : Bounds :=
  ⟨p.1, min p.2 CodePoint.last⟩

/-- The union of the pairs of a flat list that start up to `CodePoint.last`. -/
def unpack (bounds : List Nat) : Checked (List Bounds) :=
  fromBounds ((CharSet.keptPairs bounds).map cutBounds)

theorem unpack_eq_of_keptPairs (h : CharSet.keptPairs l = CharSet.keptPairs m) :
    unpack l = unpack m := by
  unfold unpack
  rw [h]

/-- In pairs that are in order, to cut the ones that are kept is to make a span of each one that
makes a span. -/
theorem map_cutBounds {l : List (Nat × Nat)} (h : ∀ p ∈ l, p.1 ≤ p.2) :
    (l.filter (·.1 ≤ CodePoint.last)).map cutBounds =
      (l.filterMap CharSet.clippedSpan?).map Span.bounds := by
  induction l with
  | nil => rfl
  | cons p l ih =>
    obtain ⟨hp, hl⟩ := List.forall_mem_cons.mp h
    by_cases hlast : p.1 ≤ CodePoint.last
    · have hspan : CharSet.clippedSpan? p =
          some ⟨p.1, min p.2 CodePoint.last, Nat.le_min.mpr ⟨hp, hlast⟩, Nat.min_le_right _ _⟩ :=
        dif_pos (Nat.le_min.mpr ⟨hp, hlast⟩)
      rw [List.filter_cons_of_pos (by simpa using hlast), List.filterMap_cons_some hspan,
        List.map_cons, List.map_cons, ih hl]
      rfl
    · have hnone : CharSet.clippedSpan? p = none :=
        dif_neg fun hle => hlast (Nat.le_min.mp hle).2
      rw [List.filter_cons_of_neg (by simpa using hlast), List.filterMap_cons_none hnone, ih hl]

/-- Pairs in order are unpacked without a fault. -/
theorem unpack_raw (h : CharSet.PairsOrdered bounds) :
    unpack bounds = .ok (CharSet.unpack bounds).raw := by
  unfold unpack CharSet.keptPairs
  rw [map_cutBounds (CharSet.pairsOrdered_iff.mp h), fromBounds_eq]
  rfl

/-- Pairs in another order are not looked at; one above its end leaves bounds that no span has. -/
example : unpack [9, 3] = .ok [⟨9, 3⟩] := by
  cbv

theorem unpack_drop_pair (hfront : front.length % 2 = 0) (hlo : CodePoint.last < lo) :
    unpack (front ++ lo :: hi :: rest) = unpack (front ++ rest) := by
  apply unpack_eq_of_keptPairs
  rw [CharSet.keptPairs_append hfront, CharSet.keptPairs_append hfront,
    CharSet.keptPairs_cons_of_above hlo]

theorem unpack_cut_pair (hfront : front.length % 2 = 0) (hlo : lo ≤ CodePoint.last)
    (hhi : CodePoint.last ≤ hi) :
    unpack (front ++ lo :: hi :: rest) = unpack (front ++ lo :: CodePoint.last :: rest) := by
  have hcut : cutBounds (lo, hi) = cutBounds (lo, CodePoint.last) := by
    simp only [cutBounds, Nat.min_eq_right hhi, Nat.min_self]
  unfold unpack
  rw [CharSet.keptPairs_append hfront, CharSet.keptPairs_append hfront,
    CharSet.keptPairs_cons_of_le hlo, CharSet.keptPairs_cons_of_le hlo]
  simp only [List.map_append, List.map_cons, hcut]

/-- A packed set is unpacked without a fault, whatever pairs above `CodePoint.last` are between its
own. -/
theorem unpack_interleaved {s : CharSet} (h : CharSet.Interleaved s.pack m) :
    unpack m = .ok s.raw := by
  rw [unpack_eq_of_keptPairs h.keptPairs_eq, unpack_raw s.pairsOrdered_pack, CharSet.unpack_pack]

/-- A flat list with its pairs in order is unpacked to canonical bounds of the code points up to
`CodePoint.last` that lie in some complete pair, which are the bounds of the set that the library
makes. Pairs above `CodePoint.last` could be left out, and those across it could end there. A packed
set comes back from its own bounds, also with pairs above `CodePoint.last` between them. -/
theorem packed_sets_decode (bounds : List Nat) (h : CharSet.PairsOrdered bounds) :
    (∃ raw, unpack bounds = .ok raw ∧ Canonical raw ∧ raw = (CharSet.unpack bounds).raw ∧
      ∀ c, (∃ t ∈ raw, t.lo ≤ c ∧ c ≤ t.hi) ↔
        c ≤ CodePoint.last ∧ CharSet.LiesInPair bounds c) ∧
    (∀ (front : List Nat) (lo hi : Nat) (rest : List Nat),
      bounds = front ++ lo :: hi :: rest → front.length % 2 = 0 →
      (CodePoint.last < lo → unpack bounds = unpack (front ++ rest)) ∧
      (lo ≤ CodePoint.last → CodePoint.last ≤ hi →
        unpack bounds = unpack (front ++ lo :: CodePoint.last :: rest))) ∧
    ∀ (s : CharSet) (m : List Nat), CharSet.Interleaved s.pack m →
      unpack m = .ok s.raw ∧ CharSet.unpack m = s := by
  refine ⟨⟨_, unpack_raw h, canonical_raw _, rfl, ?_⟩, ?_, ?_⟩
  · intro c
    rw [mem_raw_iff, CharSet.mem_unpack, CharSet.liesInPair_iff]
  · rintro front lo hi rest rfl hfront
    exact ⟨unpack_drop_pair hfront, unpack_cut_pair hfront⟩
  · intro s m hm
    have hset : CharSet.unpack m = s := by
      rw [CharSet.unpack_eq_of_keptPairs hm.keptPairs_eq, CharSet.unpack_pack]
    exact ⟨unpack_interleaved hm, hset⟩

/-- Pairs in any order, two across `CodePoint.last` that are the same once they are cut, one above
it and a bound without a partner; and a packed set with pairs and a bound put in. -/
theorem packed_sets_decode_latin :
    let bounds :=
      [0xFF00, 0x10FFFF, 0x61, 0x7A, 0x10000, 0x1FFFF, 0x41, 0x60, 0xFF00, 0x1FFFF, 0x5B]
    let s : CharSet := CharSet.ofSpan ⟨0x41, 0x5A, by decide, by decide⟩
    let m := [0x10000, 0x1FFFF, 0x41, 0x5A, 0x20000, 0x10FFFF, 0x61]
    CharSet.PairsOrdered bounds ∧ unpack bounds = .ok [⟨0x41, 0x7A⟩, ⟨0xFF00, 0xFFFF⟩] ∧
      CharSet.Interleaved s.pack m ∧ unpack m = .ok [⟨0x41, 0x5A⟩] := by
  intro bounds s m
  have hordered : CharSet.PairsOrdered bounds := CharSet.pairsOrdered_iff.mpr (by decide)
  obtain ⟨⟨raw, hraw, -, hset, -⟩, -, hback⟩ := packed_sets_decode bounds hordered
  have hbounds : (CharSet.unpack bounds).raw = [⟨0x41, 0x7A⟩, ⟨0xFF00, 0xFFFF⟩] := by decide
  have hm : CharSet.Interleaved s.pack m :=
    .above _ _ (by decide) (.keep _ _ (.above _ _ (by decide) (.ending (some 0x61))))
  rw [hset, hbounds] at hraw
  exact ⟨hordered, hraw, hm, (hback s m hm).1⟩

end Machine

end ScannerAlphabet
