import ScannerAlphabet.Proofs.VariantGroups

/-!
# Classes of case variants

What a code point gets from the groups of any tables, in terms of the places of the flat list
that they are cut from. `variants?_isSome_iff` says which code points get a set, and
`exists_lastInGroup` that it is made of the last group that lists them. When no code point is
listed in two groups, the sets are the classes of an equivalence: a code point is in its set, and
all members share it. The main statement has all of this, and that the groups of every version
are of this kind.
-/
namespace ScannerAlphabet.Unicode

namespace VariantTable
variable {g : List Nat} {gs : List (List Nat)} {c size : Nat}

/-- The groups are the stretches of the list that start at the multiples of the size. -/
theorem getElem?_chunks (hsize : 0 < size) (l : List Nat) (i : Nat) :
    (chunks size l)[i]? =
      if (i + 1) * size ≤ l.length then some ((l.drop (i * size)).take size) else none := by
  induction i generalizing l with
  | zero =>
    rw [chunks, Nat.zero_add, Nat.one_mul, Nat.zero_mul, List.drop_zero]
    by_cases hl : size ≤ l.length
    · rw [dif_pos ⟨hsize, hl⟩, if_pos hl]
      rfl
    · rw [dif_neg fun h => hl h.2, if_neg hl]
      rfl
  | succ i ih =>
    have hmul : (i + 1 + 1) * size = (i + 1) * size + size := Nat.succ_mul (i + 1) size
    rw [chunks]
    by_cases hl : size ≤ l.length
    · have hdrop : size + i * size = (i + 1) * size := by rw [Nat.succ_mul, Nat.add_comm]
      have hlength : (i + 1) * size ≤ (l.drop size).length ↔ (i + 1 + 1) * size ≤ l.length := by
        rw [List.length_drop]
        omega
      rw [dif_pos ⟨hsize, hl⟩, List.getElem?_cons_succ, ih, List.drop_drop, hdrop]
      exact if_congr hlength rfl rfl
    · rw [dif_neg fun h => hl h.2, if_neg (by omega)]
      rfl

theorem lastGroup?_cons :
    lastGroup? (g :: gs) c = (lastGroup? gs c).or (if c ∈ members g then some g else none) := by
  rw [lastGroup?, lastGroup?, List.reverse_cons, List.find?_append]
  simp

theorem exists_index_of_lastGroup? (h : lastGroup? gs c = some g) :
    ∃ i, gs[i]? = some g ∧ ∀ (j : Nat) (k : List Nat), i < j → gs[j]? = some k →
      c ∉ members k := by
  induction gs with
  | nil => cases h
  | cons g' gs ih =>
    rw [lastGroup?_cons] at h
    cases hlast : lastGroup? gs c with
    | some k =>
      rw [hlast] at h
      obtain ⟨i, hi, hlater⟩ := ih (hlast.trans h)
      exists i + 1, hi
      intro j k hj hk
      cases j with
      | zero => omega
      | succ j => exact hlater j k (by omega) hk
    | none =>
      rw [hlast, Option.none_or] at h
      have hg : g' = g := by
        split at h
        · exact Option.some.inj h
        · cases h
      exists 0, congrArg some hg
      intro j k hj hk hck
      cases j with
      | zero => omega
      | succ j =>
        have hmem : k ∈ gs := List.mem_of_getElem? hk
        obtain ⟨k', hk'⟩ := exists_lastGroup? hmem hck
        rw [hlast] at hk'
        cases hk'

end VariantTable

namespace Tables
open VariantTable
variable {t : Tables} {s : CharSet} {i c d : Nat}

/-- The code point is listed in the complete group with the number. -/
def InGroup (t : Tables) (i c : Nat) : Prop :=
  (i + 1) * t.groupSize ≤ t.variants.length ∧
    ∃ j < t.groupSize, t.variants[i * t.groupSize + j]? = some c

/-- No code point that character sets can hold, zero apart, is listed in two groups. -/
def GroupsApart (t : Tables) : Prop :=
  ∀ i j c, i ≠ j → 0 < c → c ≤ CodePoint.last → t.InGroup i c → ¬t.InGroup j c

theorem inGroup_iff (hsize : 0 < t.groupSize) :
    t.InGroup i c ↔ ∃ g, (chunks t.groupSize t.variants)[i]? = some g ∧ c ∈ g := by
  have hmem : c ∈ (t.variants.drop (i * t.groupSize)).take t.groupSize ↔
      ∃ j < t.groupSize, t.variants[i * t.groupSize + j]? = some c := by
    rw [List.mem_iff_getElem?]
    constructor
    · intro ⟨j, hj⟩
      rw [List.getElem?_take] at hj
      split at hj
      · rename_i hlt
        exact ⟨j, hlt, List.getElem?_drop ▸ hj⟩
      · cases hj
    · intro ⟨j, hlt, hj⟩
      exists j
      rw [List.getElem?_take, if_pos hlt, List.getElem?_drop]
      exact hj
  rw [getElem?_chunks hsize, InGroup, ← hmem]
  constructor
  · intro ⟨hle, hc⟩
    exact ⟨_, if_pos hle, hc⟩
  · intro ⟨g, hg, hc⟩
    split at hg
    · rename_i hle
      exact ⟨hle, Option.some.inj hg ▸ hc⟩
    · cases hg

theorem mem_members_iff (hsize : 0 < t.groupSize) {g : List Nat}
    (hg : (chunks t.groupSize t.variants)[i]? = some g) :
    c ∈ members g ↔ 0 < c ∧ c ≤ CodePoint.last ∧ t.InGroup i c := by
  have hin : t.InGroup i c ↔ c ∈ g := by
    rw [inGroup_iff hsize, hg]
    constructor
    · intro ⟨g', hg', hc⟩
      exact Option.some.inj hg' ▸ hc
    · intro hc
      exact ⟨g, rfl, hc⟩
  rw [mem_members, hin, and_comm, and_assoc]

theorem groupsApart_iff (hsize : 0 < t.groupSize) :
    t.GroupsApart ↔ Apart (chunks t.groupSize t.variants) := by
  constructor
  · intro hapart
    refine List.pairwise_iff_getElem.mpr ?_
    intro i j hi hj hij c hci hcj
    have hci := (mem_members_iff hsize (List.getElem?_eq_getElem hi)).mp hci
    have hcj := (mem_members_iff hsize (List.getElem?_eq_getElem hj)).mp hcj
    exact hapart i j c (Nat.ne_of_lt hij) hci.1 hci.2.1 hci.2.2 hcj.2.2
  · intro hapart
    have hlt : ∀ i j c, i < j → 0 < c → c ≤ CodePoint.last → t.InGroup i c →
        ¬t.InGroup j c := by
      intro i j c hij hpos hlast hi hj
      obtain ⟨g, hg, hcg⟩ := (inGroup_iff hsize).mp hi
      obtain ⟨h, hh, hch⟩ := (inGroup_iff hsize).mp hj
      obtain ⟨hilt, rfl⟩ := List.getElem?_eq_some_iff.mp hg
      obtain ⟨hjlt, rfl⟩ := List.getElem?_eq_some_iff.mp hh
      exact List.pairwise_iff_getElem.mp hapart i j hilt hjlt hij
        (mem_members.mpr ⟨hcg, hpos, hlast⟩) (mem_members.mpr ⟨hch, hpos, hlast⟩)
    intro i j c hne hpos hlast hi hj
    rcases Nat.lt_or_gt_of_ne hne with hij | hji
    · exact hlt i j c hij hpos hlast hi hj
    · exact hlt j i c hji hpos hlast hj hi

end Tables

namespace Database
open VariantTable
variable {t : Tables} {s : CharSet} {c d : Nat}

theorem exists_lastInGroup (hsize : 0 < t.groupSize) (hmax : CodePoint.last ≤ t.maximum)
    (hs : (ofTables t).variants? c = some s) :
    ∃ i, t.InGroup i c ∧ (∀ j, i < j → ¬t.InGroup j c) ∧
      ∀ d, d ∈ s ↔ 0 < d ∧ d ≤ CodePoint.last ∧ t.InGroup i d := by
  rw [variants?_ofTables hmax] at hs
  obtain ⟨g, hlast, rfl⟩ := Option.map_eq_some_iff.mp hs
  obtain ⟨i, hi, hlater⟩ := exists_index_of_lastGroup? hlast
  have hc := (Tables.mem_members_iff hsize hi).mp (mem_of_lastGroup? hlast).2
  exists i, hc.2.2
  constructor
  · intro j hij hj
    obtain ⟨k, hk, _⟩ := (Tables.inGroup_iff hsize).mp hj
    exact hlater j k hij hk ((Tables.mem_members_iff hsize hk).mpr ⟨hc.1, hc.2.1, hj⟩)
  · intro d
    rw [mem_groupSet, Tables.mem_members_iff hsize hi]

theorem variants?_isSome_iff (hsize : 0 < t.groupSize) (hmax : CodePoint.last ≤ t.maximum) :
    ((ofTables t).variants? c).isSome ↔ 0 < c ∧ c ≤ CodePoint.last ∧ ∃ i, t.InGroup i c := by
  rw [variants?_ofTables hmax, Option.isSome_map]
  constructor
  · intro h
    obtain ⟨g, hlast⟩ := Option.isSome_iff_exists.mp h
    obtain ⟨i, hi, _⟩ := exists_index_of_lastGroup? hlast
    have hc := (Tables.mem_members_iff hsize hi).mp (mem_of_lastGroup? hlast).2
    exact ⟨hc.1, hc.2.1, i, hc.2.2⟩
  · intro ⟨hpos, hle, i, hi⟩
    obtain ⟨g, hg, _⟩ := (Tables.inGroup_iff hsize).mp hi
    have hc := (Tables.mem_members_iff hsize hg).mpr ⟨hpos, hle, hi⟩
    exact Option.isSome_iff_exists.mpr (exists_lastGroup? (List.mem_of_getElem? hg) hc)

/-- Groups that are apart are classes: a code point is in its set, and all members share it. -/
theorem mem_and_shared_of_apart (hmax : CodePoint.last ≤ t.maximum)
    (hapart : Apart (chunks t.groupSize t.variants)) (hs : (ofTables t).variants? c = some s) :
    c ∈ s ∧ ∀ d ∈ s, (ofTables t).variants? d = some s := by
  rw [variants?_ofTables hmax] at hs
  obtain ⟨g, hlast, rfl⟩ := Option.map_eq_some_iff.mp hs
  obtain ⟨hg, hc⟩ := mem_of_lastGroup? hlast
  constructor
  · exact mem_groupSet.mpr hc
  · intro d hd
    have hd : d ∈ members g := mem_groupSet.mp hd
    obtain ⟨h, hlast'⟩ := exists_lastGroup? hg hd
    obtain ⟨hh, hdh⟩ := mem_of_lastGroup? hlast'
    have hgh : h = g := hapart.eq_of_mem hh hg hdh hd
    rw [variants?_ofTables hmax, hlast', hgh]
    rfl

theorem classes_of_groupsApart (hsize : 0 < t.groupSize) (hmax : CodePoint.last ≤ t.maximum)
    (hgroups : t.GroupsApart) :
    (∀ c s, (ofTables t).variants? c = some s →
      c ∈ s ∧ ∀ d ∈ s, (ofTables t).variants? d = some s) ∧
    Equivalence (ofTables t).caselessSource.Linked := by
  have hapart := (Tables.groupsApart_iff hsize).mp hgroups
  constructor
  · intro c s hs
    exact mem_and_shared_of_apart hmax hapart hs
  · exact equivalence_linked_ofTables hmax hapart

end Database

theorem Edition.groupsApart (v : Version) : (tables v).GroupsApart := by
  have hsize : 0 < (tables v).groupSize := by
    have hgroup : (tables v).groupSize = groupSize := by simp only [tables]
    rw [hgroup]
    decide
  rw [Tables.groupsApart_iff hsize, variants_tables]
  exact apart_variantsIn (Repertoire.assigned v)

open Database in
/-- Tables with groups of some size and room for all code points that character sets can hold
give a set exactly to the code points that a complete group lists, made of the last group that
lists it. When the groups are apart, as they are in every version, the sets are the classes of an
equivalence. -/
theorem Tables.variants_decode :
    (∀ t : Tables, 0 < t.groupSize → CodePoint.last ≤ t.maximum →
      (∀ c, ((ofTables t).variants? c).isSome ↔
        0 < c ∧ c ≤ CodePoint.last ∧ ∃ i, t.InGroup i c) ∧
      (∀ c s, (ofTables t).variants? c = some s → ∃ i, t.InGroup i c ∧
        (∀ j, i < j → ¬t.InGroup j c) ∧
        ∀ d, d ∈ s ↔ 0 < d ∧ d ≤ CodePoint.last ∧ t.InGroup i d) ∧
      (t.GroupsApart →
        (∀ c s, (ofTables t).variants? c = some s →
          c ∈ s ∧ ∀ d ∈ s, (ofTables t).variants? d = some s) ∧
        Equivalence (ofTables t).caselessSource.Linked)) ∧
    ∀ v : Version, (Edition.tables v).GroupsApart ∧
      Equivalence (ofVersion v).caselessSource.Linked := by
  constructor
  · intro t hsize hmax
    refine ⟨?_, ?_, classes_of_groupsApart hsize hmax⟩
    · intro c
      exact variants?_isSome_iff hsize hmax
    · intro c s hs
      exact exists_lastInGroup hsize hmax hs
  · intro v
    exact ⟨Edition.groupsApart v, equivalence_linked_ofVersion v⟩

open Database VariantTable in
/-- The letters `k`, with a variant far above, share a set, and a group above all character sets
has none, nor has the part of a group at the end. -/
theorem Tables.variants_decode_letters :
    let t : Tables :=
      { version := "letters", maximum := 0x10FFFF, values := [], aliases := [],
        variants := [0x4B, 0x6B, 0x212A, 0x10400, 0x10428, 0, 0x73, 0, 0, 0x42, 0x62],
        groupSize := 3 }
    0 < t.groupSize ∧ CodePoint.last ≤ t.maximum ∧ t.GroupsApart ∧
      (∃ s, (ofTables t).variants? 0x212A = some s ∧ 0x4B ∈ s ∧ 0x73 ∉ s ∧
        (ofTables t).variants? 0x6B = some s) ∧
      ((ofTables t).variants? 0x73).isSome ∧ ¬((ofTables t).variants? 0x10428).isSome ∧
      ¬((ofTables t).variants? 0x42).isSome := by
  intro t
  have hsize : 0 < t.groupSize := by decide
  have hmax : CodePoint.last ≤ t.maximum := by decide
  have hchunks : chunks t.groupSize t.variants =
      [[0x4B, 0x6B, 0x212A], [0x10400, 0x10428, 0], [0x73, 0, 0]] := by
    simp [t, chunks]
  have hapart : t.GroupsApart := by
    rw [groupsApart_iff hsize, hchunks]
    simp [Apart, members, CodePoint.last, List.Disjoint]
  obtain ⟨hisSome, hlast, hclasses⟩ := Tables.variants_decode.1 t hsize hmax
  have hin : ∀ i c, t.InGroup i c ↔ i = 0 ∧ c ∈ [0x4B, 0x6B, 0x212A] ∨
      i = 1 ∧ c ∈ [0x10400, 0x10428, 0] ∨ i = 2 ∧ c ∈ [0x73, 0, 0] := by
    intro i c
    rw [inGroup_iff hsize, hchunks]
    rcases i with _ | _ | _ | i <;> simp
  have hkelvin : ((ofTables t).variants? 0x212A).isSome :=
    (hisSome 0x212A).mpr ⟨by decide, by decide, 0, by simp [hin]⟩
  obtain ⟨s, hs⟩ := Option.isSome_iff_exists.mp hkelvin
  obtain ⟨i, hi, -, hmem⟩ := hlast 0x212A s hs
  have hi : i = 0 := by simpa [hin] using hi
  have hk : 0x6B ∈ s ∧ 0x4B ∈ s ∧ 0x73 ∉ s := by simp [hmem, hin, hi, CodePoint.last]
  have hshared := ((hclasses hapart).1 0x212A s hs).2 0x6B hk.1
  refine ⟨hsize, hmax, hapart, ⟨s, hs, hk.2.1, hk.2.2, hshared⟩, ?_, ?_, ?_⟩
  · exact (hisSome 0x73).mpr ⟨by decide, by decide, 2, by simp [hin]⟩
  · simp [hisSome, hin, CodePoint.last]
  · simp [hisSome, hin]

end ScannerAlphabet.Unicode
