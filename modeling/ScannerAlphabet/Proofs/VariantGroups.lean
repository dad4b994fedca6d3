import Mathlib.Data.List.Pairwise
import Mathlib.Data.List.Nodup
import Mathlib.Data.Nat.Bitwise
import ScannerAlphabet.Unicode.Database

/-!
# Case variants from groups

A table of case variants is made from groups of code points. `variants?_ofTables` says what
each code point gets: the members of the last group that has it. When no code point is in two
groups, being equal to a code point or among its variants is an equivalence. The groups of
every version are parts of the groups of the latest one, in which no number repeats; that is
checked once, on the whole list, with the numbers seen so far as the bits of one number.
-/
namespace ScannerAlphabet

/-- The code points are the same, or the second is a variant of the first. -/
def CaselessSource.Linked (source : CaselessSource) (c d : Nat) : Prop :=
  c = d ∨ ∃ v ∈ source.variants? c, d ∈ v

namespace Unicode

namespace VariantTable
variable {g h : List Nat} {gs : List (List Nat)} {t : VariantTable} {s : CharSet}
  {c maximum size : Nat}

/-- The members of a group as a set. -/
def groupSet (g : List Nat) : CharSet :=
  CharSet.unpack ((members g).flatMap fun c => [c, c])

theorem mem_members : c ∈ members g ↔ c ∈ g ∧ 0 < c ∧ c ≤ CodePoint.last := by
  simp [members]

theorem mem_groupSet : c ∈ groupSet g ↔ c ∈ members g := by
  rw [groupSet, CharSet.mem_unpack, CharSet.pairs_flatMap (fun c => c) fun c => c]
  constructor
  · intro ⟨_, p, hp, hlo, hhi⟩
    obtain ⟨d, hd, rfl⟩ := List.mem_map.mp hp
    have hdc : d = c := Nat.le_antisymm hlo hhi
    exact hdc ▸ hd
  · intro hc
    exact ⟨(mem_members.mp hc).2.2, (c, c), List.mem_map.mpr ⟨c, hc, rfl⟩, Nat.le_refl _,
      Nat.le_refl _⟩

theorem lookup_foldl_insert (l : List Nat) (m : Std.TreeMap Nat CharSet) :
    (l.foldl (fun m c => if c ≤ maximum then m.insert c s else m) m)[c]? =
      if c ∈ l ∧ c ≤ maximum then some s else m[c]? := by
  induction l generalizing m with
  | nil => simp
  | cons d l ih =>
    rw [List.foldl_cons, ih]
    by_cases hd : d ≤ maximum
    · rw [if_pos hd, Std.TreeMap.getElem?_insert]
      simp only [List.mem_cons, Nat.compare_eq_eq]
      grind
    · rw [if_neg hd]
      simp only [List.mem_cons]
      grind

theorem lookup_addGroup (hmax : CodePoint.last ≤ maximum) :
    (addGroup maximum t g).lookup[c]? =
      if c ∈ members g then some (groupSet g) else t.lookup[c]? := by
  have hle : c ∈ members g ∧ c ≤ maximum ↔ c ∈ members g :=
    and_iff_left_of_imp fun hc => Nat.le_trans (mem_members.mp hc).2.2 hmax
  unfold addGroup
  split
  · rename_i hempty
    rw [List.isEmpty_iff.mp hempty]
    simp
  · rw [lookup_foldl_insert, if_congr hle rfl rfl]
    rfl

/-- The last group that has a code point. -/
def lastGroup? (gs : List (List Nat)) (c : Nat) : Option (List Nat) :=
  gs.reverse.find? fun g => c ∈ members g

theorem mem_of_lastGroup? (h : lastGroup? gs c = some g) : g ∈ gs ∧ c ∈ members g := by
  have hc := List.find?_some h
  exact ⟨List.mem_reverse.mp (List.mem_of_find?_eq_some h), of_decide_eq_true hc⟩

theorem exists_lastGroup? (hg : g ∈ gs) (hc : c ∈ members g) : ∃ h, lastGroup? gs c = some h := by
  have hsome : (lastGroup? gs c).isSome :=
    List.find?_isSome.mpr ⟨g, List.mem_reverse.mpr hg, decide_eq_true hc⟩
  exact Option.isSome_iff_exists.mp hsome

/-- A code point gets the members of the last group that has it. -/
theorem lookup_foldl_addGroup (hmax : CodePoint.last ≤ maximum) :
    (gs.foldl (addGroup maximum) t).lookup[c]? =
      ((lastGroup? gs c).map groupSet).or t.lookup[c]? := by
  induction gs generalizing t with
  | nil => rfl
  | cons g gs ih =>
    rw [List.foldl_cons, ih, lookup_addGroup hmax, lastGroup?, lastGroup?, List.reverse_cons,
      List.find?_append]
    by_cases hg : c ∈ members g
    · cases hfind : gs.reverse.find? fun g => c ∈ members g with
      | none => simp [hg]
      | some h => rfl
    · simp [hg]

/-- No code point that character sets can hold is in two of the groups. -/
def Apart (gs : List (List Nat)) : Prop :=
  gs.Pairwise fun g h => List.Disjoint (members g) (members h)

theorem Apart.eq_of_mem (hapart : Apart gs) (hg : g ∈ gs) (hh : h ∈ gs) (hcg : c ∈ members g)
    (hch : c ∈ members h) : g = h := by
  have : Std.Symm fun g h => List.Disjoint (members g) (members h) :=
    ⟨fun _ _ hgh _ hch hcg => hgh hcg hch⟩
  by_contra hne
  exact List.Pairwise.forall hapart hg hh hne hcg hch

theorem chunks_flatten (hsize : 0 < size) (hgs : ∀ g ∈ gs, g.length = size) :
    chunks size gs.flatten = gs := by
  induction gs with
  | nil =>
    rw [chunks, dif_neg]
    rw [List.flatten_nil, List.length_nil]
    omega
  | cons g gs ih =>
    have hg : g.length = size := hgs g List.mem_cons_self
    rw [chunks, List.flatten_cons, dif_pos]
    · rw [List.take_left' hg, List.drop_left' hg, ih fun h hh => hgs h (List.mem_cons_of_mem _ hh)]
    · simp only [List.length_append]
      omega

end VariantTable

namespace Database
open VariantTable
variable {t : Tables} {c d : Nat}

theorem variants?_ofTables (hmax : CodePoint.last ≤ t.maximum) :
    (ofTables t).variants? c =
      (lastGroup? (chunks t.groupSize t.variants) c).map groupSet := by
  have hlookup : (ofTables t).variants? c = t.variantTable.lookup[c]? := rfl
  rw [hlookup, Tables.variantTable, lookup_foldl_addGroup hmax]
  simp

/-- The variants of a code point are the members of the group that has it. -/
theorem exists_variants_iff (hmax : CodePoint.last ≤ t.maximum)
    (hapart : Apart (chunks t.groupSize t.variants)) :
    (∃ v ∈ (ofTables t).variants? c, d ∈ v) ↔
      ∃ g ∈ chunks t.groupSize t.variants, c ∈ members g ∧ d ∈ members g := by
  rw [variants?_ofTables hmax]
  constructor
  · intro ⟨v, hv, hd⟩
    obtain ⟨g, hlast, rfl⟩ := Option.map_eq_some_iff.mp hv
    obtain ⟨hg, hc⟩ := mem_of_lastGroup? hlast
    exact ⟨g, hg, hc, mem_groupSet.mp hd⟩
  · intro ⟨g, hg, hc, hd⟩
    obtain ⟨h, hlast⟩ := exists_lastGroup? hg hc
    obtain ⟨hh, hch⟩ := mem_of_lastGroup? hlast
    have hgh : g = h := hapart.eq_of_mem hg hh hc hch
    exact ⟨groupSet h, Option.map_eq_some_iff.mpr ⟨h, hlast, rfl⟩, mem_groupSet.mpr (hgh ▸ hd)⟩

theorem equivalence_linked_ofTables (hmax : CodePoint.last ≤ t.maximum)
    (hapart : Apart (chunks t.groupSize t.variants)) :
    Equivalence (ofTables t).caselessSource.Linked where
  refl _ := .inl rfl
  symm {c d} hcd := by
    rcases hcd with rfl | hcd
    · exact .inl rfl
    · obtain ⟨g, hg, hc, hd⟩ := (exists_variants_iff hmax hapart).mp hcd
      exact .inr ((exists_variants_iff hmax hapart).mpr ⟨g, hg, hd, hc⟩)
  trans {c d e} hcd hde := by
    rcases hcd with rfl | hcd
    · exact hde
    rcases hde with rfl | hde
    · exact .inr hcd
    obtain ⟨g, hg, hc, hd⟩ := (exists_variants_iff hmax hapart).mp hcd
    obtain ⟨h, hh, hd', he⟩ := (exists_variants_iff hmax hapart).mp hde
    have hgh : g = h := hapart.eq_of_mem hg hh hd hd'
    exact .inr ((exists_variants_iff hmax hapart).mpr ⟨g, hg, hc, hgh ▸ he⟩)

end Database

namespace CaseGroups

/-- Whether no number of the list repeats or is a bit of `seen`. -/
def distinctFrom (seen : Nat) : List Nat → Bool
  | [] => true
  | c :: l => !seen.testBit c && distinctFrom (seen ||| 1 <<< c) l

theorem nodup_of_distinctFrom {l : List Nat} (seen : Nat) (h : distinctFrom seen l = true) :
    l.Nodup ∧ ∀ c ∈ l, seen.testBit c = false := by
  induction l generalizing seen with
  | nil => simp
  | cons c l ih =>
    rw [distinctFrom, Bool.and_eq_true, Bool.not_eq_true'] at h
    obtain ⟨hnodup, hunseen⟩ := ih _ h.2
    have hl : ∀ d ∈ l, seen.testBit d = false ∧ c ≠ d := by
      intro d hd
      have hbit := hunseen d hd
      rw [Nat.testBit_or, Bool.or_eq_false_iff, Nat.one_shiftLeft, Nat.testBit_two_pow] at hbit
      exact ⟨hbit.1, of_decide_eq_false hbit.2⟩
    refine ⟨List.nodup_cons.mpr ⟨fun hc => (hl c hc).2 rfl, hnodup⟩, ?_⟩
    intro d hd
    rcases List.mem_cons.mp hd with rfl | hd
    · exact h.1
    · exact (hl d hd).1

theorem nodup_flatten_all : all.flatten.Nodup :=
  (nodup_of_distinctFrom 0 (by decide +kernel)).1

theorem length_le_of_mem_all : ∀ g ∈ all, g.length ≤ Edition.groupSize := by
  decide +kernel

end CaseGroups

namespace Edition
open VariantTable
variable {repertoire : CharSet} {g : List Nat} {c : Nat}

theorem length_restrictGroup (hg : g.length ≤ groupSize) (h : restrictGroup repertoire g ≠ []) :
    (restrictGroup repertoire g).length = groupSize := by
  have hfilter := List.length_filter_le repertoire.contains g
  unfold restrictGroup at h ⊢
  simp only at h ⊢
  split at h
  · exact absurd rfl h
  · rename_i hlen
    rw [if_neg hlen, List.length_append, List.length_replicate]
    omega

theorem mem_of_mem_restrictGroup (hc : c ∈ members (restrictGroup repertoire g)) : c ∈ g := by
  obtain ⟨hmem, hpos, _⟩ := mem_members.mp hc
  unfold restrictGroup at hmem
  simp only at hmem
  split at hmem
  · simp at hmem
  · rcases List.mem_append.mp hmem with hkept | hzero
    · exact (List.mem_filter.mp hkept).1
    · have := List.eq_of_mem_replicate hzero
      omega

/-- The groups of a version are those of the latest one that it has a part of. -/
theorem chunks_variantsIn : chunks groupSize (variantsIn repertoire) =
    (CaseGroups.all.map (restrictGroup repertoire)).filter fun g => !g.isEmpty := by
  rw [variantsIn, List.flatMap_def, ← List.flatten_filter_not_isEmpty]
  refine chunks_flatten (by decide) fun g hg => ?_
  obtain ⟨hmem, hne⟩ := List.mem_filter.mp hg
  obtain ⟨h, hh, rfl⟩ := List.mem_map.mp hmem
  exact length_restrictGroup (CaseGroups.length_le_of_mem_all h hh) (by simpa using hne)

theorem apart_variantsIn (repertoire : CharSet) :
    Apart (chunks groupSize (variantsIn repertoire)) := by
  rw [chunks_variantsIn]
  refine List.Pairwise.filter _ (List.pairwise_map.mpr ?_)
  refine (List.nodup_flatten.mp CaseGroups.nodup_flatten_all).2.imp ?_
  exact fun hgh _ hcg hch => hgh (mem_of_mem_restrictGroup hcg) (mem_of_mem_restrictGroup hch)

theorem variants_tables (v : Version) :
    (tables v).variants = variantsIn (Repertoire.assigned v) := by
  simp only [tables]

end Edition

theorem Version.last_le_maximum (v : Version) : CodePoint.last ≤ v.maximum := by
  cases v <;> decide

open VariantTable in
/-- In every version, being equal or a case variant is an equivalence. -/
theorem Database.equivalence_linked_ofVersion (v : Version) :
    Equivalence (ofVersion v).caselessSource.Linked := by
  have hmax : CodePoint.last ≤ (Edition.tables v).maximum := v.last_le_maximum
  have hapart : Apart (chunks (Edition.tables v).groupSize (Edition.tables v).variants) := by
    rw [Edition.variants_tables]
    exact Edition.apart_variantsIn (Repertoire.assigned v)
  exact equivalence_linked_ofTables hmax hapart

end Unicode

end ScannerAlphabet
