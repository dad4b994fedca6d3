import Mathlib.Data.List.Nodup
import Mathlib.Tactic.IntervalCases
import ScannerAlphabet.Proofs.ClassCodes
import ScannerAlphabet.Unicode.Edition
import ScannerAlphabet.Unicode.Bindings

/-!
# What the names of some tables stand for

The values of some tables are bound first, each to its own set, and the first letter of the names
of two letters to the union of their sets, wherever they stand in the list. The aliases are then
read in order, and an alias counts when its target stands for something at that moment and the
alias does not. `bindingsAfter_eq_some_iff` follows the reading to its end: the first alias of a
name with a target that is known when it is read decides, unless the values know the name already.
The main statement gives all entries of the map for tables that are well formed, as those of every
version are.
-/
namespace ScannerAlphabet.Unicode

/-- Whether all characters of a name are ASCII ones. -/
def isAscii (name : String) : Bool :=
  name.toList.all fun c => c.toNat < 0x80

namespace Bindings
variable {b : Bindings} {name n : String} {s : CharSet} {v : String × List Nat}

theorem getElem?_addAlias (b : Bindings) (pair : String × String) (n : String) :
    (b.addAlias pair)[n]? = if n = pair.1 then b[n]?.or b[pair.2]? else b[n]? := by
  unfold addAlias
  cases htarget : b[pair.2]? with
  | none => simp only [Option.or_none, ite_self]
  | some s =>
    simp only [Std.TreeMap.getElem?_insertIfNew, Std.compare_eq_iff_eq, eq_comm (a := pair.1),
      Std.TreeMap.mem_iff_isSome_getElem?]
    by_cases hn : n = pair.1
    · subst hn
      cases b[pair.1]? with
      | none => simp
      | some u => simp
    · simp [hn]

theorem getElem?_addFixed (b : Bindings) (n : String) : b.addFixed[n]? =
    if n = "any" then some (CharSet.upTo CodePoint.last)
    else if n = "ascii" then some (CharSet.upTo 0x7F) else b[n]? := by
  unfold addFixed
  simp only [Std.TreeMap.getElem?_insert, Std.compare_eq_iff_eq, eq_comm (b := n)]

theorem groupOf?_eq_some_iff : groupOf? name = some n ↔
    ∃ x y, name = String.ofList [x, y] ∧ n = String.singleton x := by
  unfold groupOf?
  constructor
  · intro h
    split at h
    · rename_i x y hname
      exact ⟨x, y, String.toList_inj.mp (hname.trans String.toList_ofList.symm),
        (Option.some.inj h).symm⟩
    · cases h
  · intro ⟨x, y, hname, hn⟩
    rw [hname, hn, String.toList_ofList]

theorem getElem?_addValue (b : Bindings) (v : String × List Nat) (n : String) :
    (b.addValue v)[n]? =
      if n = v.1 then some (CharSet.unpack v.2)
      else if groupOf? v.1 = some n then some (b[n]?.getD ∅ ∪ CharSet.unpack v.2)
      else b[n]? := by
  unfold addValue
  cases hgroup : groupOf? v.1 with
  | none =>
    simp only [Std.TreeMap.getElem?_insert, Std.compare_eq_iff_eq, eq_comm (b := n), reduceCtorEq,
      if_false]
  | some group =>
    simp only [extend, Std.TreeMap.getElem?_insert, Std.compare_eq_iff_eq, eq_comm (b := n),
      Option.some.injEq]
    by_cases hn : n = group
    · rw [hn]
    · simp only [hn, if_false]

/-- The sets of the values whose group has the name. -/
def groupSets (values : List (String × List Nat)) (n : String) : List CharSet :=
  (values.filter fun v => groupOf? v.1 = some n).map fun v => CharSet.unpack v.2

theorem mem_groupSets {values : List (String × List Nat)} {x : Char} :
    s ∈ groupSets values (String.singleton x) ↔
      ∃ y bounds, (String.ofList [x, y], bounds) ∈ values ∧ CharSet.unpack bounds = s := by
  simp only [groupSets, List.mem_map, List.mem_filter, decide_eq_true_eq, groupOf?_eq_some_iff]
  constructor
  · intro ⟨⟨name, bounds⟩, ⟨hv, x', y, hname, hx⟩, hs⟩
    obtain rfl := String.singleton_inj.mp hx
    change name = String.ofList [x, y] at hname
    rw [hname] at hv
    exact ⟨y, bounds, hv, hs⟩
  · intro ⟨y, bounds, hv, hs⟩
    exact ⟨(String.ofList [x, y], bounds), ⟨hv, x, y, rfl, rfl⟩, hs⟩

theorem exists_of_groupSets_ne_nil {values : List (String × List Nat)}
    (h : groupSets values n ≠ []) : ∃ x, n = String.singleton x := by
  obtain ⟨s, hs⟩ := List.exists_mem_of_ne_nil _ h
  simp only [groupSets, List.mem_map, List.mem_filter, decide_eq_true_eq,
    groupOf?_eq_some_iff] at hs
  obtain ⟨v, ⟨-, x, -, -, hx⟩, -⟩ := hs
  exact ⟨x, hx⟩

/-- A name that no value has gets the sets of its group, in the order of the values. -/
theorem getElem?_foldl_addValue {values : List (String × List Nat)} (b : Bindings)
    (hn : ∀ v ∈ values, n ≠ v.1) : (values.foldl addValue b)[n]? =
      if groupSets values n = [] then b[n]?
      else some ((groupSets values n).foldl (· ∪ ·) (b[n]?.getD ∅)) := by
  induction values generalizing b with
  | nil => rfl
  | cons v values ih =>
    have hv : n ≠ v.1 := hn v List.mem_cons_self
    rw [List.foldl_cons, ih _ fun w hw => hn w (List.mem_cons_of_mem _ hw), getElem?_addValue,
      if_neg hv]
    by_cases hgroup : groupOf? v.1 = some n
    · have hcons : groupSets (v :: values) n = CharSet.unpack v.2 :: groupSets values n := by
        simp [groupSets, hgroup]
      rw [hcons, if_pos hgroup, if_neg (List.cons_ne_nil _ _), List.foldl_cons, Option.getD_some]
      by_cases hempty : groupSets values n = []
      · rw [if_pos hempty, hempty, List.foldl_nil]
      · rw [if_neg hempty]
    · have hcons : groupSets (v :: values) n = groupSets values n := by
        simp [groupSets, hgroup]
      rw [hcons, if_neg hgroup]

theorem getElem?_foldl_addValue_of_mem {values : List (String × List Nat)} {bounds : List Nat}
    (b : Bindings) (hdistinct : (values.map Prod.fst).Nodup)
    (hgroup : ∀ name, groupOf? name ≠ some n) (hmem : (n, bounds) ∈ values) :
    (values.foldl addValue b)[n]? = some (CharSet.unpack bounds) := by
  induction values generalizing b with
  | nil => cases hmem
  | cons v values ih =>
    rw [List.map_cons, List.nodup_cons] at hdistinct
    rw [List.foldl_cons]
    rcases List.mem_cons.mp hmem with rfl | hmem
    · have hnone : groupSets values n = [] := by simp [groupSets, hgroup]
      have hlater : ∀ v ∈ values, n ≠ v.1 :=
        fun w hw hn => hdistinct.1 (List.mem_map.mpr ⟨w, hw, hn.symm⟩)
      rw [getElem?_foldl_addValue _ hlater, if_pos hnone, getElem?_addValue, if_pos rfl]
    · exact ih _ hdistinct.2 hmem

end Bindings

namespace Tables
open Bindings
variable {t : Tables} {n : String} {s : CharSet} {i : Nat}

/-- Names of values that can be told apart from each other, from groups and from the fixed names,
and sets whose bounds are in order. -/
structure WellFormed (t : Tables) : Prop where
  distinct : (t.values.map Prod.fst).Nodup
  ascii : ∀ v ∈ t.values, isAscii v.1 = true
  long : ∀ v ∈ t.values, 2 ≤ v.1.length
  unfixed : ∀ v ∈ t.values, v.1 ≠ "ascii" ∧ v.1 ≠ "any"
  ordered : ∀ v ∈ t.values, ∀ p ∈ CharSet.pairs v.2, p.1 ≤ p.2

/-- What the values make of a name: a value stands for its set, and a letter with which names of
two letters begin for the union of their sets. -/
inductive Denotes (t : Tables) : String → CharSet → Prop
  | value {name : String} {bounds : List Nat} (h : (name, bounds) ∈ t.values) :
      Denotes t name (CharSet.unpack bounds)
  | letter {x : Char} {s : CharSet}
      (hname : ∃ y bounds, (String.ofList [x, y], bounds) ∈ t.values)
      (hs : ∀ c, c ∈ s ↔
        ∃ y bounds, (String.ofList [x, y], bounds) ∈ t.values ∧ c ∈ CharSet.unpack bounds) :
      Denotes t (String.singleton x) s

/-- What each name stands for when the values and the first `i` aliases have been read. -/
def bindingsAfter (t : Tables) (i : Nat) : Bindings :=
  (t.aliases.take i).foldl addAlias (t.values.foldl addValue ∅)

theorem WellFormed.groupOf?_ne (h : t.WellFormed) {bounds : List Nat} (hn : (n, bounds) ∈ t.values)
    (name : String) : groupOf? name ≠ some n := by
  intro hgroup
  obtain ⟨x, y, -, rfl⟩ := groupOf?_eq_some_iff.mp hgroup
  have hlong := h.long _ hn
  rw [String.length_singleton] at hlong
  omega

theorem WellFormed.bounds_eq (h : t.WellFormed) {bounds more : List Nat}
    (hb : (n, bounds) ∈ t.values) (hm : (n, more) ∈ t.values) : bounds = more :=
  congrArg Prod.snd (List.inj_on_of_nodup_map h.distinct hb hm rfl)

theorem mem_foldl_groupSets {x : Char} {c : Nat} :
    c ∈ (groupSets t.values (String.singleton x)).foldl (· ∪ ·) ∅ ↔
      ∃ y bounds, (String.ofList [x, y], bounds) ∈ t.values ∧ c ∈ CharSet.unpack bounds := by
  rw [CharSet.mem_foldl_union]
  constructor
  · intro ⟨s, hs, hc⟩
    obtain ⟨y, bounds, hv, rfl⟩ := mem_groupSets.mp hs
    exact ⟨y, bounds, hv, hc⟩
  · intro ⟨y, bounds, hv, hc⟩
    exact ⟨_, mem_groupSets.mpr ⟨y, bounds, hv, rfl⟩, hc⟩

theorem denotes_iff_of_no_value (hn : ∀ v ∈ t.values, n ≠ v.1) : t.Denotes n s ↔
    groupSets t.values n ≠ [] ∧ (groupSets t.values n).foldl (· ∪ ·) ∅ = s := by
  constructor
  · intro h
    cases h with
    | value h => exact absurd rfl (hn _ h)
    | @letter x s hname hs =>
      obtain ⟨y, bounds, hv⟩ := hname
      have hmem := mem_groupSets.mpr ⟨y, bounds, hv, rfl⟩
      exact ⟨List.ne_nil_of_mem hmem,
        CharSet.ext_of_mem_iff fun c => mem_foldl_groupSets.trans (hs c).symm⟩
  · intro ⟨hne, hs⟩
    obtain ⟨x, rfl⟩ := exists_of_groupSets_ne_nil hne
    obtain ⟨u, hu⟩ := List.exists_mem_of_ne_nil _ hne
    obtain ⟨y, bounds, hv, -⟩ := mem_groupSets.mp hu
    exact .letter ⟨y, bounds, hv⟩ fun c => by rw [← hs, mem_foldl_groupSets]

theorem WellFormed.denotes_value_iff (h : t.WellFormed) {bounds : List Nat}
    (hn : (n, bounds) ∈ t.values) : t.Denotes n s ↔ CharSet.unpack bounds = s := by
  constructor
  · intro hs
    cases hs with
    | value hm => rw [h.bounds_eq hn hm]
    | @letter x s hname hs =>
      obtain ⟨y, more, hv⟩ := hname
      exact absurd (groupOf?_eq_some_iff.mpr ⟨x, y, rfl, rfl⟩) (h.groupOf?_ne hn _)
  · intro hs
    exact hs ▸ .value hn

/-- Before any alias is read, a name stands for what the values make of it. -/
theorem WellFormed.bindingsAfter_zero (h : t.WellFormed) :
    (t.bindingsAfter 0)[n]? = some s ↔ t.Denotes n s := by
  have hstart : t.bindingsAfter 0 = t.values.foldl addValue ∅ := rfl
  rw [hstart]
  by_cases hn : ∃ v ∈ t.values, n = v.1
  · obtain ⟨⟨name, bounds⟩, hv, rfl⟩ := hn
    rw [getElem?_foldl_addValue_of_mem ∅ h.distinct (h.groupOf?_ne hv) hv,
      h.denotes_value_iff hv, Option.some.injEq]
  · have hno : ∀ v ∈ t.values, n ≠ v.1 := fun v hv hname => hn ⟨v, hv, hname⟩
    rw [getElem?_foldl_addValue ∅ hno, denotes_iff_of_no_value hno]
    by_cases hempty : groupSets t.values n = []
    · simp [hempty]
    · rw [if_neg hempty, Std.TreeMap.getElem?_emptyc, Option.getD_none, Option.some.injEq,
        and_iff_right hempty]

theorem getElem?_bindingsAfter_succ : (t.bindingsAfter (i + 1))[n]? =
    match t.aliases[i]? with
    | none => (t.bindingsAfter i)[n]?
    | some pair =>
      if n = pair.1 then (t.bindingsAfter i)[n]?.or (t.bindingsAfter i)[pair.2]?
      else (t.bindingsAfter i)[n]? := by
  unfold bindingsAfter
  rw [List.take_add_one, List.foldl_append]
  cases t.aliases[i]? with
  | none => rfl
  | some pair => exact getElem?_addAlias _ pair n

/-- An alias is bound if it stands for nothing when it is read and its target for something. -/
theorem bindingsAfter_succ_eq_some_iff : (t.bindingsAfter (i + 1))[n]? = some s ↔
    (t.bindingsAfter i)[n]? = some s ∨ ((t.bindingsAfter i)[n]? = none ∧
      ∃ target, t.aliases[i]? = some (n, target) ∧ (t.bindingsAfter i)[target]? = some s) := by
  rw [getElem?_bindingsAfter_succ]
  cases t.aliases[i]? with
  | none => simp
  | some pair =>
    by_cases hn : n = pair.1
    · subst hn
      simp [Option.or_eq_some_iff, Prod.ext_iff]
    · have hne : ∀ target, pair ≠ (n, target) := fun target hpair => hn (hpair ▸ rfl)
      simp [hn, hne]

theorem bindingsAfter_eq_none_iff : (t.bindingsAfter i)[n]? = none ↔
    (t.bindingsAfter 0)[n]? = none ∧ ∀ j < i, ∀ target, t.aliases[j]? = some (n, target) →
      (t.bindingsAfter j)[target]? = none := by
  induction i with
  | zero => simp
  | succ i ih =>
    have hstep : (t.bindingsAfter (i + 1))[n]? = none ↔ (t.bindingsAfter i)[n]? = none ∧
        ∀ target, t.aliases[i]? = some (n, target) → (t.bindingsAfter i)[target]? = none := by
      simp only [Option.eq_none_iff_forall_ne_some, ne_eq, bindingsAfter_succ_eq_some_iff]
      grind
    rw [hstep, ih]
    simp only [Nat.lt_succ_iff_lt_or_eq]
    grind

/-- The alias at a position decides what its name stands for: its target is known when it is read,
and no target of an earlier alias of that name was. -/
def DecidedAt (t : Tables) (n : String) (i : Nat) (s : CharSet) : Prop :=
  (∃ target, t.aliases[i]? = some (n, target) ∧ (t.bindingsAfter i)[target]? = some s) ∧
    ∀ j < i, ∀ target, t.aliases[j]? = some (n, target) → (t.bindingsAfter j)[target]? = none

/-- A name keeps what the values make of it; any other one is decided by an alias or unknown. -/
theorem bindingsAfter_eq_some_iff : (t.bindingsAfter i)[n]? = some s ↔
    (t.bindingsAfter 0)[n]? = some s ∨
      ((t.bindingsAfter 0)[n]? = none ∧ ∃ j < i, t.DecidedAt n j s) := by
  induction i with
  | zero => simp
  | succ i ih =>
    have hnow : (t.bindingsAfter i)[n]? = none ∧
        (∃ target, t.aliases[i]? = some (n, target) ∧ (t.bindingsAfter i)[target]? = some s) ↔
        (t.bindingsAfter 0)[n]? = none ∧ t.DecidedAt n i s := by
      rw [bindingsAfter_eq_none_iff (i := i), DecidedAt, and_assoc, and_comm (b := ∃ _, _)]
    rw [bindingsAfter_succ_eq_some_iff, ih, hnow, or_assoc, ← and_or_left]
    simp only [Nat.lt_succ_iff_lt_or_eq, or_and_right, exists_or, exists_eq_left]

theorem getElem?_bindings : t.bindings[n]? =
    if n = "any" then some (CharSet.upTo CodePoint.last)
    else if n = "ascii" then some (CharSet.upTo 0x7F)
    else (t.bindingsAfter t.aliases.length)[n]? := by
  unfold bindings bindingsAfter
  rw [getElem?_addFixed, List.take_length]

theorem WellFormed.unfixed_of_denotes (h : t.WellFormed) (hn : t.Denotes n s) :
    n ≠ "ascii" ∧ n ≠ "any" := by
  cases hn with
  | value hv => exact h.unfixed _ hv
  | @letter x s _ _ =>
    have hlength : (String.singleton x).length = 1 := String.length_singleton
    constructor
    · intro hx
      rw [hx] at hlength
      revert hlength
      decide
    · intro hx
      rw [hx] at hlength
      revert hlength
      decide

theorem exists_decidedAt_lt_iff :
    (∃ i < t.aliases.length, t.DecidedAt n i s) ↔ ∃ i, t.DecidedAt n i s := by
  constructor
  · intro ⟨i, _, hi⟩
    exact ⟨i, hi⟩
  · intro ⟨i, hi⟩
    obtain ⟨target, htarget, -⟩ := hi.1
    exact ⟨i, (List.getElem?_eq_some_iff.mp htarget).choose, hi⟩

/-- In the end a name stands for what is fixed for it, else for what the values make of it, else for
what an alias decides. -/
theorem WellFormed.bindings_eq_some_iff (h : t.WellFormed) : t.bindings[n]? = some s ↔
    (n = "ascii" ∧ s = CharSet.upTo 0x7F) ∨ (n = "any" ∧ s = CharSet.upTo CodePoint.last) ∨
    (n ≠ "ascii" ∧ n ≠ "any" ∧
      (t.Denotes n s ∨ ((∀ u, ¬ t.Denotes n u) ∧ ∃ i, t.DecidedAt n i s))) := by
  have hnone : (t.bindingsAfter 0)[n]? = none ↔ ∀ u, ¬ t.Denotes n u := by
    simp only [Option.eq_none_iff_forall_ne_some, ne_eq, h.bindingsAfter_zero]
  rw [getElem?_bindings]
  by_cases hany : n = "any"
  · simp [hany, eq_comm]
  · by_cases hascii : n = "ascii"
    · simp [hascii, eq_comm]
    · rw [if_neg hany, if_neg hascii, bindingsAfter_eq_some_iff, h.bindingsAfter_zero, hnone,
        exists_decidedAt_lt_iff]
      simp [hany, hascii]

/-- All entries of the map. The values come first, then each alias in order is bound if its target
is known and itself is not. So in the end a name stands for what the values make of it, or for what
its first alias with a known target stood for when it was read; two names are fixed, whatever was
read, and known to aliases only if an earlier alias has bound them. -/
theorem WellFormed.bindings_exact (h : t.WellFormed) :
    (∀ n s, (t.bindingsAfter 0)[n]? = some s ↔ t.Denotes n s) ∧
    (∀ i n s, (t.bindingsAfter (i + 1))[n]? = some s ↔
      (t.bindingsAfter i)[n]? = some s ∨ ((t.bindingsAfter i)[n]? = none ∧
        ∃ target, t.aliases[i]? = some (n, target) ∧ (t.bindingsAfter i)[target]? = some s)) ∧
    (∀ n s, t.bindings[n]? = some s ↔
      (n = "ascii" ∧ s = CharSet.upTo 0x7F) ∨ (n = "any" ∧ s = CharSet.upTo CodePoint.last) ∨
      (n ≠ "ascii" ∧ n ≠ "any" ∧
        (t.Denotes n s ∨ ((∀ u, ¬ t.Denotes n u) ∧ ∃ i, t.DecidedAt n i s)))) ∧
    (∀ n s, t.Denotes n s → n ≠ "ascii" ∧ n ≠ "any") := by
  refine ⟨?_, ?_, ?_, ?_⟩
  · intro n s
    exact h.bindingsAfter_zero
  · intro i n s
    exact bindingsAfter_succ_eq_some_iff
  · intro n s
    exact h.bindings_eq_some_iff
  · intro n s hn
    exact h.unfixed_of_denotes hn

/-- The letter has both of its groups although another value stands between them, an alias does not
replace a value, a chain is followed from its end, and the fixed name is what it always is. -/
theorem bindings_exact_colliding :
    let t : Tables :=
      { version := "", maximum := CodePoint.last,
        values := [("lu", [0x41, 0x5A]), ("greek", [0x370, 0x3FF]), ("ll", [0x61, 0x7A])],
        aliases := [("hellenic", "grek"), ("greek", "lu"), ("grek", "greek"),
          ("hellenic", "grek"), ("basic", "ascii"), ("ascii", "lu")],
        variants := [], groupSize := 4 }
    t.WellFormed ∧ t.bindings["l"]? = some (CharSet.unpack [0x41, 0x5A, 0x61, 0x7A]) ∧
      t.bindings["greek"]? = some (CharSet.unpack [0x370, 0x3FF]) ∧
      t.bindings["hellenic"]? = some (CharSet.unpack [0x370, 0x3FF]) ∧
      t.bindings["basic"]? = none ∧ t.bindings["ascii"]? = some (CharSet.upTo 0x7F) := by
  intro t
  have ht : t.WellFormed := ⟨by decide, by decide, by decide, by decide, by decide⟩
  obtain ⟨-, -, hentry, -⟩ := ht.bindings_exact
  have hletter : t.Denotes "l" (CharSet.unpack [0x41, 0x5A, 0x61, 0x7A]) :=
    (denotes_iff_of_no_value (by decide)).mpr ⟨by decide, by decide⟩
  have hunknown : ∀ u, ¬ t.Denotes "hellenic" u := fun u hu =>
    ((denotes_iff_of_no_value (by decide)).mp hu).1 (by decide)
  have hchain : t.DecidedAt "hellenic" 3 (CharSet.unpack [0x370, 0x3FF]) := by
    constructor
    · exact ⟨"grek", rfl, by decide +kernel⟩
    · intro j hj target htarget
      have hfirst : j = 0 ∧ target = "grek" := by
        interval_cases j <;> simp_all [t]
      rw [hfirst.1, hfirst.2]
      decide +kernel
  exact ⟨ht, (hentry _ _).mpr (.inr (.inr ⟨by decide, by decide, .inl hletter⟩)),
    (hentry _ _).mpr (.inr (.inr ⟨by decide, by decide, .inl (.value (by decide))⟩)),
    (hentry _ _).mpr (.inr (.inr ⟨by decide, by decide, .inr ⟨hunknown, 3, hchain⟩⟩)),
    by decide +kernel, (hentry _ _).mpr (.inl ⟨rfl, rfl⟩)⟩

end Tables

namespace Edition
variable {v : Version} {repertoire : CharSet}

/-- The names of all values. -/
def names : List String :=
  Category.unassigned :: allValues.map PropertyValue.name

theorem nodup_names : ("ascii" :: "any" :: names).Nodup := by
  decide +kernel

theorem ascii_names : ∀ name ∈ names, 2 ≤ name.length ∧ isAscii name = true := by
  decide +kernel

theorem sublist_names : ((valuesIn v repertoire).map Prod.fst).Sublist names := by
  have hmap : (valuesIn v repertoire).map Prod.fst = Category.unassigned ::
      (allValues.filter (·.since.rank ≤ v.rank)).map PropertyValue.name := by
    simp [valuesIn]
  rw [hmap]
  exact .cons_cons _ (List.filter_sublist.map _)

theorem exists_pack_of_mem_valuesIn {value : String × List Nat}
    (h : value ∈ valuesIn v repertoire) : ∃ s : CharSet, value.2 = s.pack := by
  rcases List.mem_cons.mp h with rfl | h
  · exact ⟨_, rfl⟩
  · obtain ⟨p, -, rfl⟩ := List.mem_map.mp h
    exact ⟨_, rfl⟩

/-- The tables of every version are well formed. -/
theorem wellFormed_tables (v : Version) : (tables v).WellFormed := by
  have hvalues : (tables v).values = valuesIn v (Repertoire.assigned v) := by simp only [tables]
  have hname : ∀ value ∈ (tables v).values, value.1 ∈ names := fun value h =>
    sublist_names.subset (List.mem_map_of_mem (hvalues ▸ h))
  have hdistinct := nodup_names
  simp only [List.nodup_cons, List.mem_cons, not_or] at hdistinct
  constructor
  · rw [hvalues]
    exact hdistinct.2.2.sublist sublist_names
  · intro value h
    exact (ascii_names _ (hname value h)).2
  · intro value h
    exact (ascii_names _ (hname value h)).1
  · intro value h
    constructor
    · intro hfixed
      exact hdistinct.1.2 (hfixed ▸ hname value h)
    · intro hfixed
      exact hdistinct.2.1 (hfixed ▸ hname value h)
  · intro value h p hp
    obtain ⟨s, hs⟩ := exists_pack_of_mem_valuesIn (hvalues ▸ h)
    rw [hs, CharSet.pack, CharSet.pairs_flatMap] at hp
    obtain ⟨u, -, rfl⟩ := List.mem_map.mp hp
    exact u.lo_le_hi

end Edition

end ScannerAlphabet.Unicode
