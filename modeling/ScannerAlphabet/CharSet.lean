import ScannerAlphabet.Runs.Union
import ScannerAlphabet.Runs.Meet
import ScannerAlphabet.Runs.Difference

/-!
# Sets of code points

A character set is a separated list of spans, kept in an array. Since a separated list is
determined by its code points, two sets are equal exactly when they have the same members
(`ext_of_mem_iff`), and the equality test on sets can be used for the equality of their
contents. Union, intersection and difference work on the lists of spans; membership is
looked up by halving the array.
-/
namespace ScannerAlphabet

structure CharSet where
  spans : Array Span
  separated : Runs.Separated spans.toList
deriving DecidableEq

namespace CharSet

/-- A set from a list that is separated already. -/
def ofRuns (l : List Span) (h : Runs.Separated l) : CharSet :=
  ⟨l.toArray, h⟩

/-- The spans in ascending order. -/
def toRuns (s : CharSet) : List Span :=
  s.spans.toList

def empty : CharSet :=
  ofRuns [] Runs.separated_nil

def ofSpan (t : Span) : CharSet :=
  ofRuns [t] (Runs.separated_singleton t)

/-- The set of one code point, if it is one that sets can hold. -/
def single (c : Nat) : Except Error CharSet :=
  (Span.single c).map ofSpan

/-- The set of all code points in some span of the list. -/
def ofSpans (l : List Span) : CharSet :=
  ofRuns (Runs.ofSpans l) (Runs.separated_ofSpans l)

/-- The code points up to a largest one, cut off at `CodePoint.last`. -/
def upTo (maximum : Nat) : CharSet :=
  ofSpan ⟨0, min maximum CodePoint.last, Nat.zero_le _, Nat.min_le_right _ _⟩

def insertSpan (s : CharSet) (t : Span) : CharSet :=
  ofRuns (Runs.insert t s.toRuns) (Runs.separated_insert s.separated)

def insert (s : CharSet) (c : Nat) : Except Error CharSet :=
  (Span.single c).map s.insertSpan

def union (s t : CharSet) : CharSet :=
  ofRuns (Runs.union s.toRuns t.toRuns) (Runs.separated_union s.separated t.separated)

def inter (s t : CharSet) : CharSet :=
  ofRuns (Runs.meet s.toRuns t.toRuns) (Runs.separated_meet s.separated t.separated)

def difference (s t : CharSet) : CharSet :=
  ofRuns (Runs.difference s.toRuns t.toRuns) (Runs.separated_difference s.separated)

instance : EmptyCollection CharSet := ⟨empty⟩
instance : Inhabited CharSet := ⟨empty⟩
instance : Union CharSet := ⟨union⟩
instance : Inter CharSet := ⟨inter⟩
instance : SDiff CharSet := ⟨difference⟩

def isEmpty (s : CharSet) : Bool :=
  s.spans.isEmpty

def spanCount (s : CharSet) : Nat :=
  s.spans.size

/-- How many code points the set has. -/
def size (s : CharSet) : Nat :=
  s.toRuns.foldr (fun t n => t.size + n) 0

/-- The members in ascending order. -/
def toList (s : CharSet) : List Nat :=
  s.toRuns.flatMap Span.toList

instance : Membership Nat CharSet :=
  ⟨fun s c => Runs.Covers s.toRuns c⟩

/-- The index of the first span from `lo` on that does not end below `c`, found by halving the
stretch from `lo` to `hi`. -/
def bisect (spans : Array Span) (c lo hi : Nat) (h : hi ≤ spans.size) : Nat :=
  if hlt : lo < hi then
    have : (lo + hi) / 2 < spans.size := by omega
    if spans[(lo + hi) / 2].hi < c then bisect spans c ((lo + hi) / 2 + 1) hi h
    else bisect spans c lo ((lo + hi) / 2) (by omega)
  else lo
termination_by hi - lo

/-- Membership, decided at the first span that does not end below `c`. -/
def contains (s : CharSet) (c : Nat) : Bool :=
  match s.spans[bisect s.spans c 0 s.spans.size (Nat.le_refl _)]? with
  | some t => t.lo ≤ c
  | none => false

/-- Sets are ordered like words over their spans. -/
def order (s t : CharSet) : Ordering :=
  List.compareLex Span.order s.toRuns t.toRuns

/-- The dump of a set: its spans, one after the other. -/
def text (s : CharSet) : String :=
  "\x7b " ++ String.join (s.toRuns.map Span.text) ++ " \x7d"

theorem mem_def {s : CharSet} {c : Nat} : c ∈ s ↔ Runs.Covers s.toRuns c := Iff.rfl

@[simp] theorem toRuns_ofRuns (l : List Span) (h : Runs.Separated l) :
    (ofRuns l h).toRuns = l := rfl

@[simp] theorem mem_ofRuns {l : List Span} {h : Runs.Separated l} {c : Nat} :
    c ∈ ofRuns l h ↔ Runs.Covers l c := Iff.rfl

theorem toRuns_inj {s t : CharSet} : s.toRuns = t.toRuns ↔ s = t := by
  constructor
  · intro h
    obtain ⟨a, _⟩ := s
    obtain ⟨b, _⟩ := t
    have : a = b := Array.toList_inj.mp h
    subst this
    rfl
  · exact congrArg toRuns

theorem ext_of_mem_iff {s t : CharSet} (h : ∀ c, c ∈ s ↔ c ∈ t) : s = t :=
  toRuns_inj.mp (Runs.eq_of_covers_iff s.separated t.separated h)

theorem le_last_of_mem {s : CharSet} {c : Nat} (h : c ∈ s) : c ≤ CodePoint.last :=
  Runs.Covers.le_last h

@[simp] theorem not_mem_empty (c : Nat) : ¬ c ∈ (∅ : CharSet) :=
  Runs.not_covers_nil c

@[simp] theorem mem_ofSpan {t : Span} {c : Nat} : c ∈ ofSpan t ↔ c ∈ t := by
  simp [ofSpan]

@[simp] theorem mem_ofSpans {l : List Span} {c : Nat} : c ∈ ofSpans l ↔ ∃ t ∈ l, c ∈ t := by
  rw [ofSpans, mem_ofRuns, Runs.covers_ofSpans]
  rfl

@[simp] theorem mem_upTo {m c : Nat} : c ∈ upTo m ↔ c ≤ m ∧ c ≤ CodePoint.last := by
  rw [upTo, mem_ofSpan, Span.mem_def]
  simp only
  omega

@[simp] theorem mem_insertSpan {s : CharSet} {t : Span} {c : Nat} :
    c ∈ s.insertSpan t ↔ c ∈ t ∨ c ∈ s :=
  Runs.covers_insert s.separated

@[simp] theorem mem_union {s t : CharSet} {c : Nat} : c ∈ s ∪ t ↔ c ∈ s ∨ c ∈ t :=
  Runs.covers_union s.separated t.separated

@[simp] theorem mem_inter {s t : CharSet} {c : Nat} : c ∈ s ∩ t ↔ c ∈ s ∧ c ∈ t :=
  Runs.covers_meet s.separated t.separated

@[simp] theorem mem_sdiff {s t : CharSet} {c : Nat} : c ∈ s \ t ↔ c ∈ s ∧ ¬ c ∈ t :=
  Runs.covers_difference s.separated t.separated

@[simp] theorem mem_toList {s : CharSet} {c : Nat} : c ∈ s.toList ↔ c ∈ s := by
  simp [toList, mem_def, Runs.Covers]

@[simp] theorem isEmpty_iff {s : CharSet} : s.isEmpty = true ↔ ∀ c, ¬ c ∈ s := by
  rw [isEmpty, Array.isEmpty_iff]
  constructor
  · intro h c hc
    rw [mem_def, toRuns, h] at hc
    exact Runs.not_covers_nil c hc
  · intro h
    cases hs : s.toRuns with
    | nil => exact Array.toList_inj.mp hs
    | cons t l => exact absurd (mem_def.mpr (hs ▸ Runs.covers_cons.mpr (.inl t.lo_mem))) (h t.lo)

theorem hi_lt_lo {s : CharSet} {i j : Nat} (hij : i < j) (hj : j < s.spans.size) :
    s.spans[i].hi + 1 < s.spans[j].lo := by
  have h := List.pairwise_iff_getElem.mp s.separated i j (by simpa using Nat.lt_trans hij hj)
    (by simpa using hj) hij
  simpa using h

theorem hi_mono {s : CharSet} {i j : Nat} (hij : i ≤ j) (hj : j < s.spans.size) :
    s.spans[i].hi ≤ s.spans[j].hi := by
  rcases Nat.lt_or_eq_of_le hij with h | rfl
  · have := hi_lt_lo h hj
    have := s.spans[j].lo_le_hi
    omega
  · exact Nat.le_refl _

theorem bisect_bounds {s : CharSet} {c lo hi : Nat} {h : hi ≤ s.spans.size} (hle : lo ≤ hi)
    (hlow : ∀ j (hj : j < s.spans.size), j < lo → s.spans[j].hi < c)
    (hhigh : ∀ j (hj : j < s.spans.size), hi ≤ j → c ≤ s.spans[j].hi) :
    (∀ j (hj : j < s.spans.size), j < bisect s.spans c lo hi h → s.spans[j].hi < c) ∧
      ∀ j (hj : j < s.spans.size), bisect s.spans c lo hi h ≤ j → c ≤ s.spans[j].hi := by
  fun_induction bisect s.spans c lo hi h with
  | case1 lo hi h hlt hmid hbelow ih =>
    refine ih (by omega) (fun j hj hjm => ?_) hhigh
    have := hi_mono (s := s) (show j ≤ (lo + hi) / 2 by omega) hmid
    omega
  | case2 lo hi h hlt hmid hbelow ih =>
    refine ih (by omega) hlow (fun j hj hjm => ?_)
    have := hi_mono (s := s) hjm hj
    omega
  | case3 lo hi h hlt =>
    exact ⟨hlow, fun j hj hjm => hhigh j hj (by omega)⟩

/-- The search by halving answers membership. -/
@[simp] theorem contains_eq_true_iff {s : CharSet} {c : Nat} : s.contains c = true ↔ c ∈ s := by
  obtain ⟨hlow, hhigh⟩ := bisect_bounds (s := s) (c := c) (h := Nat.le_refl _) (Nat.zero_le _)
    (by omega) (by omega)
  rw [contains, mem_def]
  generalize bisect s.spans c 0 s.spans.size (Nat.le_refl _) = k at hlow hhigh
  by_cases hk : k < s.spans.size
  · rw [Array.getElem?_eq_getElem hk]
    simp only [decide_eq_true_eq]
    constructor
    · intro hlo
      exact ⟨s.spans[k], by simp [toRuns], hlo, hhigh k hk (Nat.le_refl _)⟩
    · rintro ⟨t, ht, htlo, hthi⟩
      obtain ⟨j, hj, rfl⟩ := List.mem_iff_getElem.mp ht
      simp only [toRuns, Array.length_toList] at hj
      simp only [toRuns, Array.getElem_toList] at htlo hthi
      rcases Nat.lt_trichotomy j k with hjk | rfl | hjk
      · have := hlow j hj hjk
        omega
      · exact htlo
      · have := hi_lt_lo (s := s) hjk hj
        have := s.spans[k].lo_le_hi
        omega
  · rw [Array.getElem?_eq_none (by omega)]
    simp only [Bool.false_eq_true, false_iff]
    rintro ⟨t, ht, htlo, hthi⟩
    obtain ⟨j, hj, rfl⟩ := List.mem_iff_getElem.mp ht
    simp only [toRuns, Array.length_toList] at hj
    simp only [toRuns, Array.getElem_toList] at htlo hthi
    have := hlow j hj (by omega)
    omega

instance (c : Nat) (s : CharSet) : Decidable (c ∈ s) :=
  decidable_of_iff (s.contains c = true) contains_eq_true_iff

end CharSet

end ScannerAlphabet
