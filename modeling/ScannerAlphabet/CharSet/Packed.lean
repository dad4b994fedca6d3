import ScannerAlphabet.CharSet

/-!
# Packed sets

Tables keep a set as a flat list of bounds `lo, hi, lo, hi, …` in any order, where the ranges may
overlap and may reach beyond `CodePoint.last`. Unpacking keeps what lies up to
`CodePoint.last`, and a bound without a partner at the end is ignored. Packing a set and
unpacking it gives the set back.
-/
namespace ScannerAlphabet.CharSet

/-- The complete pairs of a flat list. -/
def pairs : List Nat → List (Nat × Nat)
  | lo :: hi :: rest => (lo, hi) :: pairs rest
  | _ => []

/-- The range between two bounds, cut off at `CodePoint.last`. -/
def clippedSpan? (p : Nat × Nat) : Option Span :=
  if h : p.1 ≤ min p.2 CodePoint.last then
    some ⟨p.1, min p.2 CodePoint.last, h, Nat.min_le_right _ _⟩
  else none

/-- The set of a flat list of bounds. -/
def unpack (bounds : List Nat) : CharSet :=
  ofSpans ((pairs bounds).filterMap clippedSpan?)

/-- The bounds of the spans, one after the other. -/
def pack (s : CharSet) : List Nat :=
  s.toRuns.flatMap fun t => [t.lo, t.hi]

theorem mem_clippedSpan? {p : Nat × Nat} {c : Nat} :
    (∃ t ∈ clippedSpan? p, c ∈ t) ↔ c ≤ CodePoint.last ∧ p.1 ≤ c ∧ c ≤ p.2 := by
  unfold clippedSpan?
  split
  · simp only [Option.mem_def, Option.some.injEq, exists_eq_left', Span.mem_def]
    omega
  · simp only [Option.mem_def, reduceCtorEq, false_and, exists_false, false_iff]
    omega

@[simp] theorem mem_unpack {bounds : List Nat} {c : Nat} :
    c ∈ unpack bounds ↔ c ≤ CodePoint.last ∧ ∃ p ∈ pairs bounds, p.1 ≤ c ∧ c ≤ p.2 := by
  rw [unpack, mem_ofSpans]
  constructor
  · rintro ⟨t, ht, hc⟩
    obtain ⟨p, hp, hpt⟩ := List.mem_filterMap.mp ht
    obtain ⟨hlast, hpc⟩ := mem_clippedSpan?.mp ⟨t, hpt, hc⟩
    exact ⟨hlast, p, hp, hpc⟩
  · rintro ⟨hlast, p, hp, hpc⟩
    obtain ⟨t, ht, hc⟩ := mem_clippedSpan?.mpr ⟨hlast, hpc⟩
    exact ⟨t, List.mem_filterMap.mpr ⟨p, hp, ht⟩, hc⟩

theorem pairs_flatMap {α : Type} (lo hi : α → Nat) (l : List α) :
    pairs (l.flatMap fun t => [lo t, hi t]) = l.map fun t => (lo t, hi t) := by
  induction l with
  | nil => rfl
  | cons t l ih => simp [pairs, ih]

@[simp] theorem unpack_pack (s : CharSet) : unpack s.pack = s := by
  refine ext_of_mem_iff fun c => ?_
  rw [mem_unpack, pack, pairs_flatMap]
  simp only [List.mem_map]
  constructor
  · rintro ⟨-, -, ⟨t, ht, rfl⟩, hc⟩
    exact ⟨t, ht, hc⟩
  · intro hc
    obtain ⟨t, ht, hct⟩ := mem_def.mp hc
    exact ⟨le_last_of_mem hc, (t.lo, t.hi), ⟨t, ht, rfl⟩, hct⟩

end ScannerAlphabet.CharSet
