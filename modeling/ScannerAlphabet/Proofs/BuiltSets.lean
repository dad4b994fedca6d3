import Mathlib.Data.List.Chain
import ScannerAlphabet.Caseless

/-!
# Sets built by operations

However a set is built, its spans are the maximal stretches of its code points in ascending order.
`Built` follows a set through the operations that made it and keeps the code points that it is
meant to have, put together by the words of logic that the operations stand for. One lemma by
induction says that it has these; the main statement reads off that the list of spans is canonical,
so that sets are equal when they are meant to have the same code points.
-/
namespace ScannerAlphabet

theorem Span.ofBounds_eq_ok_iff {lo hi : Nat} {t : Span} :
    Span.ofBounds lo hi = .ok t ↔ t.lo = lo ∧ t.hi = hi := by
  have hlo := t.lo_le_hi
  have hhi := t.hi_le_last
  unfold Span.ofBounds
  split
  · rw [Except.ok.injEq, Span.ext_iff, eq_comm (a := lo), eq_comm (a := hi)]
  · rename_i hbounds
    simp only [reduceCtorEq, false_iff]
    intro heq
    rw [heq.1, heq.2] at hlo
    rw [heq.2] at hhi
    exact hbounds ⟨hlo, hhi⟩

namespace Runs
variable {l : List Span} {s t : Span}

theorem Separated.eq_or_gap (h : Separated l) (hs : s ∈ l) (ht : t ∈ l) :
    s = t ∨ s.hi + 1 < t.lo ∨ t.hi + 1 < s.lo := by
  induction l with
  | nil => cases hs
  | cons u l ih =>
    have hu := separated_cons.mp h
    rcases List.mem_cons.mp hs with hsu | hsl
    · rcases List.mem_cons.mp ht with htu | htl
      · exact .inl (hsu.trans htu.symm)
      · exact .inr (.inl (hsu ▸ hu.1 t htl))
    · rcases List.mem_cons.mp ht with htu | htl
      · exact .inr (.inr (htu ▸ hu.1 s hsl))
      · exact ih hu.2 hsl htl

/-- A separated list has the maximal stretches of what it covers, and no other spans. -/
theorem Separated.mem_iff_maximal (h : Separated l) : t ∈ l ↔
    (∀ c ∈ t, Covers l c) ∧ ¬ Covers l (t.hi + 1) ∧ ∀ c, c + 1 = t.lo → ¬ Covers l c := by
  have htbounds := t.lo_le_hi
  constructor
  · intro ht
    have hgap : ∀ c, Covers l c → t.lo ≤ c + 1 → c ≤ t.hi + 1 → c ∈ t := by
      intro c ⟨s, hs, hc⟩ hlo hhi
      rcases h.eq_or_gap hs ht with rfl | hlt | hgt
      · exact hc
      · have := hc.2
        omega
      · have := hc.1
        omega
    constructor
    · intro c hc
      exact ⟨t, ht, hc⟩
    · constructor
      · intro hc
        have := (hgap _ hc (by omega) (Nat.le_refl _)).2
        omega
      · intro c hct hc
        have := (hgap _ hc (by omega) (by omega)).1
        omega
  · intro ⟨hcovered, habove, hbelow⟩
    obtain ⟨s, hs, hlo, hhi⟩ := hcovered t.lo t.lo_mem
    have hslo : s.lo = t.lo := by
      by_contra hne
      exact hbelow (t.lo - 1) (by omega) ⟨s, hs, by omega, by omega⟩
    have hle : t.hi ≤ s.hi := by
      by_contra hlt
      obtain ⟨u, hu, hulo, huhi⟩ := hcovered (s.hi + 1) ⟨by omega, by omega⟩
      rcases h.eq_or_gap hs hu with rfl | hgap | hgap
      · omega
      · omega
      · omega
    have hshi : s.hi = t.hi := by
      by_contra hne
      exact habove ⟨s, hs, by omega, by omega⟩
    exact Span.ext hslo hshi ▸ hs

end Runs

namespace CharSet
variable {s t u : CharSet} {M N : Nat → Prop} {c : Nat}

/-- The sets that the operations build from accepted bounds and from each other, with the code
points that they are meant to have. -/
inductive Built : CharSet → (Nat → Prop) → Prop
  | empty : Built ∅ fun _ => False
  | single {c : Nat} {s : CharSet} (h : CharSet.single c = .ok s) : Built s fun d => d = c
  | ofSpan {lo hi : Nat} {t : Span} (h : Span.ofBounds lo hi = .ok t) :
      Built (ofSpan t) fun d => lo ≤ d ∧ d ≤ hi
  | ofSpans (l : List Span) : Built (ofSpans l) fun d => ∃ t ∈ l, t.lo ≤ d ∧ d ≤ t.hi
  | insert {s u : CharSet} {M : Nat → Prop} {c : Nat} (hs : Built s M) (h : s.insert c = .ok u) :
      Built u fun d => d = c ∨ M d
  | insertSpan {s : CharSet} {M : Nat → Prop} {lo hi : Nat} {t : Span} (hs : Built s M)
      (h : Span.ofBounds lo hi = .ok t) : Built (s.insertSpan t) fun d => (lo ≤ d ∧ d ≤ hi) ∨ M d
  | union {s t : CharSet} {M N : Nat → Prop} (hs : Built s M) (ht : Built t N) :
      Built (s ∪ t) fun d => M d ∨ N d
  | inter {s t : CharSet} {M N : Nat → Prop} (hs : Built s M) (ht : Built t N) :
      Built (s ∩ t) fun d => M d ∧ N d
  | difference {s t : CharSet} {M N : Nat → Prop} (hs : Built s M) (ht : Built t N) :
      Built (s \ t) fun d => M d ∧ ¬ N d
  | fold {s : CharSet} {M : Nat → Prop} {variants? : Nat → Option CharSet} {V : Nat → Nat → Prop}
      (hs : Built s M) (hv : ∀ c v, variants? c = some v → Built v (V c)) :
      Built (s.fold variants?) fun d => M d ∨ ∃ c, M c ∧ (variants? c).isSome ∧ V c d

theorem single_eq_ok_iff : CharSet.single c = .ok s ↔
    ∃ t, Span.ofBounds c c = .ok t ∧ s = ofSpan t := by
  unfold CharSet.single Span.single
  cases Span.ofBounds c c with
  | error e => simp [Except.map]
  | ok t => simp [Except.map, eq_comm]

theorem insert_eq_ok_iff : s.insert c = .ok u ↔
    ∃ t, Span.ofBounds c c = .ok t ∧ u = s.insertSpan t := by
  unfold CharSet.insert Span.single
  cases Span.ofBounds c c with
  | error e => simp [Except.map]
  | ok t => simp [Except.map, eq_comm]

/-- A set has the code points that it is meant to have. -/
theorem Built.mem_iff (h : Built s M) : c ∈ s ↔ M c := by
  induction h generalizing c with
  | empty => simp
  | single h =>
    obtain ⟨t, ht, rfl⟩ := single_eq_ok_iff.mp h
    obtain ⟨hlo, hhi⟩ := Span.ofBounds_eq_ok_iff.mp ht
    rw [mem_ofSpan, Span.mem_def]
    omega
  | ofSpan h =>
    obtain ⟨rfl, rfl⟩ := Span.ofBounds_eq_ok_iff.mp h
    exact mem_ofSpan
  | ofSpans l => exact mem_ofSpans
  | insert _ h ih =>
    obtain ⟨t, ht, rfl⟩ := insert_eq_ok_iff.mp h
    obtain ⟨hlo, hhi⟩ := Span.ofBounds_eq_ok_iff.mp ht
    rw [mem_insertSpan, ih, Span.mem_def]
    refine or_congr_left ?_
    omega
  | insertSpan _ h ih =>
    obtain ⟨rfl, rfl⟩ := Span.ofBounds_eq_ok_iff.mp h
    rw [mem_insertSpan, ih, Span.mem_def]
  | union _ _ ihs iht => rw [mem_union, ihs, iht]
  | inter _ _ ihs iht => rw [mem_inter, ihs, iht]
  | difference _ _ ihs iht => rw [mem_sdiff, ihs, iht]
  | @fold s M variants? V _ _ ihs ihv =>
    rw [mem_fold, ihs]
    refine or_congr_right (exists_congr fun d => ?_)
    rw [ihs]
    refine and_congr_right fun _ => ?_
    cases hd : variants? d with
    | none => simp
    | some v => simp [ihv d v hd]

theorem Built.mem_toRuns_iff {t : Span} (h : Built s M) : t ∈ s.toRuns ↔
    (∀ c ∈ t, M c) ∧ ¬ M (t.hi + 1) ∧ ∀ c, c + 1 = t.lo → ¬ M c := by
  have hmem : ∀ c, c ∈ s ↔ M c := fun c => h.mem_iff
  simp only [← hmem]
  exact Runs.Separated.mem_iff_maximal s.separated

theorem Built.eq_iff (hs : Built s M) (hu : Built u N) : s = u ↔ ∀ c, M c ↔ N c := by
  constructor
  · intro hsu c
    rw [← hs.mem_iff, hsu, hu.mem_iff]
  · intro hMN
    apply ext_of_mem_iff
    intro c
    rw [hs.mem_iff, hMN c, hu.mem_iff]

theorem Built.isEmpty_iff (h : Built s M) : s.isEmpty = true ↔ ∀ c, ¬ M c := by
  have hmem : ∀ c, c ∈ s ↔ M c := fun c => h.mem_iff
  rw [CharSet.isEmpty_iff]
  simp only [hmem]

/-- The spans of a set that was built are in order, inside the code points and apart from each
other; they are the maximal stretches of the code points that the set is meant to have. So two sets
are equal when they are meant to have the same code points, and a set counts as empty when it is
meant to have none. -/
theorem Built.spans_canonical (h : Built s M) :
    (∀ t ∈ s.toRuns, t.lo ≤ t.hi ∧ t.hi ≤ CodePoint.last) ∧
    s.toRuns.IsChain (fun t u => t.hi + 1 < u.lo) ∧
    (∀ t, t ∈ s.toRuns ↔
      (∀ c ∈ t, M c) ∧ ¬ M (t.hi + 1) ∧ ∀ c, c + 1 = t.lo → ¬ M c) ∧
    (∀ c, c ∈ s ↔ M c) ∧
    (∀ u N, Built u N → (s = u ↔ ∀ c, M c ↔ N c)) ∧
    (s.isEmpty = true ↔ ∀ c, ¬ M c) := by
  refine ⟨?_, s.separated.isChain, ?_, ?_, ?_, h.isEmpty_iff⟩
  · intro t _
    exact ⟨t.lo_le_hi, t.hi_le_last⟩
  · intro t
    exact h.mem_toRuns_iff
  · intro c
    exact h.mem_iff
  · intro u N hu
    exact h.eq_iff hu

/-- Two ways to the same set: joining two spans that touch, and cutting a longer one twice. -/
theorem spans_canonical_digits :
    let joined := (ofSpan ⟨0x30, 0x34, by decide, by decide⟩).insertSpan
      ⟨0x35, 0x39, by decide, by decide⟩
    let cut := ofSpan ⟨0x30, 0x7F, by decide, by decide⟩ \
      ofSpans [⟨0x60, 0x8F, by decide, by decide⟩, ⟨0x3A, 0x6F, by decide, by decide⟩]
    Built joined (fun d => (0x35 ≤ d ∧ d ≤ 0x39) ∨ 0x30 ≤ d ∧ d ≤ 0x34) ∧ joined = cut ∧
      (⟨0x30, 0x39, by decide, by decide⟩ : Span) ∈ joined.toRuns := by
  intro joined cut
  have hjoined : Built joined fun d => (0x35 ≤ d ∧ d ≤ 0x39) ∨ 0x30 ≤ d ∧ d ≤ 0x34 :=
    .insertSpan (.ofSpan rfl) rfl
  have haccepted : Span.ofBounds 0x30 0x7F = .ok ⟨0x30, 0x7F, by decide, by decide⟩ := rfl
  have hcut : Built cut _ := .difference (.ofSpan haccepted) (.ofSpans _)
  obtain ⟨-, -, hmaximal, -, hequal, -⟩ := hjoined.spans_canonical
  constructor
  · exact hjoined
  · constructor
    · apply (hequal cut _ hcut).mpr
      intro c
      simp only [List.mem_cons, List.not_mem_nil, or_false, exists_eq_or_imp, exists_eq_left]
      omega
    · rw [hmaximal]
      simp only [Span.mem_def]
      grind

end CharSet

end ScannerAlphabet
