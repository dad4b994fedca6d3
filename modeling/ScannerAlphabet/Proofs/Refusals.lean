import ScannerAlphabet.Proofs.Reachable

/-!
# Refused requests

A request is refused for three causes: a code point beyond the last one, a caseless request without
a source of case variants, and an alphabet that leaves a class without members.
`narrow_eq_error_iff` says which class is reported, and the lemmas about single requests say which
cause comes first where two apply. `apply_of_error` says that a refused request has no effect; only
a text is left out there, since the refinements by its first characters stay. The main statement is
about every state that a refiner can reach, where no alphabet is refused that is as wide as the
present one.
-/
namespace ScannerAlphabet

namespace Partition
variable {p : Partition} {m code : Nat} {e : Error}

/-- The class with the code has no member up to the number, and every class before it has one. -/
def FirstEmptied (p : Partition) (m code : Nat) : Prop :=
  (∃ s, p.class? code = some s ∧ ∀ c ∈ s, m < c) ∧
    ∀ j < code, ∀ s, p.class? j = some s → ∃ c ∈ s, c ≤ m

theorem isEmpty_clipped {s : CharSet} :
    (s ∩ CharSet.upTo m).isEmpty = true ↔ ∀ c ∈ s, m < c := by
  rw [CharSet.isEmpty_iff]
  simp only [mem_clipped, not_and, Nat.not_le]

theorem findIdx?_clipped_eq_some_iff :
    (p.clippedTo m).classes.findIdx? CharSet.isEmpty = some code ↔ p.FirstEmptied m code := by
  rw [List.findIdx?_eq_some_iff_getElem]
  unfold FirstEmptied class? clippedTo
  simp only [List.length_map, List.getElem_map, isEmpty_clipped]
  constructor
  · intro ⟨hcode, hemptied, hbefore⟩
    constructor
    · exact ⟨p.classes[code], List.getElem?_eq_getElem hcode, hemptied⟩
    · intro j hj s hs
      have hkept := hbefore j hj
      rw [(List.getElem?_eq_some_iff.mp hs).choose_spec] at hkept
      simpa only [not_forall, Nat.not_lt, exists_prop] using hkept
  · intro ⟨⟨s, hs, hemptied⟩, hbefore⟩
    have hcode := (List.getElem?_eq_some_iff.mp hs).choose
    have hget : p.classes[code] = s := (List.getElem?_eq_some_iff.mp hs).choose_spec
    refine ⟨hcode, hget ▸ hemptied, ?_⟩
    intro j hj
    have hkept := hbefore j hj p.classes[j] (List.getElem?_eq_getElem (Nat.lt_trans hj hcode))
    simpa only [not_forall, Nat.not_lt, exists_prop] using hkept

/-- Narrowing is refused for the first class that it would empty. -/
theorem narrow_eq_error_iff :
    p.narrow m = .error e ↔ ∃ code, p.FirstEmptied m code ∧ e = .emptiedClass code m := by
  simp only [← findIdx?_clipped_eq_some_iff]
  unfold narrow
  cases (p.clippedTo m).classes.findIdx? CharSet.isEmpty with
  | none => simp
  | some code => simp [eq_comm]

theorem exists_firstEmptied_iff :
    (∃ code, p.FirstEmptied m code) ↔ ∃ s ∈ p.classes, ∀ c ∈ s, m < c := by
  simp only [← findIdx?_clipped_eq_some_iff, ← Option.isSome_iff_exists, List.findIdx?_isSome]
  simp only [clippedTo, List.any_map, List.any_eq_true, Function.comp_apply, isEmpty_clipped]

theorem Valid.not_firstEmptied (hp : p.Valid) (hm : p.maximum ≤ m) : ¬ p.FirstEmptied m code := by
  intro ⟨⟨s, hs, hemptied⟩, _⟩
  obtain ⟨c, hc⟩ := hp.nonempty s (class?_mem hs)
  have hlt := hemptied c hc
  have hle := hp.le_of_mem (class?_mem hs) hc
  omega

/-- An alphabet is refused if classes cannot hold it or if it empties a class. -/
theorem Valid.resize_eq_error_iff (hp : p.Valid) : p.resize m = .error e ↔
    (CodePoint.last < m ∧ e = .outOfRange m CodePoint.last) ∨
      (m ≤ CodePoint.last ∧ ∃ code, p.FirstEmptied m code ∧ e = .emptiedClass code m) := by
  by_cases hlast : CodePoint.last < m
  · have hnle : ¬ m ≤ CodePoint.last := Nat.not_le.mpr hlast
    unfold Partition.resize
    rw [dif_pos hlast]
    simp only [hlast, hnle, Except.error.injEq, true_and, false_and, or_false, eq_comm]
  · have hle : m ≤ CodePoint.last := Nat.not_lt.mp hlast
    simp only [hlast, hle, false_and, false_or, true_and]
    by_cases hm : m < p.maximum
    · unfold Partition.resize
      rw [dif_neg hlast, dif_neg (Nat.not_lt.mpr (Nat.le_of_lt hm)), if_pos hm]
      exact narrow_eq_error_iff
    · have hok : ∃ q, p.resize m = .ok q := by
        rcases Nat.lt_or_eq_of_le (Nat.not_lt.mp hm) with hlt | rfl
        · exact ⟨_, resize_of_lt hlt hle⟩
        · exact ⟨p, hp.resize_self⟩
      obtain ⟨q, hq⟩ := hok
      rw [hq]
      simp only [reduceCtorEq, hp.not_firstEmptied (Nat.not_lt.mp hm), false_and, exists_false]

end Partition

namespace Refiner
variable {r : Refiner} {s : CharSet} {caseless : Bool} {c : Char} {q : Request} {e : Error}
  {m : Nat}

theorem refineBySet_eq_error_iff : (r.refineBySet s caseless).result = .error e ↔
    caseless = true ∧ r.source? = none ∧ e = .noCaselessSource := by
  cases h : Request.effective? r.source? s caseless with
  | none =>
    obtain ⟨hcaseless, hsource⟩ := Request.effective?_eq_none_iff.mp h
    rw [refineBySet_of_none h]
    simp only [refuse, hcaseless, hsource, Except.error.injEq, true_and, eq_comm]
  | some f =>
    have hsome : ¬ (caseless = true ∧ r.source? = none) := by
      rw [← Request.effective?_eq_none_iff (s := s), h]
      simp
    rw [(refineBySet_of_some h).1, ← and_assoc]
    simp only [reduceCtorEq, hsome, false_and]

/-- A character beyond the last code point is refused whether or not case is to be ignored. -/
theorem refineByChar_of_last_lt (hc : CodePoint.last < c.toNat) :
    r.refineByChar c caseless = r.refuse (.outOfRange c.toNat CodePoint.last) := by
  unfold refineByChar Alphabet.ofChar Alphabet.checked
  rw [if_pos hc]
  rfl

theorem refineByChar_of_le_last (hc : c.toNat ≤ CodePoint.last) :
    r.refineByChar c caseless =
      r.refineBySet (CharSet.ofSpan ⟨c.toNat, c.toNat, Nat.le_refl _, hc⟩) caseless := by
  unfold refineByChar Alphabet.ofChar
  rw [Alphabet.checked_eq_ok_iff.mpr ⟨rfl, hc⟩]
  simp only [Except.bind, CharSet.single, Span.single, Span.ofBounds, Except.map, hc, Nat.le_refl,
    and_self, dif_pos]

theorem refineByChar_eq_error_iff : (r.refineByChar c caseless).result = .error e ↔
    (CodePoint.last < c.toNat ∧ e = .outOfRange c.toNat CodePoint.last) ∨
      (c.toNat ≤ CodePoint.last ∧ caseless = true ∧ r.source? = none ∧
        e = .noCaselessSource) := by
  by_cases hc : CodePoint.last < c.toNat
  · have hnle : ¬ c.toNat ≤ CodePoint.last := Nat.not_le.mpr hc
    rw [refineByChar_of_last_lt hc]
    simp only [refuse, hc, hnle, Except.error.injEq, true_and, false_and, or_false, eq_comm]
  · have hle : c.toNat ≤ CodePoint.last := Nat.not_lt.mp hc
    rw [refineByChar_of_le_last hle, refineBySet_eq_error_iff]
    simp only [hc, hle, false_and, false_or, true_and]

theorem changeAlphabet_eq_error_iff :
    (r.changeAlphabet m).result = .error e ↔ r.partition.resize m = .error e := by
  unfold changeAlphabet
  cases r.partition.resize m with
  | error e' => simp only [refuse, Except.error.injEq]
  | ok p => simp only [reduceCtorEq]

theorem refineBySet_of_error (h : (r.refineBySet s caseless).result = .error e) :
    r.refineBySet s caseless = r.refuse e := by
  obtain ⟨hcaseless, hsource, rfl⟩ := refineBySet_eq_error_iff.mp h
  exact refineBySet_of_none (Request.effective?_eq_none_iff.mpr ⟨hcaseless, hsource⟩)

/-- Nothing comes of a request that is refused, unless it is a text. -/
theorem apply_of_error (hq : ∀ t b, q ≠ .text t b) (h : (r.apply q).result = .error e) :
    r.apply q = r.refuse e := by
  cases q with
  | set s caseless => exact refineBySet_of_error h
  | char c caseless =>
    change (r.refineByChar c caseless).result = .error e at h
    change r.refineByChar c caseless = r.refuse e
    rcases refineByChar_eq_error_iff.mp h with ⟨hc, rfl⟩ | ⟨hc, _⟩
    · exact refineByChar_of_last_lt hc
    · rw [refineByChar_of_le_last hc] at h ⊢
      exact refineBySet_of_error h
  | text t caseless => exact absurd rfl (hq t caseless)
  | spans l caseless => exact refineBySet_of_error h
  | complement l caseless => exact refineBySet_of_error h
  | alphabet m => exact apply_alphabet_of_error (changeAlphabet_eq_error_iff.mp h)

/-- The outcomes of some requests, one after the other. -/
def outcomes (r : Refiner) : List Request → List Outcome
  | [] => []
  | q :: qs => r.apply q :: (r.apply q).refiner.outcomes qs

theorem Reachable.apply_alphabet_eq_error_iff (hr : r.Reachable) :
    (r.apply (.alphabet m)).result = .error e ↔
      (CodePoint.last < m ∧ e = .outOfRange m CodePoint.last) ∨
        (m ≤ CodePoint.last ∧
          ∃ code, r.partition.FirstEmptied m code ∧ e = .emptiedClass code m) :=
  changeAlphabet_eq_error_iff.trans hr.valid.resize_eq_error_iff

theorem Reachable.exists_alphabet_error_iff (hr : r.Reachable) :
    (∃ e, (r.apply (.alphabet m)).result = .error e) ↔
      CodePoint.last < m ∨ ∃ s ∈ r.partition.classes, ∀ c ∈ s, m < c := by
  simp only [hr.apply_alphabet_eq_error_iff, ← Partition.exists_firstEmptied_iff]
  constructor
  · intro ⟨e, h⟩
    rcases h with ⟨hlast, _⟩ | ⟨_, code, hcode, _⟩
    · exact .inl hlast
    · exact .inr ⟨code, hcode⟩
  · intro h
    by_cases hlast : CodePoint.last < m
    · exact ⟨_, .inl ⟨hlast, rfl⟩⟩
    · obtain ⟨code, hcode⟩ := h.resolve_left hlast
      exact ⟨_, .inr ⟨Nat.not_lt.mp hlast, code, hcode, rfl⟩⟩

/-- What is requested after a refused request comes out as if that had not been made. -/
theorem outcomes_cons_of_error (hq : ∀ t b, q ≠ .text t b) (h : (r.apply q).result = .error e)
    (later : List Request) : r.outcomes (q :: later) = ⟨r, [], .error e⟩ :: r.outcomes later := by
  have hrefuse : r.apply q = r.refuse e := apply_of_error hq h
  rw [outcomes, hrefuse]
  rfl

/-- Which requests are refused and with which error, and that they might as well not have been made:
the refiner stays what it is, nothing is reported, and all later requests have the outcomes that
they have without them. A character beyond the last code point is reported as such even if the
source is missing, and of several classes that an alphabet empties the first is reported. -/
theorem Reachable.refusals_exact_and_without_effect (hr : r.Reachable) :
    (∀ s caseless e, (r.apply (.set s caseless)).result = .error e ↔
      caseless = true ∧ r.source? = none ∧ e = .noCaselessSource) ∧
    (∀ c caseless e, (r.apply (.char c caseless)).result = .error e ↔
      (CodePoint.last < c.toNat ∧ e = .outOfRange c.toNat CodePoint.last) ∨
        (c.toNat ≤ CodePoint.last ∧ caseless = true ∧ r.source? = none ∧
          e = .noCaselessSource)) ∧
    (∀ m, (∃ e, (r.apply (.alphabet m)).result = .error e) ↔
      CodePoint.last < m ∨ ∃ s ∈ r.partition.classes, ∀ c ∈ s, m < c) ∧
    (∀ m e, (r.apply (.alphabet m)).result = .error e ↔
      (CodePoint.last < m ∧ e = .outOfRange m CodePoint.last) ∨
        (m ≤ CodePoint.last ∧
          ∃ code, r.partition.FirstEmptied m code ∧ e = .emptiedClass code m)) ∧
    (∀ q e, (∀ t b, q ≠ .text t b) → (r.apply q).result = .error e →
      ∀ later, r.outcomes (q :: later) = ⟨r, [], .error e⟩ :: r.outcomes later) := by
  refine ⟨?_, ?_, ?_, ?_, ?_⟩
  · intro s caseless e
    exact refineBySet_eq_error_iff
  · intro c caseless e
    exact refineByChar_eq_error_iff
  · intro m
    exact hr.exists_alphabet_error_iff
  · intro m e
    exact hr.apply_alphabet_eq_error_iff
  · intro q e hq h later
    exact outcomes_cons_of_error hq h later

/-- Without a source even the empty set is refused if case is to be ignored, a character of another
plane is refused for its code point, and an alphabet without letters for the first of two. -/
theorem refusals_exact_and_without_effect_letters :
    let r := (ofPartition (Partition.ofWidth .sevenBit) none).run
      [.char 'a' false, .char 'b' false]
    r.Reachable ∧ (r.apply (.set ∅ true)).result = .error .noCaselessSource ∧
      (r.apply (.char '😀' true)).result = .error (.outOfRange 0x1F600 CodePoint.last) ∧
      (r.apply (.alphabet 0x20)).result = .error (.emptiedClass 1 0x20) ∧
      r.outcomes [.alphabet 0x20, .char 'c' false] =
        ⟨r, [], .error (.emptiedClass 1 0x20)⟩ :: r.outcomes [.char 'c' false] := by
  intro r
  have hr : r.Reachable := (Reachable.ofWidth .sevenBit none).run _
  obtain ⟨hset, hchar, -, halphabet, heffect⟩ := hr.refusals_exact_and_without_effect
  have hfirst : r.partition.FirstEmptied 0x20 1 :=
    Partition.findIdx?_clipped_eq_some_iff.mp (by decide)
  have hnarrow : (r.apply (.alphabet 0x20)).result = .error (.emptiedClass 1 0x20) :=
    (halphabet _ _).mpr (.inr ⟨by decide, 1, hfirst, rfl⟩)
  exact ⟨hr, (hset _ _ _).mpr ⟨rfl, rfl, rfl⟩, (hchar _ _ _).mpr (.inl ⟨by decide, rfl⟩), hnarrow,
    heffect _ _ (by simp) hnarrow _⟩

end Refiner

end ScannerAlphabet
