import ScannerAlphabet.Proofs.AlphabetChange
import ScannerAlphabet.Proofs.Moves
import ScannerAlphabet.Proofs.PlainSplit

/-!
# What holds in every state of a refiner

A refiner starts with one class for the whole alphabet, and any requests may follow, with or
without success. The one invariant is that its partition is valid. Splitting and changing the
alphabet keep it, and every request is a list of such moves. The main statement draws out what
validity means for a caller: who asks for the class of a code point gets the one class that has
it, or an error outside the alphabet, and the executable check never fails.
-/
namespace ScannerAlphabet

namespace Partition
variable {p q : Partition} {m : Nat}

theorem ofMaximum_eq_ok_iff : ofMaximum m = .ok p ↔ p = whole m ∧ m ≤ CodePoint.last := by
  unfold ofMaximum
  cases h : Alphabet.checked m with
  | error e =>
    simp only [Except.map, reduceCtorEq, false_iff, not_and]
    intro _ hm
    rw [Alphabet.checked_eq_ok_iff.mpr ⟨rfl, hm⟩] at h
    cases h
  | ok n =>
    obtain ⟨rfl, hm⟩ := Alphabet.checked_eq_ok_iff.mp h
    simp only [Except.map, Except.ok.injEq]
    exact ⟨fun hp => ⟨hp.symm, hm⟩, fun hp => hp.1.symm⟩

theorem valid_ofMaximum (h : ofMaximum m = .ok p) : p.Valid := by
  obtain ⟨rfl, hm⟩ := ofMaximum_eq_ok_iff.mp h
  exact valid_whole hm

theorem Valid.move (hp : p.Valid) (a : Move) : (p.move a).Valid := by
  cases a with
  | split s => exact hp.refine (p.clip s)
  | resize maximum =>
    rw [Partition.move]
    cases h : p.resize maximum with
    | error e => exact hp
    | ok q => exact hp.resize h

theorem Valid.replay (hp : p.Valid) (moves : List Move) : (p.replay moves).Valid := by
  induction moves generalizing p with
  | nil => exact hp
  | cons a moves ih => exact ih (hp.move a)

end Partition

namespace Refiner

/-- The states of a refiner, from a fresh one on, after any requests. -/
inductive Reachable : Refiner → Prop
  | ofMaximum {maximum : Nat} {p : Partition} (h : Partition.ofMaximum maximum = .ok p)
      (source : Option CaselessSource) : Reachable (ofPartition p source)
  | ofWidth (w : Alphabet.Width) (source : Option CaselessSource) :
      Reachable (ofPartition (Partition.ofWidth w) source)
  | apply {r : Refiner} (q : Request) : Reachable r → Reachable (r.apply q).refiner

theorem Reachable.run {r : Refiner} (h : r.Reachable) (qs : List Request) :
    (r.run qs).Reachable := by
  induction qs generalizing r with
  | nil => exact h
  | cons q qs ih => exact ih (h.apply q)

theorem valid_apply {r : Refiner} (h : r.partition.Valid) (q : Request) :
    (r.apply q).refiner.partition.Valid := by
  rw [(replays_apply r q).1]
  exact h.replay _

/-- The classes are a partition of the alphabet in every state. -/
theorem Reachable.valid {r : Refiner} (h : r.Reachable) : r.partition.Valid := by
  induction h with
  | ofMaximum h source => exact Partition.valid_ofMaximum h
  | ofWidth w source => exact Partition.valid_whole w.maximum_le_last
  | apply q _ ih => exact valid_apply ih q

/-- In every state the classes are canonical sets with members and there is at least one. Every
code point of the alphabet lies in the class of its code and in no other, every larger one has
no code, and the sizes add up. -/
theorem Reachable.classes_partition_alphabet {r : Refiner} (h : r.Reachable) :
    (∀ s ∈ r.partition.classes, Runs.Separated s.toRuns ∧ ∃ c, c ∈ s) ∧
    0 < r.partition.count ∧
    r.partition.maximum ≤ CodePoint.last ∧
    (∀ s ∈ r.partition.classes, ∀ c ∈ s, c ≤ r.partition.maximum) ∧
    (∀ c ≤ r.partition.maximum, ∃ i, r.partition.code c = .ok i ∧
      ∀ j, (∃ s, r.partition.class? j = some s ∧ c ∈ s) ↔ j = i) ∧
    (∀ c, r.partition.maximum < c →
      r.partition.code c = .error (.outOfRange c r.partition.maximum)) ∧
    (r.partition.classes.map CharSet.size).sum = r.partition.maximum + 1 ∧
    r.partition.check = true := by
  have hp := h.valid
  refine ⟨fun s hs => ⟨s.separated, hp.nonempty s hs⟩, hp.count_pos, hp.maximum_le,
    fun s hs c hc => hp.le_of_mem hs hc, fun c hc => ?_, fun c hc => hp.code_eq_error hc,
    hp.sum_size, (Partition.check_eq_true_iff hp.maximum_le).mpr hp⟩
  obtain ⟨i, s, hcode, hclass, hcs⟩ := hp.exists_code hc
  refine ⟨i, hcode, fun j => ?_⟩
  constructor
  · rintro ⟨t, ht, hct⟩
    exact hp.index_eq ht hclass hct hcs
  · rintro rfl
    exact ⟨s, hclass, hcs⟩

/-- A refused narrowing, a widening and a text that fails on the way leave three classes with
256 members. -/
theorem classes_partition_alphabet_after_failures :
    let r := (ofPartition (Partition.ofWidth .sevenBit) none).run
      [.char 'a' false, .alphabet 0x20, .alphabet 0xFF, .text "b😀c" false]
    r.Reachable ∧ r.partition.count = 3 ∧ (r.partition.classes.map CharSet.size).sum = 256 ∧
      r.partition.check = true := by
  intro r
  have hr : r.Reachable := (Reachable.ofWidth .sevenBit none).run _
  obtain ⟨-, -, -, -, -, -, hsum, hcheck⟩ := Reachable.classes_partition_alphabet hr
  have hcount : r.partition.count = 3 := by decide
  have hmaximum : r.partition.maximum = 0xFF := by decide
  exact ⟨hr, hcount, by rw [hsum, hmaximum], hcheck⟩

end Refiner

end ScannerAlphabet
