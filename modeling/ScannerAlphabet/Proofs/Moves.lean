import ScannerAlphabet.Refiner

/-!
# Requests as moves of a partition

What a request does to the partition depends on nothing but the partition and the source of
case variants. A request that refines does so by its effective sets, the submitted sets or their
folds, up to the character that fails; a request that is refused has none. `partition_run` says
that a run of requests replays their moves one after the other on the partition alone.
-/
namespace ScannerAlphabet

/-- What happens to a partition in a run. -/
inductive Move where
  | split (s : CharSet)
  | resize (maximum : Nat)
deriving DecidableEq

/-- The partition after a move. A change of the alphabet that is refused leaves it as it is. -/
def Partition.move (p : Partition) : Move → Partition
  | .split s => p.refine (p.clip s)
  | .resize maximum => (p.resize maximum).toOption.getD p

/-- The partition after some moves. -/
def Partition.replay (p : Partition) (moves : List Move) : Partition :=
  moves.foldl Partition.move p

@[simp] theorem Partition.replay_nil (p : Partition) : p.replay [] = p := rfl

@[simp] theorem Partition.replay_cons (p : Partition) (a : Move) (moves : List Move) :
    p.replay (a :: moves) = (p.move a).replay moves := rfl

@[simp] theorem Partition.replay_append (p : Partition) (moves more : List Move) :
    p.replay (moves ++ more) = (p.replay moves).replay more :=
  List.foldl_append

namespace Request

/-- The submitted set, or its fold if case is to be ignored. -/
def effective? (source : Option CaselessSource) (s : CharSet) (caseless : Bool) :
    Option CharSet :=
  if caseless then source.map fun given => s.fold given.variants? else some s

/-- The effective set of one character, if it is in the range of classes. -/
def effectiveChar? (source : Option CaselessSource) (caseless : Bool) (c : Char) :
    Option CharSet :=
  (CharSet.single c.toNat).toOption.bind fun s => effective? source s caseless

/-- The sets by which a request refines; for a text, those of the characters before the first
that lies beyond `CodePoint.last`. -/
def effectiveSets (source : Option CaselessSource) : Request → List CharSet
  | .set s caseless => (effective? source s caseless).toList
  | .char c caseless => (effectiveChar? source caseless c).toList
  | .text s caseless =>
      (s.toList.takeWhile fun c => c.toNat ≤ CodePoint.last).filterMap
        (effectiveChar? source caseless)
  | .spans l caseless => (effective? source (CharSet.ofSpans l) caseless).toList
  | .complement l caseless => (effective? source (CharSet.ofSpans l) caseless).toList
  | .alphabet _ => []

def moves (source : Option CaselessSource) : Request → List Move
  | .alphabet maximum => [.resize maximum]
  | q => (q.effectiveSets source).map .split

theorem effective?_eq_none_iff {source : Option CaselessSource} {s : CharSet} {caseless : Bool} :
    effective? source s caseless = none ↔ caseless = true ∧ source = none := by
  unfold effective?
  cases caseless <;> simp

theorem single_toOption_eq_none_iff {c : Nat} :
    (CharSet.single c).toOption = none ↔ CodePoint.last < c := by
  unfold CharSet.single Span.single Span.ofBounds
  split
  · rename_i h
    simpa [Except.map, Except.toOption] using h.2
  · rename_i h
    simp only [Except.map, Except.toOption, true_iff]
    omega

theorem effectiveChar?_eq_none_iff {source : Option CaselessSource} {caseless : Bool} {c : Char} :
    effectiveChar? source caseless c = none ↔
      CodePoint.last < c.toNat ∨ (caseless = true ∧ source = none) := by
  rw [← single_toOption_eq_none_iff]
  unfold effectiveChar?
  cases (CharSet.single c.toNat).toOption with
  | none => simp
  | some s => simp [effective?_eq_none_iff]

theorem filterMap_effectiveChar?_of_none {source : Option CaselessSource} {caseless : Bool}
    {c : Char} {cs : List Char} (h : effectiveChar? source caseless c = none) :
    ((c :: cs).takeWhile fun c => c.toNat ≤ CodePoint.last).filterMap
      (effectiveChar? source caseless) = [] := by
  rcases effectiveChar?_eq_none_iff.mp h with hlast | hsource
  · rw [List.takeWhile_cons_of_neg (by simpa using hlast), List.filterMap_nil]
  · exact List.filterMap_eq_nil_iff.mpr fun d _ => effectiveChar?_eq_none_iff.mpr (.inr hsource)

theorem filterMap_effectiveChar?_of_some {source : Option CaselessSource} {caseless : Bool}
    {c : Char} {f : CharSet} (h : effectiveChar? source caseless c = some f) (cs : List Char) :
    ((c :: cs).takeWhile fun c => c.toNat ≤ CodePoint.last).filterMap
        (effectiveChar? source caseless) =
      f :: (cs.takeWhile fun c => c.toNat ≤ CodePoint.last).filterMap
        (effectiveChar? source caseless) := by
  have hlast : c.toNat ≤ CodePoint.last := by
    apply Nat.not_lt.mp
    intro hlt
    rw [effectiveChar?_eq_none_iff.mpr (.inl hlt)] at h
    cases h
  rw [List.takeWhile_cons_of_pos (by simpa using hlast), List.filterMap_cons_some h]

end Request

namespace Refiner
open Request

/-- The source of case variants that the refiner has. -/
def source? (r : Refiner) : Option CaselessSource :=
  r.reader.map (·.source)

/-- The outcome leaves the refiner's partition after some moves, with the same source. -/
def Replays (r : Refiner) (moves : List Move) (o : Outcome) : Prop :=
  o.refiner.partition = r.partition.replay moves ∧ o.refiner.source? = r.source?

variable {r : Refiner} {s f : CharSet} {caseless : Bool} {c : Char} {source : Option CaselessSource}

theorem refineBySet_of_some (h : effective? r.source? s caseless = some f) :
    (r.refineBySet s caseless).result = .ok () ∧
      r.Replays [.split f] (r.refineBySet s caseless) := by
  unfold refineBySet effective? source? at *
  cases caseless with
  | false =>
    obtain rfl := Option.some.inj h
    exact ⟨rfl, rfl, rfl⟩
  | true =>
    cases hr : r.reader with
    | none => simp [hr] at h
    | some reader =>
      rw [hr] at h
      obtain rfl := Option.some.inj h
      exact ⟨rfl, rfl, by simp [source?, split, hr, reader.source_fold]⟩

theorem refineBySet_of_none (h : effective? r.source? s caseless = none) :
    r.refineBySet s caseless = r.refuse .noCaselessSource := by
  obtain ⟨rfl, hsource⟩ := effective?_eq_none_iff.mp h
  have hr : r.reader = none := by simpa [source?] using hsource
  simp [refineBySet, hr]

theorem replays_refineBySet (r : Refiner) (s : CharSet) (caseless : Bool) :
    r.Replays ((effective? r.source? s caseless).toList.map .split) (r.refineBySet s caseless) := by
  cases h : effective? r.source? s caseless with
  | none =>
    rw [refineBySet_of_none h]
    exact ⟨rfl, rfl⟩
  | some f => exact (refineBySet_of_some h).2

theorem ofChar_bind_single (c : Char) :
    ((Alphabet.ofChar c).bind CharSet.single).toOption = (CharSet.single c.toNat).toOption := by
  unfold Alphabet.ofChar Alphabet.checked
  split
  · rename_i h
    exact (single_toOption_eq_none_iff.mpr h).symm
  · rfl

theorem refineByChar_of_some (h : effectiveChar? r.source? caseless c = some f) :
    (r.refineByChar c caseless).result = .ok () ∧
      r.Replays [.split f] (r.refineByChar c caseless) := by
  unfold effectiveChar? at h
  rw [← ofChar_bind_single] at h
  unfold refineByChar
  cases hs : (Alphabet.ofChar c).bind CharSet.single with
  | error e => simp [hs, Except.toOption] at h
  | ok s =>
    rw [hs] at h
    exact refineBySet_of_some h

theorem refineByChar_of_none (h : effectiveChar? r.source? caseless c = none) :
    ∃ e, r.refineByChar c caseless = r.refuse e := by
  unfold effectiveChar? at h
  rw [← ofChar_bind_single] at h
  unfold refineByChar
  cases hs : (Alphabet.ofChar c).bind CharSet.single with
  | error e => exact ⟨e, rfl⟩
  | ok s =>
    rw [hs] at h
    exact ⟨_, refineBySet_of_none h⟩

theorem replays_refineByChar (r : Refiner) (c : Char) (caseless : Bool) :
    r.Replays ((effectiveChar? r.source? caseless c).toList.map .split)
      (r.refineByChar c caseless) := by
  cases h : effectiveChar? r.source? caseless c with
  | none =>
    obtain ⟨e, he⟩ := refineByChar_of_none h
    rw [he]
    exact ⟨rfl, rfl⟩
  | some f => exact (refineByChar_of_some h).2

theorem refineByChars_cons_of_ok (h : (r.refineByChar c caseless).result = .ok ())
    (cs : List Char) : (r.refineByChars caseless (c :: cs)).refiner =
      ((r.refineByChar c caseless).refiner.refineByChars caseless cs).refiner := by
  simp only [refineByChars, h]

theorem refineByChars_cons_of_refuse {e : Error} (h : r.refineByChar c caseless = r.refuse e)
    (cs : List Char) : r.refineByChars caseless (c :: cs) = r.refuse e := by
  simp only [refineByChars, h, refuse]

/-- A text replays its characters up to the one that fails. -/
theorem replays_refineByChars (r : Refiner) (caseless : Bool) (cs : List Char) :
    r.Replays (((cs.takeWhile fun c => c.toNat ≤ CodePoint.last).filterMap
      (effectiveChar? r.source? caseless)).map .split) (r.refineByChars caseless cs) := by
  induction cs generalizing r with
  | nil => exact ⟨rfl, rfl⟩
  | cons c cs ih =>
    cases h : effectiveChar? r.source? caseless c with
    | none =>
      obtain ⟨e, he⟩ := refineByChar_of_none h
      rw [filterMap_effectiveChar?_of_none h, refineByChars_cons_of_refuse he]
      exact ⟨rfl, rfl⟩
    | some f =>
      obtain ⟨hok, hpartition, hsource⟩ := refineByChar_of_some h
      obtain ⟨hrest, hrestSource⟩ := ih (r.refineByChar c caseless).refiner
      rw [hsource] at hrest hrestSource
      unfold Replays
      rw [refineByChars_cons_of_ok hok, filterMap_effectiveChar?_of_some h, hrest, hpartition]
      exact ⟨rfl, hrestSource⟩

theorem replays_changeAlphabet (r : Refiner) (maximum : Nat) :
    r.Replays [.resize maximum] (r.changeAlphabet maximum) := by
  unfold changeAlphabet Replays
  rw [Partition.replay_cons, Partition.replay_nil, Partition.move]
  cases r.partition.resize maximum with
  | error e => exact ⟨rfl, rfl⟩
  | ok p => exact ⟨rfl, rfl⟩

theorem apply_alphabet_of_ok {p : Partition} {maximum : Nat}
    (h : r.partition.resize maximum = .ok p) :
    (r.apply (.alphabet maximum)).result = .ok () ∧
      (r.apply (.alphabet maximum)).refiner.partition = p := by
  simp [apply, changeAlphabet, h]

theorem apply_alphabet_of_error {e : Error} {maximum : Nat}
    (h : r.partition.resize maximum = .error e) :
    r.apply (.alphabet maximum) = r.refuse e := by
  simp [apply, changeAlphabet, h]

theorem replays_apply (r : Refiner) (q : Request) :
    r.Replays (q.moves r.source?) (r.apply q) := by
  cases q with
  | set s caseless => exact replays_refineBySet r s caseless
  | char c caseless => exact replays_refineByChar r c caseless
  | text s caseless => exact replays_refineByChars r caseless s.toList
  | spans l caseless => exact replays_refineBySet r (CharSet.ofSpans l) caseless
  | complement l caseless => exact replays_refineBySet r (CharSet.ofSpans l) caseless
  | alphabet maximum => exact replays_changeAlphabet r maximum

/-- A run replays the moves of its requests. -/
theorem partition_run (r : Refiner) (qs : List Request) :
    (r.run qs).partition = r.partition.replay (qs.flatMap (Request.moves r.source?)) := by
  induction qs generalizing r with
  | nil => rfl
  | cons q qs ih =>
    obtain ⟨hpartition, hsource⟩ := replays_apply r q
    unfold run
    rw [ih, hpartition, hsource, List.flatMap_cons, Partition.replay_append]

@[simp] theorem source?_ofPartition (p : Partition) (source : Option CaselessSource) :
    (ofPartition p source).source? = source := by
  cases source <;> rfl

end Refiner

theorem Request.moves_of_ne_alphabet {q : Request} (h : ∀ n, q ≠ .alphabet n)
    (source : Option CaselessSource) : q.moves source = (q.effectiveSets source).map .split := by
  cases q with
  | alphabet n => exact absurd rfl (h n)
  | _ => rfl

theorem Request.moves_eq_split {qs : List Request} (h : ∀ n, Request.alphabet n ∉ qs)
    (source : Option CaselessSource) :
    qs.flatMap (Request.moves source) =
      (qs.flatMap (Request.effectiveSets source)).map .split := by
  induction qs with
  | nil => rfl
  | cons q qs ih =>
    have hq : ∀ n, q ≠ .alphabet n := fun n hn => h n (hn ▸ List.mem_cons_self)
    rw [List.flatMap_cons, List.flatMap_cons, List.map_append, moves_of_ne_alphabet hq,
      ih fun n hn => h n (List.mem_cons_of_mem _ hn)]

end ScannerAlphabet
