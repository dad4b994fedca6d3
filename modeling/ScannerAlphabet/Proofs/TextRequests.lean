import Mathlib.Data.List.TakeWhile
import ScannerAlphabet.Proofs.Refusals
import ScannerAlphabet.Proofs.SinglePoints

/-!
# Texts, character by character

A text is requested as its characters are, one after the other, until one of them is refused:
`inTurn_refineByChars` says that the refiner, the events and the result are the same. So a text is
refused for a character beyond the last code point, or, if case is to be ignored and no source is
there, for its first character whatever it is. A text that comes to its end leaves each of its
characters alone in a class, and the number of new classes is known from the old ones. The main
statement is about every state that a refiner can reach.
-/
namespace ScannerAlphabet.Refiner
open Request
variable {r : Refiner} {caseless : Bool} {c : Char} {cs : List Char} {t : String}

/-- The outcome is that of some requests made in turn up to the first that is refused. The refused
one ends it with its error, and the refiner and the events are those of the requests before. -/
def InTurn (r : Refiner) (qs : List Request) (o : Outcome) : Prop :=
  ∃ done rest, qs = done ++ rest ∧
    (∀ before ∈ r.outcomes done, before.result = .ok ()) ∧
    o.refiner = r.run done ∧
    o.events = (r.outcomes done).flatMap Outcome.events ∧
    ((rest = [] ∧ o.result = .ok ()) ∨
      ∃ q later e, rest = q :: later ∧ (r.run done).apply q = (r.run done).refuse e ∧
        o.result = .error e)

theorem InTurn.cons {q : Request} {qs : List Request} {o : Outcome}
    (hq : (r.apply q).result = .ok ()) (h : (r.apply q).refiner.InTurn qs o) :
    r.InTurn (q :: qs) { o with events := (r.apply q).events ++ o.events } := by
  obtain ⟨done, rest, rfl, hdone, hrefiner, hevents, hend⟩ := h
  refine ⟨q :: done, rest, rfl, ?_, hrefiner, ?_, hend⟩
  · intro before hbefore
    rcases List.mem_cons.mp hbefore with rfl | hlater
    · exact hq
    · exact hdone before hlater
  · change (r.apply q).events ++ o.events = _
    rw [hevents, outcomes, List.flatMap_cons]

/-- The characters of a text are requested in turn. -/
theorem inTurn_refineByChars (r : Refiner) (caseless : Bool) (cs : List Char) :
    r.InTurn (cs.map (.char · caseless)) (r.refineByChars caseless cs) := by
  induction cs generalizing r with
  | nil => exact ⟨[], [], rfl, by simp [outcomes], rfl, rfl, .inl ⟨rfl, rfl⟩⟩
  | cons c cs ih =>
    cases hresult : (r.refineByChar c caseless).result with
    | error e =>
      have hrefuse : r.refineByChar c caseless = r.refuse e :=
        apply_of_error (q := .char c caseless) (by simp) hresult
      rw [refineByChars_cons_of_refuse hrefuse]
      exact ⟨[], _, rfl, by simp [outcomes], rfl, rfl, .inr ⟨_, _, e, rfl, hrefuse, rfl⟩⟩
    | ok u =>
      have hstep := InTurn.cons (q := .char c caseless) hresult
        (ih (r.refineByChar c caseless).refiner)
      have hrest : r.refineByChars caseless (c :: cs) =
          { (r.refineByChar c caseless).refiner.refineByChars caseless cs with
            events := (r.refineByChar c caseless).events ++
              ((r.refineByChar c caseless).refiner.refineByChars caseless cs).events } := by
        simp only [refineByChars, hresult]
      rw [hrest]
      exact hstep

/-- Whether a text is refused can be seen from its characters and the source. -/
theorem refineByChars_eq_error_iff : (∃ e, (r.refineByChars caseless cs).result = .error e) ↔
    (∃ c ∈ cs, CodePoint.last < c.toNat) ∨
      (cs ≠ [] ∧ caseless = true ∧ r.source? = none) := by
  induction cs generalizing r with
  | nil => simp [refineByChars]
  | cons c cs ih =>
    have hsource := (replays_refineByChar r c caseless).2
    cases hc : effectiveChar? r.source? caseless c with
    | none =>
      obtain ⟨e, he⟩ := refineByChar_of_none hc
      have hrefused : (r.refineByChars caseless (c :: cs)).result = .error e := by
        rw [refineByChars_cons_of_refuse he]
        rfl
      rw [hrefused]
      refine iff_of_true ⟨e, rfl⟩ ?_
      rcases effectiveChar?_eq_none_iff.mp hc with hlast | hnone
      · exact .inl ⟨c, List.mem_cons_self, hlast⟩
      · exact .inr ⟨List.cons_ne_nil _ _, hnone⟩
    | some f =>
      have hfine : ¬ (CodePoint.last < c.toNat ∨ caseless = true ∧ r.source? = none) := by
        rw [← effectiveChar?_eq_none_iff, hc]
        simp
      have hresult : (r.refineByChars caseless (c :: cs)).result =
          ((r.refineByChar c caseless).refiner.refineByChars caseless cs).result := by
        simp only [refineByChars, (refineByChar_of_some hc).1]
      rw [hresult, ih, hsource, List.exists_mem_cons_iff]
      grind

theorem partition_refineByChars (h : (r.refineByChars false cs).result = .ok ()) :
    (r.refineByChars false cs).refiner.partition =
      r.partition.replay (Partition.points (cs.map Char.toNat)) := by
  have hlast : ∀ c ∈ cs, c.toNat ≤ CodePoint.last := by
    intro c hc
    apply Nat.not_lt.mp
    intro hlt
    obtain ⟨e, he⟩ := refineByChars_eq_error_iff.mpr (.inl ⟨c, hc, hlt⟩)
    rw [he] at h
    cases h
  have hall : cs.takeWhile (fun c => c.toNat ≤ CodePoint.last) = cs :=
    List.takeWhile_eq_self_iff.mpr (by simpa using hlast)
  have hsets : cs.filterMap (effectiveChar? r.source? false) =
      (cs.map Char.toNat).filterMap fun n => (CharSet.single n).toOption := by
    rw [List.filterMap_map]
    apply List.filterMap_congr
    intro c _
    exact Option.bind_fun_some _
  rw [(replays_refineByChars r false cs).1, hall, hsets, Partition.points]

/-- A text has the outcome of its characters requested in turn, up to the first that is refused. It
is refused for a character beyond the last code point, or if it has any character, case is to be
ignored and there is no source. When it comes to its end, each of its characters that the alphabet
has is alone in a class, and every old class has made one new class for each of its members in the
text, except that a class of which all members are in the text keeps one of them. -/
theorem Reachable.text_refines_by_characters (hr : r.Reachable) :
    (∀ t caseless, r.InTurn (t.toList.map (.char · caseless)) (r.apply (.text t caseless))) ∧
    (∀ t caseless, (∃ e, (r.apply (.text t caseless)).result = .error e) ↔
      (∃ c ∈ t.toList, CodePoint.last < c.toNat) ∨
        (t ≠ "" ∧ caseless = true ∧ r.source? = none)) ∧
    (∀ t, (r.apply (.text t false)).result = .ok () →
      let p := r.partition
      let q := (r.apply (.text t false)).refiner.partition
      (∀ c ∈ t.toList, c.toNat ≤ p.maximum → ∃ i s, q.code c.toNat = .ok i ∧
        q.class? i = some s ∧ ∀ d, d ∈ s ↔ d = c.toNat) ∧
      q.count = p.count + (p.classes.map fun s =>
        min (s.occurring (t.toList.map Char.toNat)) (s.size - 1)).sum) := by
  refine ⟨?_, ?_, ?_⟩
  · intro t caseless
    exact inTurn_refineByChars r caseless t.toList
  · intro t caseless
    have hempty : t ≠ "" ↔ t.toList ≠ [] := by
      rw [ne_eq, ne_eq, String.toList_eq_nil_iff]
    rw [hempty]
    exact refineByChars_eq_error_iff
  · intro t hok p q
    have hq : q = p.replay (Partition.points (t.toList.map Char.toNat)) :=
      partition_refineByChars hok
    rw [hq]
    constructor
    · intro c hc hmax
      exact hr.valid.class_of_point (List.mem_map_of_mem hc) hmax
    · exact hr.valid.count_replay_points _

/-- The class of two letters makes one new class although both are in the text, the other class
makes one for a digit that comes twice, and a text that is refused keeps its first character. -/
theorem text_refines_by_characters_letters :
    let letters : CharSet := CharSet.ofSpan ⟨0x61, 0x62, by decide, by decide⟩
    let r := (ofPartition (Partition.ofWidth .sevenBit) none).run [.set letters false]
    r.Reachable ∧ (r.apply (.text "ba1é1" false)).result = .ok () ∧
      (r.apply (.text "ba1é1" false)).refiner.partition.count = 4 ∧
      (∃ e, (r.apply (.text "a😀b" false)).result = .error e) ∧
      (∃ e, (r.apply (.text "a" true)).result = .error e) := by
  intro letters r
  have hr : r.Reachable := (Reachable.ofWidth .sevenBit none).run _
  obtain ⟨-, hrefused, hended⟩ := hr.text_refines_by_characters
  have hok : (r.apply (.text "ba1é1" false)).result = .ok () := by decide
  have hcount := (hended "ba1é1" hok).2
  have hsum : (r.partition.classes.map fun s =>
      min (s.occurring ("ba1é1".toList.map Char.toNat)) (s.size - 1)).sum = 2 := by decide
  refine ⟨hr, hok, ?_, (hrefused _ _).mpr (.inl ⟨'😀', by decide, by decide⟩),
    (hrefused _ _).mpr (.inr ⟨by decide, rfl, rfl⟩)⟩
  rw [hcount, hsum]
  decide

end ScannerAlphabet.Refiner
