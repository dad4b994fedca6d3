import ScannerAlphabet.Proofs.Reachable
import ScannerAlphabet.Proofs.TableWalk

/-!
# Cursors in step with a table walk

A walk over the alphabet should stop at its end. It would also stop, and leave the table short
without a word, where the position has no class, the class has no cursor, or the cursor has no
span with the position among those that it has still to give. `attempt` is the step of a walk
that tells these apart, and `Reaches` gives every walk that arises on the way, with the runs made
before it. In all of them each cursor has passed exactly the spans of its class that end before
the position. So a search takes one span, which begins at the position, and only the end of the
alphabet stops the walk.
-/
namespace ScannerAlphabet

namespace Cursor

/-- A search for a code point hands out the next span, which begins there, and passes no
other. -/
structure TakesNext (k : Cursor) (c : Nat) (t : Span) (k' : Cursor) : Prop where
  found : k.seek? c = some (t, k')
  next : k.set.toRuns[k.passed]? = some t
  lo_eq : t.lo = c
  set_eq : k'.set = k.set
  passed_eq : k'.passed = k.passed + 1

theorem takesNext_of_next? {k k' : Cursor} {t : Span} {c : Nat} (h : k.next? = some (t, k'))
    (hlo : t.lo = c) : k.TakesNext c t k' := by
  obtain ⟨hspan, hset, hpassed⟩ := next?_eq_some_iff.mp h
  exact ⟨seek?_of_next? h (hlo ▸ t.lo_mem), hspan, hlo, hset, hpassed⟩

end Cursor

namespace TableWalk
variable {w w' : TableWalk} {p : Partition} {made : List ClassRun} {e : ClassRun} {k : Cursor}

/-- What stops a walk: the end of the alphabet, or a position without a class, a class without a
cursor, a cursor without a span that has the position. -/
inductive Stop where
  | finished
  | noClass
  | noCursor
  | noSpan
deriving DecidableEq, Repr

/-- The next run and the walk behind it, or what stops the walk. -/
def attempt (w : TableWalk) : Except Stop (ClassRun × TableWalk) :=
  if w.partition.maximum < w.position then .error .finished
  else
    match w.partition.code? w.position with
    | none => .error .noClass
    | some code =>
      match w.cursors[code]? with
      | none => .error .noCursor
      | some k =>
        match k.seek? w.position with
        | none => .error .noSpan
        | some (t, k') => .ok (⟨w.position, t.hi, code⟩, w.advance code t k')

theorem toOption_attempt (w : TableWalk) : w.attempt.toOption = w.step? := by
  unfold attempt step?
  split
  · rfl
  · cases w.partition.code? w.position with
    | none => rfl
    | some code =>
      dsimp only
      cases w.cursors[code]? with
      | none => rfl
      | some k =>
        dsimp only [Option.bind_some]
        cases k.seek? w.position with
        | none => rfl
        | some found => rfl

theorem attempt_eq_ok_iff : w.attempt = .ok (e, w') ↔ w.step? = some (e, w') := by
  rw [← toOption_attempt]
  cases w.attempt with
  | error stop => simp [Except.toOption]
  | ok found => simp [Except.toOption]

theorem exists_attempt_eq_error_iff : (∃ stop, w.attempt = .error stop) ↔ w.step? = none := by
  rw [← toOption_attempt]
  cases w.attempt with
  | error stop => simp [Except.toOption]
  | ok found => simp [Except.toOption]

/-- The walks that arise on the way over an alphabet, each with the runs made before it. -/
inductive Reaches (p : Partition) : List ClassRun → TableWalk → Prop
  | start : Reaches p [] (start p)
  | step {made : List ClassRun} {w w' : TableWalk} {e : ClassRun} :
      Reaches p made w → w.step? = some (e, w') → Reaches p (made ++ [e]) w'

theorem Ready.of_step? (h : w.Ready) (hstep : w.step? = some (e, w')) : w'.Ready := by
  have hpos := (position_lt_of_step? hstep).1
  obtain ⟨i, k, k', t, -, -, -, -, -, hstep', hready⟩ := h.exists_step hpos
  obtain ⟨-, rfl⟩ := Prod.mk.inj (Option.some.inj (hstep.symm.trans hstep'))
  exact hready

/-- The spans that a cursor has passed are exactly those that end before the position. -/
theorem Ready.taken_eq (h : w.Ready) (hk : k ∈ w.cursors) :
    k.set.toRuns.take k.passed = k.set.toRuns.filter (·.hi < w.position) := by
  have htaken : ∀ t ∈ k.set.toRuns.take k.passed, decide (t.hi < w.position) = true :=
    fun t ht => decide_eq_true (h.passed k hk t ht)
  have hrest : ∀ t ∈ k.rest, ¬ decide (t.hi < w.position) = true := by
    intro t ht
    have hlo := h.ahead k hk t ht
    have hbounds := t.lo_le_hi
    rw [decide_eq_true_eq]
    omega
  calc k.set.toRuns.take k.passed
    _ = (k.set.toRuns.take k.passed ++ k.rest).filter (·.hi < w.position) := by
      rw [List.filter_append, List.filter_eq_self.mpr htaken, List.filter_eq_nil_iff.mpr hrest,
        List.append_nil]
    _ = k.set.toRuns.filter (·.hi < w.position) := by rw [← k.set_eq_taken_append_rest]

theorem Ready.exists_attempt (h : w.Ready) (hpos : w.position ≤ w.partition.maximum) :
    ∃ i k t k', w.partition.code w.position = .ok i ∧ w.cursors[i]? = some k ∧
      k.TakesNext w.position t k' ∧
      w.attempt = .ok (⟨w.position, t.hi, i⟩, w.advance i t k') := by
  obtain ⟨i, k, k', t, hcode, hk, hnext, -, hlo, hstep, -⟩ := h.exists_step hpos
  have hclass := h.valid.code?_eq_some_iff.mp hcode
  exact ⟨i, k, t, k', h.valid.code_eq_ok_iff.mpr hclass, hk, Cursor.takesNext_of_next? hnext hlo,
    attempt_eq_ok_iff.mpr hstep⟩

/-- Only the end of the alphabet stops a ready walk. -/
theorem Ready.attempt_eq_error_iff (h : w.Ready) {stop : Stop} :
    w.attempt = .error stop ↔ stop = .finished ∧ w.position = w.partition.maximum + 1 := by
  have hle := h.position_le
  by_cases hpos : w.position ≤ w.partition.maximum
  · obtain ⟨i, k, t, k', -, -, -, hattempt⟩ := h.exists_attempt hpos
    rw [hattempt]
    simp only [reduceCtorEq, false_iff, not_and]
    omega
  · have hend : w.attempt = .error .finished := if_pos (Nat.not_le.mp hpos)
    rw [hend, Except.error.injEq, eq_comm, and_iff_left (by omega)]

theorem Reaches.partition_eq (h : Reaches p made w) : w.partition = p := by
  induction h with
  | start => rfl
  | step _ hstep ih => exact (position_lt_of_step? hstep).2.2.trans ih

theorem Reaches.ready (h : Reaches p made w) (hp : p.Valid) : w.Ready := by
  induction h with
  | start => exact ready_start hp
  | step _ hstep ih => exact ih.of_step? hstep

/-- The runs made and those still to be made are the table. -/
theorem Reaches.made_append_runs (h : Reaches p made w) : made ++ w.runs = p.table := by
  induction h with
  | start => rfl
  | step _ hstep ih => rw [List.append_assoc, List.singleton_append, ← runs_of_step? hstep, ih]

theorem Reaches.exists_stopped (h : Reaches p made w) :
    ∃ w', Reaches p (made ++ w.runs) w' ∧ w'.step? = none := by
  fun_induction TableWalk.runs w generalizing made with
  | case1 w hstep => exact ⟨w, by rwa [List.append_nil], hstep⟩
  | case2 w e w' hstep ih =>
    rw [List.append_cons]
    exact ih (h.step hstep)

/-- A walk over a valid partition comes to the end of the alphabet with the whole table. -/
theorem exists_reaches_table (hp : p.Valid) :
    ∃ w, Reaches p p.table w ∧ w.position = p.maximum + 1 := by
  obtain ⟨w, hw, hstep⟩ := (Reaches.start (p := p)).exists_stopped
  obtain ⟨stop, hstop⟩ := exists_attempt_eq_error_iff.mpr hstep
  have hend := ((hw.ready hp).attempt_eq_error_iff.mp hstop).2
  rw [hw.partition_eq] at hend
  exact ⟨w, hw, hend⟩

end TableWalk

namespace Refiner

/-- Wherever the walk over the classes stands, each cursor has passed exactly the spans of its class
that end before the position. Inside the alphabet the cursor of the position's class hands out its
next span, which begins at the position; only the end of the alphabet stops the walk, and the walk
comes there with the whole table. -/
theorem Reachable.cursors_keep_in_step {r : Refiner} (h : r.Reachable) :
    (∀ made w, TableWalk.Reaches r.partition made w →
      made ++ w.runs = r.partition.table ∧
      w.cursors.map Cursor.set = r.partition.classes ∧
      (∀ k ∈ w.cursors,
        k.set.toRuns.take k.passed = k.set.toRuns.filter (·.hi < w.position)) ∧
      (w.position ≤ r.partition.maximum → ∃ i k t k',
        r.partition.code w.position = .ok i ∧ w.cursors[i]? = some k ∧
        k.TakesNext w.position t k' ∧
        w.attempt = .ok (⟨w.position, t.hi, i⟩, w.advance i t k')) ∧
      ∀ stop, w.attempt = .error stop ↔
        stop = .finished ∧ w.position = r.partition.maximum + 1) ∧
    ∃ w, TableWalk.Reaches r.partition r.partition.table w ∧
      w.position = r.partition.maximum + 1 := by
  refine ⟨fun made w hw => ?_, TableWalk.exists_reaches_table h.valid⟩
  have hready := hw.ready h.valid
  have hpartition := hw.partition_eq
  refine ⟨hw.made_append_runs, hpartition ▸ hready.sets, fun k hk => hready.taken_eq hk, ?_, ?_⟩
  · rw [← hpartition]
    exact hready.exists_attempt
  · intro stop
    rw [← hpartition]
    exact hready.attempt_eq_error_iff

/-- Behind two runs of a seven-bit alphabet, the cursors of two of three classes have passed one
span, and the next run is of the first class again. -/
theorem cursors_keep_in_step_letters :
    let r := (ofPartition (Partition.ofWidth .sevenBit) none).run [.text "ac" false]
    ∃ w, TableWalk.Reaches r.partition [⟨0, 0x60, 0⟩, ⟨0x61, 0x61, 1⟩] w ∧ w.position = 0x62 ∧
      w.cursors.map Cursor.passed = [1, 1, 0] ∧ r.Reachable ∧
      [⟨0, 0x60, 0⟩, ⟨0x61, 0x61, 1⟩] ++ w.runs = r.partition.table ∧
      ∃ w', w.attempt = .ok (⟨0x62, 0x62, 0⟩, w') := by
  intro r
  have hr : r.Reachable := (Reachable.ofWidth .sevenBit none).run _
  have hfirst : TableWalk.Reaches r.partition [⟨0, 0x60, 0⟩] _ :=
    .step .start (TableWalk.step?_of_next? (i := 0) (t := ⟨0, 0x60, by decide, by decide⟩)
      (by decide) (by decide +kernel) rfl rfl (by decide))
  have hsecond : TableWalk.Reaches r.partition [⟨0, 0x60, 0⟩, ⟨0x61, 0x61, 1⟩] _ :=
    .step hfirst (TableWalk.step?_of_next? (i := 1) (t := ⟨0x61, 0x61, by decide, by decide⟩)
      (by decide) (by decide +kernel) rfl rfl (by decide))
  obtain ⟨walks, -⟩ := Reachable.cursors_keep_in_step hr
  obtain ⟨hruns, -, -, htakes, -⟩ := walks _ _ hsecond
  obtain ⟨i, k, t, k', hcode, hk, htake, hattempt⟩ := htakes (by decide)
  have hcode0 : r.partition.code 0x62 = .ok 0 := by decide +kernel
  obtain rfl : 0 = i := Except.ok.inj (hcode0.symm.trans hcode)
  obtain rfl : _ = k := Option.some.inj hk
  obtain rfl : ⟨0x62, 0x62, by decide, by decide⟩ = t := Option.some.inj htake.next
  exact ⟨_, hsecond, rfl, rfl, hr, hruns, _, hattempt⟩

end Refiner

end ScannerAlphabet
