import ScannerAlphabet.ClassTable
import ScannerAlphabet.Proofs.ClassCodes

/-!
# The invariant of a table walk

A walk is ready when every cursor has passed exactly the spans of its class that end before the
position, and no span reaches across the position. In a ready walk over a valid partition the
next span of the class looked up begins at the position, so one span is taken from one cursor
and the walk behind it is ready again. `Complete` records such a walk from any position to the
end of the alphabet; every ready walk makes the runs of a complete one.
-/
namespace ScannerAlphabet

namespace Cursor

theorem set_eq_taken_append_rest (k : Cursor) :
    k.set.toRuns = k.set.toRuns.take k.passed ++ k.rest :=
  (List.take_append_drop k.passed k.set.toRuns).symm

theorem lt_of_rest_eq_cons {k : Cursor} {t : Span} {l : List Span} (h : k.rest = t :: l) :
    ∀ u ∈ l, t.hi + 1 < u.lo := by
  have hsep : Runs.Separated k.rest :=
    List.Pairwise.sublist (List.drop_sublist _ _) k.set.separated
  rw [h] at hsep
  exact (Runs.separated_cons.mp hsep).1

theorem mem_set_of_mem_rest {k : Cursor} {t : Span} (ht : t ∈ k.rest) {c : Nat} (hc : c ∈ t) :
    c ∈ k.set :=
  ⟨t, List.mem_of_mem_drop ht, hc⟩

theorem next?_of_rest {k : Cursor} {t : Span} {l : List Span} (h : k.rest = t :: l) :
    ∃ k', k.next? = some (t, k') ∧ k'.set = k.set ∧ k'.rest = l ∧
      k'.set.toRuns.take k'.passed = k.set.toRuns.take k.passed ++ [t] := by
  have hlt : k.passed < k.set.toRuns.length := by
    apply Nat.lt_of_not_le
    intro hle
    cases (List.drop_eq_nil_of_le hle).symm.trans h
  have hle : k.passed + 1 ≤ k.set.spans.size := by
    rw [← Array.length_toList]
    exact hlt
  obtain ⟨rfl, rfl⟩ := List.cons.inj ((List.drop_eq_getElem_cons hlt).symm.trans h)
  exact ⟨⟨k.set, k.passed + 1, hle⟩,
    next?_eq_some_iff.mpr ⟨List.getElem?_eq_getElem hlt, rfl, rfl⟩, rfl, rfl,
    List.take_succ_eq_append_getElem hlt⟩

theorem seek?_of_next? {k k' : Cursor} {t : Span} {c : Nat} (h : k.next? = some (t, k'))
    (hc : c ∈ t) : k.seek? c = some (t, k') := by
  unfold seek?
  split
  · rename_i hnone
    rw [h] at hnone
    cases hnone
  · rename_i u k'' hsome
    rw [h] at hsome
    obtain ⟨rfl, rfl⟩ := Prod.mk.inj (Option.some.inj hsome)
    exact if_pos hc

end Cursor

namespace TableWalk
variable {w : TableWalk} {p : Partition} {i j : Nat} {k k' : Cursor} {t : Span}

/-- The walk behind a span of the class `i`, whose cursor is now `k`. -/
def advance (w : TableWalk) (i : Nat) (t : Span) (k : Cursor) : TableWalk :=
  { w with position := t.hi + 1, cursors := w.cursors.set i k }

theorem cursor_advance (hk : w.cursors[i]? = some k) :
    (w.advance i t k').cursors[i]? = some k' :=
  List.getElem?_set_self (List.getElem?_eq_some_iff.mp hk).choose

theorem cursor_advance_of_ne (hij : i ≠ j) :
    (w.advance i t k').cursors[j]? = w.cursors[j]? :=
  List.getElem?_set_ne hij

theorem mem_cursors_advance {m : Cursor} (hk : w.cursors[i]? = some k)
    (hm : m ∈ (w.advance i t k').cursors) :
    m = k' ∨ ∃ j, i ≠ j ∧ w.cursors[j]? = some m := by
  obtain ⟨j, hj⟩ := List.getElem?_of_mem hm
  by_cases hij : i = j
  · subst hij
    exact .inl (Option.some.inj (hj.symm.trans (cursor_advance hk)))
  · exact .inr ⟨j, hij, (cursor_advance_of_ne hij).symm.trans hj⟩

theorem step?_of_next? (hpos : w.position ≤ w.partition.maximum)
    (hcode : w.partition.code? w.position = some i) (hk : w.cursors[i]? = some k)
    (hnext : k.next? = some (t, k')) (ht : w.position ∈ t) :
    w.step? = some (⟨w.position, t.hi, i⟩, w.advance i t k') := by
  have hseek := Cursor.seek?_of_next? hnext ht
  unfold step?
  rw [if_neg (Nat.not_lt.mpr hpos), hcode]
  simp only [hk, Option.bind_some, hseek]
  rfl

/-- The cursors have passed exactly the spans that end before the position, and those to come
begin at the position or behind it. -/
structure Ready (w : TableWalk) : Prop where
  valid : w.partition.Valid
  position_le : w.position ≤ w.partition.maximum + 1
  sets : w.cursors.map Cursor.set = w.partition.classes
  passed : ∀ k ∈ w.cursors, ∀ t ∈ k.set.toRuns.take k.passed, t.hi < w.position
  ahead : ∀ k ∈ w.cursors, ∀ t ∈ k.rest, w.position ≤ t.lo

theorem ready_start (hp : p.Valid) : (start p).Ready where
  valid := hp
  position_le := Nat.zero_le _
  sets := by simp [start, Cursor.start, Function.comp_def]
  passed := by
    refine List.forall_mem_map.mpr fun s _ t ht => ?_
    cases ht
  ahead _ _ _ _ := Nat.zero_le _

theorem Ready.class?_eq (h : w.Ready) (hk : w.cursors[i]? = some k) :
    w.partition.class? i = some k.set := by
  unfold Partition.class?
  rw [← h.sets, List.getElem?_map, hk]
  rfl

theorem Ready.exists_cursor (h : w.Ready) {s : CharSet} (hs : w.partition.class? i = some s) :
    ∃ k, w.cursors[i]? = some k ∧ k.set = s := by
  unfold Partition.class? at hs
  rw [← h.sets, List.getElem?_map] at hs
  exact Option.map_eq_some_iff.mp hs

/-- The span that has the position is the next of its cursor and begins there. -/
theorem Ready.rest_eq_cons (h : w.Ready) (hk : w.cursors[i]? = some k) (hpos : w.position ∈ k.set) :
    ∃ t l, k.rest = t :: l ∧ t.lo = w.position := by
  have hmem := List.mem_of_getElem? hk
  obtain ⟨t, ht, hpt⟩ := CharSet.mem_def.mp hpos
  rw [k.set_eq_taken_append_rest, List.mem_append] at ht
  have hrest : t ∈ k.rest := by
    rcases ht with ht | ht
    · have hlt := h.passed k hmem t ht
      have hle := hpt.2
      omega
    · exact ht
  have hlo : t.lo = w.position := Nat.le_antisymm hpt.1 (h.ahead k hmem t hrest)
  cases hl : k.rest with
  | nil => simp [hl] at hrest
  | cons u l =>
    rw [hl] at hrest
    rcases List.mem_cons.mp hrest with rfl | htl
    · exact ⟨t, l, rfl, hlo⟩
    · have hgap := Cursor.lt_of_rest_eq_cons hl t htl
      have hahead := h.ahead k hmem u (hl ▸ List.mem_cons_self)
      have hu := u.lo_le_hi
      omega

theorem Ready.lt_of_mem_rest (h : w.Ready) (hk : w.cursors[i]? = some k) (ht : t ∈ k.rest)
    (hlo : t.lo = w.position) (hk' : w.cursors[j]? = some k') (hij : i ≠ j) :
    ∀ u ∈ k'.rest, t.hi < u.lo := by
  intro u hu
  apply Nat.lt_of_not_le
  intro hle
  have hahead := h.ahead k' (List.mem_of_getElem? hk') u hu
  have hut : u.lo ∈ t := ⟨by omega, hle⟩
  exact hij (h.valid.index_eq (h.class?_eq hk) (h.class?_eq hk')
    (Cursor.mem_set_of_mem_rest ht hut) (Cursor.mem_set_of_mem_rest hu u.lo_mem))

theorem Ready.advance (h : w.Ready) (hk : w.cursors[i]? = some k) {l : List Span}
    (hrest : k.rest = t :: l) (hlo : t.lo = w.position) (hset : k'.set = k.set)
    (hrest' : k'.rest = l)
    (htaken : k'.set.toRuns.take k'.passed = k.set.toRuns.take k.passed ++ [t]) :
    (w.advance i t k').Ready := by
  have hmem := List.mem_of_getElem? hk
  have ht : t ∈ k.rest := hrest ▸ List.mem_cons_self
  have hbounds := t.lo_le_hi
  refine ⟨h.valid, ?_, ?_, fun m hm u hu => ?_, fun m hm u hu => ?_⟩
  · have hhi := Cursor.mem_set_of_mem_rest ht t.hi_mem
    exact Nat.succ_le_succ (h.valid.le_of_mem (Partition.class?_mem (h.class?_eq hk)) hhi)
  · obtain ⟨hi, rfl⟩ := List.getElem?_eq_some_iff.mp hk
    have hset_map :
        (w.cursors.map Cursor.set).set i w.cursors[i].set = w.cursors.map Cursor.set := by
      rw [← List.getElem_map (f := Cursor.set) (h := by simpa using hi), List.set_getElem_self]
    calc (w.cursors.set i k').map Cursor.set
      _ = (w.cursors.map Cursor.set).set i w.cursors[i].set := by rw [List.map_set, hset]
      _ = w.partition.classes := by rw [hset_map, h.sets]
  · rcases mem_cursors_advance hk hm with rfl | ⟨j, -, hj⟩
    · rw [htaken, List.mem_append, List.mem_singleton] at hu
      rcases hu with hu | rfl
      · have hlt := h.passed k hmem u hu
        exact Nat.lt_succ_of_le (by omega)
      · exact Nat.lt_succ_self _
    · have hlt := h.passed m (List.mem_of_getElem? hj) u hu
      exact Nat.lt_succ_of_le (by omega)
  · rcases mem_cursors_advance hk hm with rfl | ⟨j, hij, hj⟩
    · rw [hrest'] at hu
      exact Nat.le_of_lt (Cursor.lt_of_rest_eq_cons hrest u hu)
    · exact h.lt_of_mem_rest hk ht hlo hj hij u hu

/-- Inside the alphabet a ready walk takes one span, which begins at the position, from one cursor
and is ready again. -/
theorem Ready.exists_step (h : w.Ready) (hpos : w.position ≤ w.partition.maximum) :
    ∃ i k k' t, w.partition.code? w.position = some i ∧ w.cursors[i]? = some k ∧
      k.next? = some (t, k') ∧ k.rest = t :: k'.rest ∧ t.lo = w.position ∧
      w.step? = some (⟨w.position, t.hi, i⟩, w.advance i t k') ∧ (w.advance i t k').Ready := by
  obtain ⟨i, s, hi, hs⟩ := h.valid.exists_class? hpos
  obtain ⟨k, hk, rfl⟩ := h.exists_cursor hi
  obtain ⟨t, l, hrest, hlo⟩ := h.rest_eq_cons hk hs
  obtain ⟨k', hnext, hset, hrest', htaken⟩ := Cursor.next?_of_rest hrest
  have hcode : w.partition.code? w.position = some i :=
    h.valid.code?_eq_some_iff.mpr ⟨k.set, hi, hs⟩
  exact ⟨i, k, k', t, hcode, hk, hnext, hrest'.symm ▸ hrest, hlo,
    step?_of_next? hpos hcode hk hnext (hlo ▸ t.lo_mem),
    h.advance hk hrest hlo hset hrest' htaken⟩

theorem Ready.rest_eq_nil (h : w.Ready) (hpos : w.position = w.partition.maximum + 1)
    (hk : w.cursors[i]? = some k) : k.rest = [] := by
  rw [List.eq_nil_iff_forall_not_mem]
  intro t ht
  have hlo := h.ahead k (List.mem_of_getElem? hk) t ht
  have hle := h.valid.le_of_mem (Partition.class?_mem (h.class?_eq hk))
    (Cursor.mem_set_of_mem_rest ht t.lo_mem)
  omega

/-- A walk that goes on to the end of the alphabet, span by span, and the runs that it makes. -/
inductive Complete : TableWalk → List ClassRun → Prop
  | done {w : TableWalk} : w.Ready → w.position = w.partition.maximum + 1 → Complete w []
  | step {w : TableWalk} {i : Nat} {k k' : Cursor} {t : Span} {l : List ClassRun} :
      w.Ready → w.cursors[i]? = some k → k.rest = t :: k'.rest → t.lo = w.position →
      Complete (w.advance i t k') l → Complete w (⟨w.position, t.hi, i⟩ :: l)

theorem runs_of_step? {w' : TableWalk} {r : ClassRun} (h : w.step? = some (r, w')) :
    w.runs = r :: w'.runs := by
  rw [runs]
  split
  · rename_i hnone
    rw [h] at hnone
    cases hnone
  · rename_i r' w'' hsome
    rw [h] at hsome
    obtain ⟨rfl, rfl⟩ := Prod.mk.inj (Option.some.inj hsome)
    rfl

theorem runs_of_finished (h : w.partition.maximum < w.position) : w.runs = [] := by
  have hstep : w.step? = none := if_pos h
  rw [runs]
  split
  · rfl
  · rename_i hsome
    rw [hstep] at hsome
    cases hsome

/-- A ready walk never stops before the end of the alphabet. -/
theorem Ready.complete {w : TableWalk} (h : w.Ready) : Complete w w.runs := by
  by_cases hpos : w.position ≤ w.partition.maximum
  · obtain ⟨i, k, k', t, -, hk, -, hrest, hlo, hstep, hready⟩ := h.exists_step hpos
    rw [runs_of_step? hstep]
    exact .step h hk hrest hlo (Ready.complete hready)
  · have hend : w.position = w.partition.maximum + 1 := by
      have hle := h.position_le
      omega
    rw [runs_of_finished (by omega)]
    exact .done h hend
termination_by w.partition.maximum + 1 - w.position
decreasing_by
  have hbounds := t.lo_le_hi
  simp only [TableWalk.advance]
  omega

theorem complete_table (hp : p.Valid) : Complete (start p) p.table :=
  (ready_start hp).complete

end TableWalk

end ScannerAlphabet
