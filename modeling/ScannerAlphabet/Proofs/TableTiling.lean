import ScannerAlphabet.CharSet.Packed
import ScannerAlphabet.Proofs.Reachable
import ScannerAlphabet.Proofs.TableWalk
import Mathlib.Algebra.BigOperators.Group.List.Basic
import Mathlib.Data.List.Chain

/-!
# The class table tiles the alphabet

A complete walk makes runs that follow each other from its position to the end of the alphabet.
The runs of one code are the spans that the cursor of that class had still to give, so that in
the table of a partition they are the spans of the class. Two neighbours never have the same
code because two spans of one class never touch. All that the table tells about the classes
follows: how many runs it has, which codes occur, and the classes themselves.
-/
namespace ScannerAlphabet

namespace ClassRun

/-- The run of a span of the class `i`. -/
def ofSpan (i : Nat) (t : Span) : ClassRun :=
  ⟨t.lo, t.hi, i⟩

/-- All codes of the runs lie below this one. -/
def codeBound (l : List ClassRun) : Nat :=
  (l.map fun e => e.code + 1).foldr max 0

/-- The sets of the code points with the codes `0, 1, …` in a table. -/
def regroup (l : List ClassRun) : List CharSet :=
  (List.range (codeBound l)).map fun i =>
    CharSet.unpack ((l.filter (·.code = i)).flatMap fun e => [e.first, e.last])

theorem codeBound_le_iff {l : List ClassRun} {n : Nat} :
    codeBound l ≤ n ↔ ∀ e ∈ l, e.code < n := by
  induction l with
  | nil => simp [codeBound]
  | cons e l ih =>
    have hcons : codeBound (e :: l) = max (e.code + 1) (codeBound l) := rfl
    rw [hcons, Nat.max_le, ih, Nat.succ_le_iff, List.forall_mem_cons]

theorem codeBound_eq {l : List ClassRun} {n : Nat} (h : ∀ i, (∃ e ∈ l, e.code = i) ↔ i < n) :
    codeBound l = n := by
  apply Nat.le_antisymm
  · exact codeBound_le_iff.mpr fun e he => (h e.code).mp ⟨e, he, rfl⟩
  · apply Nat.le_of_not_lt
    intro hlt
    obtain ⟨e, he, hcode⟩ := (h _).mpr hlt
    have hbound := codeBound_le_iff.mp (Nat.le_refl _) e he
    omega

theorem length_eq_sum_filter {l : List ClassRun} {n : Nat} (h : ∀ e ∈ l, e.code < n) :
    l.length = ((List.range n).map fun i => (l.filter (·.code = i)).length).sum := by
  induction l with
  | nil => simp
  | cons e l ih =>
    have ih := ih fun e' he' => h e' (List.mem_cons_of_mem _ he')
    have hcons : ∀ i, ((e :: l).filter (·.code = i)).length =
        (l.filter (·.code = i)).length + if e.code = i then 1 else 0 := by
      intro i
      by_cases hi : e.code = i <;> simp [hi]
    have hone : ((List.range n).map fun i => if e.code = i then 1 else 0).sum = 1 := by
      rw [List.sum_map_eq_nsmul_single e.code _ fun i hi _ => if_neg (Ne.symm hi),
        List.count_eq_one_of_mem List.nodup_range (List.mem_range.mpr (h e List.mem_cons_self)),
        if_pos rfl, one_nsmul]
    simp only [hcons, List.sum_map_add, List.length_cons, ih, hone]

end ClassRun

namespace TableWalk
variable {w : TableWalk} {l : List ClassRun} {i : Nat} {k : Cursor}

theorem Complete.head (h : Complete w l) : ∀ e ∈ l.head?, e.first = w.position ∧
    ∃ k t, w.cursors[e.code]? = some k ∧ t ∈ k.rest ∧ t.lo = w.position := by
  intro e he
  cases h with
  | done => cases he
  | step _ hk hrest hlo _ =>
    obtain rfl := Option.some.inj he
    exact ⟨rfl, _, _, hk, hrest ▸ List.mem_cons_self, hlo⟩

theorem Complete.ne_nil (h : Complete w l) (hpos : w.position ≤ w.partition.maximum) :
    l ≠ [] := by
  cases h with
  | done _ hend => omega
  | step => exact List.cons_ne_nil _ _

theorem Complete.last (h : Complete w l) :
    ∀ e ∈ l.getLast?, e.last = w.partition.maximum := by
  induction h with
  | done => exact fun e he => nomatch he
  | step _ _ _ _ hnext ih =>
    intro e he
    cases hnext with
    | done _ hend =>
      obtain rfl := Option.some.inj he
      exact Nat.succ_inj.mp hend
    | step => exact ih e (by simpa only [List.getLast?_cons_cons] using he)

/-- The run behind one of the class `i` belongs to another class: the next span of the class `i`
does not touch the one just taken. -/
theorem Complete.follows (h : Complete w l) :
    l.IsChain fun e e' => e'.first = e.last + 1 ∧ e.code ≠ e'.code := by
  induction h with
  | done => exact .nil
  | @step w i k k' t l _ hk hrest _ hnext ih =>
    refine List.isChain_cons.mpr ⟨fun e he => ?_, ih⟩
    obtain ⟨hfirst, m, u, hm, hu, hlo⟩ := hnext.head e he
    refine ⟨hfirst, ?_⟩
    rintro rfl
    obtain rfl := Option.some.inj ((cursor_advance hk).symm.trans hm)
    have hgap := Cursor.lt_of_rest_eq_cons hrest u hu
    simp only [advance] at hlo
    omega

/-- The runs of a code are the spans that the cursor of the class has still to give. -/
theorem Complete.filter_code (h : Complete w l) (hk : w.cursors[i]? = some k) :
    l.filter (·.code = i) = k.rest.map (ClassRun.ofSpan i) := by
  induction h generalizing k with
  | done hready hend => rw [hready.rest_eq_nil hend hk, List.map_nil, List.filter_nil]
  | @step w j m m' t l _ hm hrest hlo _ ih =>
    by_cases hij : j = i
    · subst hij
      obtain rfl := Option.some.inj (hm.symm.trans hk)
      rw [List.filter_cons_of_pos (by simp), ih (cursor_advance hm), hrest, List.map_cons, ← hlo]
      rfl
    · rw [List.filter_cons_of_neg (by simpa using hij), ih ((cursor_advance_of_ne hij).trans hk)]

theorem Complete.code_lt (h : Complete w l) : ∀ e ∈ l, e.code < w.cursors.length := by
  induction h with
  | done => exact fun e he => nomatch he
  | step _ hk _ _ _ ih =>
    refine List.forall_mem_cons.mpr ⟨(List.getElem?_eq_some_iff.mp hk).choose, fun e he => ?_⟩
    have hlt := ih e he
    rwa [advance, List.length_set] at hlt

end TableWalk

namespace Partition
variable {p : Partition} {i : Nat} {s : CharSet} {e : ClassRun}

/-- The runs of a code are the spans of the class in ascending order. -/
theorem Valid.filter_table (hp : p.Valid) (hi : p.class? i = some s) :
    p.table.filter (·.code = i) = s.toRuns.map (ClassRun.ofSpan i) := by
  have hcursor : (TableWalk.start p).cursors[i]? = some (Cursor.start s) := by
    rw [TableWalk.start, List.getElem?_map, show p.classes[i]? = some s from hi, Option.map_some]
  exact (TableWalk.complete_table hp).filter_code hcursor

theorem Valid.code_lt_count (hp : p.Valid) (he : e ∈ p.table) : e.code < p.count := by
  have hlt := (TableWalk.complete_table hp).code_lt e he
  rwa [TableWalk.start, List.length_map] at hlt

theorem Valid.mem_table_iff (hp : p.Valid) :
    e ∈ p.table ↔ ∃ s, p.class? e.code = some s ∧ ∃ t ∈ s.toRuns, ClassRun.ofSpan e.code t = e := by
  constructor
  · intro he
    have hi : p.class? e.code = some _ := List.getElem?_eq_getElem (hp.code_lt_count he)
    have hfilter : e ∈ p.table.filter (·.code = e.code) := List.mem_filter.mpr ⟨he, by simp⟩
    rw [hp.filter_table hi, List.mem_map] at hfilter
    exact ⟨_, hi, hfilter⟩
  · intro h
    obtain ⟨s, hi, ht⟩ := h
    have hfilter : e ∈ p.table.filter (·.code = e.code) := by
      rw [hp.filter_table hi]
      exact List.mem_map.mpr ht
    exact List.mem_of_mem_filter hfilter

theorem Valid.code_of_mem_table (hp : p.Valid) (he : e ∈ p.table) {c : Nat} (hlo : e.first ≤ c)
    (hhi : c ≤ e.last) : p.code c = .ok e.code := by
  obtain ⟨s, hi, t, ht, hte⟩ := hp.mem_table_iff.mp he
  have hfirst : t.lo = e.first := congrArg ClassRun.first hte
  have hlast : t.hi = e.last := congrArg ClassRun.last hte
  exact hp.code_eq_ok_iff.mpr ⟨s, hi, t, ht, hfirst ▸ hlo, hlast ▸ hhi⟩

theorem Valid.exists_mem_table_iff (hp : p.Valid) :
    (∃ e ∈ p.table, e.code = i) ↔ i < p.count := by
  constructor
  · intro h
    obtain ⟨e, he, rfl⟩ := h
    exact hp.code_lt_count he
  · intro hlt
    have hi : p.class? i = some p.classes[i] := List.getElem?_eq_getElem hlt
    obtain ⟨c, t, ht, hc⟩ := hp.nonempty _ (class?_mem hi)
    exact ⟨ClassRun.ofSpan i t, hp.mem_table_iff.mpr ⟨_, hi, t, ht, rfl⟩, rfl⟩

theorem map_range_count {α : Type} {f : Nat → α} {g : CharSet → α}
    (h : ∀ i s, p.class? i = some s → f i = g s) :
    (List.range p.count).map f = p.classes.map g := by
  apply List.ext_getElem
  · simp [count]
  · intro i hi _
    have hlt : i < p.classes.length := by simpa [count] using hi
    simp only [List.getElem_map, List.getElem_range]
    exact h i _ (List.getElem?_eq_getElem hlt)

theorem Valid.length_table (hp : p.Valid) :
    p.table.length = (p.classes.map CharSet.spanCount).sum := by
  rw [ClassRun.length_eq_sum_filter fun e he => hp.code_lt_count he]
  apply congrArg List.sum
  apply map_range_count
  intro i s hi
  rw [hp.filter_table hi, List.length_map]
  exact Array.length_toList

theorem Valid.regroup_table (hp : p.Valid) : ClassRun.regroup p.table = p.classes := by
  rw [ClassRun.regroup, ClassRun.codeBound_eq fun i => hp.exists_mem_table_iff]
  rw [map_range_count (g := id), List.map_id]
  intro i s hi
  have hpack : (s.toRuns.map (ClassRun.ofSpan i)).flatMap (fun e => [e.first, e.last]) = s.pack :=
    List.flatMap_map _ _ _
  rw [hp.filter_table hi, hpack, CharSet.unpack_pack, id]

theorem Valid.head?_table (hp : p.Valid) : p.table.head?.map ClassRun.first = some 0 := by
  have hcomplete := TableWalk.complete_table hp
  have hne := hcomplete.ne_nil (Nat.zero_le _)
  rw [List.head?_eq_some_head hne, Option.map_some,
    (hcomplete.head _ (List.head_mem_head? hne)).1]
  rfl

theorem Valid.getLast?_table (hp : p.Valid) :
    p.table.getLast?.map ClassRun.last = some p.maximum := by
  have hcomplete := TableWalk.complete_table hp
  have hne := hcomplete.ne_nil (Nat.zero_le _)
  have hlast := List.getLast?_eq_some_getLast hne
  rw [hlast, Option.map_some, hcomplete.last _ hlast]
  rfl

end Partition

namespace Refiner

/-- In every state the table starts at zero, ends with the alphabet and has neither gaps nor two
neighbours of one class. Each run has the code of its code points, the runs of a code are the
spans of its class, and the table alone gives the classes back. -/
theorem Reachable.table_tiles_alphabet {r : Refiner} (h : r.Reachable) :
    r.partition.table.head?.map ClassRun.first = some 0 ∧
    r.partition.table.getLast?.map ClassRun.last = some r.partition.maximum ∧
    (r.partition.table.IsChain fun e e' => e'.first = e.last + 1 ∧ e.code ≠ e'.code) ∧
    (∀ e ∈ r.partition.table, e.first ≤ e.last ∧
      ∀ c, e.first ≤ c → c ≤ e.last → r.partition.code c = .ok e.code) ∧
    (∀ i s, r.partition.class? i = some s →
      r.partition.table.filter (·.code = i) = s.toRuns.map (ClassRun.ofSpan i)) ∧
    r.partition.table.length = (r.partition.classes.map CharSet.spanCount).sum ∧
    ClassRun.regroup r.partition.table = r.partition.classes := by
  have hp := h.valid
  refine ⟨hp.head?_table, hp.getLast?_table, (TableWalk.complete_table hp).follows, ?_,
    fun i s hi => hp.filter_table hi, hp.length_table, hp.regroup_table⟩
  intro e he
  obtain ⟨s, -, t, -, hte⟩ := hp.mem_table_iff.mp he
  have hbounds : e.first ≤ e.last := hte ▸ t.lo_le_hi
  exact ⟨hbounds, fun c hlo hhi => hp.code_of_mem_table he hlo hhi⟩

/-- Two letters, an alphabet that ends with the second and one more letter give six runs. -/
theorem table_tiles_alphabet_after_shrinking :
    let r := (ofPartition (Partition.ofWidth .sevenBit) none).run
      [.text "ac" false, .alphabet 0x63, .char 'A' false]
    r.Reachable ∧ r.partition.table.length = 6 ∧
      ClassRun.regroup r.partition.table = r.partition.classes := by
  intro r
  have hr : r.Reachable := (Reachable.ofWidth .sevenBit none).run _
  obtain ⟨-, -, -, -, -, hlength, hregroup⟩ := Reachable.table_tiles_alphabet hr
  have hsum : (r.partition.classes.map CharSet.spanCount).sum = 6 := by decide
  exact ⟨hr, hlength.trans hsum, hregroup⟩

end Refiner

end ScannerAlphabet
