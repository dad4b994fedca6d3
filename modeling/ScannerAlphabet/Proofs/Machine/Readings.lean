import ScannerAlphabet.Proofs.Machine.Classes
import ScannerAlphabet.Proofs.TableWalk

/-!
# Reading classes on a machine

What is asked of classes with checked words: the code of a code point, the codes of the classes that
meet a set or miss it, the class table, the texts, and the check of the classes. The table is read
with one place for each class, and its codes are indices of the list of places. A fault of the
check is an assertion that does not hold: `check_ofRefiner` says that the check ends without one
exactly on the classes that it should accept.
-/
namespace ScannerAlphabet.Machine

namespace Place
variable {k k' : Place} {t : Bounds} {c : Nat}

theorem passed_of_next? (h : k.next? = .ok (some (t, k'))) :
    k'.spans = k.spans ∧ k'.passed = k.passed + 1 ∧ k.passed < k.spans.length := by
  unfold next? at h
  cases hspan : k.spans[k.passed]? with
  | none => simp [hspan, pure, Except.pure] at h
  | some u =>
    have hlt := (List.getElem?_eq_some_iff.mp hspan).choose
    cases hpassed : add k.passed 1 with
    | error e => simp [hspan, hpassed, bind, Except.bind] at h
    | ok passed =>
      simp only [hspan, hpassed, ok_bind, pure, Except.pure, Except.ok.injEq, Option.some.injEq,
        Prod.mk.injEq] at h
      obtain ⟨-, rfl⟩ := h
      exact ⟨rfl, eq_add_of_eq_ok hpassed, hlt⟩

/-- The next bounds that have a code point, and the place behind them. -/
def seek (k : Place) (c : Nat) : Checked (Option (Bounds × Place)) :=
  match _hnext : k.next? with
  | .error e => .error e
  | .ok none => return none
  | .ok (some (t, k')) => if t.contains c then return some (t, k') else seek k' c
termination_by k.spans.length - k.passed
decreasing_by
  obtain ⟨hspans, hpassed, hlt⟩ := passed_of_next? _hnext
  rw [hspans]
  omega

theorem seek_eq (k : Place) (c : Nat) : k.seek c = (k.next? >>= fun found =>
    match found with
    | none => .ok none
    | some (t, k') => if t.contains c then .ok (some (t, k')) else k'.seek c) := by
  rw [seek]
  split
  · rename_i hnext
    rw [hnext]
    rfl
  · rename_i hnext
    rw [hnext]
    rfl
  · rename_i hnext
    rw [hnext]
    rfl

theorem contains_of_seek (h : k.seek c = .ok (some (t, k'))) : t.contains c = true := by
  fun_induction seek k c with
  | case1 => cases h
  | case2 => cases h
  | case3 k u k'' _ hfound =>
    cases h
    exact hfound
  | case4 k u k'' _ _ ih => exact ih h

end Place

theorem seek_ofCursor (k : Cursor) (c : Nat) : (ofCursor k).seek c =
    .ok ((k.seek? c).map fun found => (found.1.bounds, ofCursor found.2)) := by
  fun_induction Cursor.seek? k c with
  | case1 k hnext =>
    rw [Place.seek_eq, next?_ofCursor, hnext]
    rfl
  | case2 k t k' hnext hmem =>
    have hcontains : t.bounds.contains c = true :=
      (contains_bounds t c).trans (Span.contains_eq_true_iff.mpr hmem)
    rw [Place.seek_eq, next?_ofCursor, hnext, Option.map_some, ok_bind]
    exact if_pos hcontains
  | case3 k t k' hnext hmem ih =>
    have hcontains : ¬ t.bounds.contains c = true := by
      rw [contains_bounds, Span.contains_eq_true_iff]
      exact hmem
    rw [Place.seek_eq, next?_ofCursor, hnext, Option.map_some, ok_bind]
    exact (if_neg hcontains).trans ih

namespace Classes

/-- The code of the first class that has a code point. -/
def code? (p : Classes) (c : Nat) : Checked (Option Nat) :=
  position (contains · c) p.classes 0

/-- The code of a code point; outside the alphabet there is none. -/
def code (p : Classes) (c : Nat) : Checked (Except Error Nat) := do
  let found ← p.code? c
  match found with
  | some code => return .ok code
  | none => return .error (.outOfRange c p.maximum)

/-- The codes of numbered classes that miss a set, or of those that meet it. -/
def codesOf (set : List Bounds) (missing : Bool) : List (List Bounds × Nat) → Checked (List Nat)
  | [] => return []
  | (cls, code) :: more => do
    let common ← intersect cls set
    let later ← codesOf set missing more
    return if common.isEmpty == missing then code :: later else later

def codes (p : Classes) (set : List Bounds) (missing : Bool) : Checked (List Nat) := do
  let numbered ← enumerate p.classes 0
  codesOf set missing numbered

/-- The runs of the alphabet from a position on, read with a place for each class. -/
def tableFrom (p : Classes) (position : Nat) (places : List Place) : Checked (List ClassRun) :=
  if position ≤ p.maximum then do
    let found ← p.code? position
    match found with
    | none => return []
    | some code =>
      let place ← get places code
      match _hseek : place.seek position with
      | .error e => .error e
      | .ok none => return []
      | .ok (some (t, behind)) =>
        let places ← put places code behind
        let ⟨position', _⟩ ← next t.hi
        let later ← tableFrom p position' places
        return ⟨position, t.hi, code⟩ :: later
  else return []
termination_by p.maximum + 1 - position
decreasing_by
  have hcontains := Place.contains_of_seek _hseek
  simp only [Bounds.contains, Bool.and_eq_true, decide_eq_true_eq] at hcontains
  omega

def table (p : Classes) : Checked (List ClassRun) :=
  p.tableFrom 0 (p.classes.map Place.start)

/-- Asserts that a class has no code point in common with others. -/
def apart (cls : List Bounds) : List (List Bounds × Nat) → Checked Unit
  | [] => return ()
  | (other, _) :: more => do
    let common ← intersect cls other
    assert common.isEmpty
    apart cls more

/-- Asserts that classes have members and lie apart from those behind them, and adds them up. -/
def addUp (numbered : List (List Bounds × Nat)) :
    List (List Bounds × Nat) → List Bounds → Checked (List Bounds)
  | [], covered => return covered
  | (cls, i) :: more, covered => do
    assert (!cls.isEmpty)
    let behind ← add i 1
    apart cls (numbered.drop behind)
    let covered ← addSet covered cls
    addUp numbered more covered

/-- Asserts that the classes are a partition of the alphabet. -/
def check (p : Classes) : Checked Unit := do
  let numbered ← enumerate p.classes 0
  let covered ← addUp numbered numbered []
  assert (covered == alphabet p.maximum)

/-- The dump of the classes. -/
def text (p : Classes) : Checked String := do
  let numbered ← enumerate p.classes 0
  return "CharClasses:\n" ++ String.join (numbered.map fun (cls, code) =>
    "class " ++ toString code ++ ":\n" ++ Machine.text cls ++ "\n")

end Classes

variable {r : Refiner}

theorem code?_ofRefiner (hr : r.partition.Valid) (c : Nat) :
    (ofRefiner r).code? c = .ok (r.partition.code? c) := by
  have hcount := count_lt hr
  have hcontains : (contains · c) ∘ CharSet.raw = (CharSet.contains · c) :=
    funext fun s => contains_raw s c
  unfold Classes.code? ofRefiner Partition.code?
  rw [position_eq_ok (by rw [List.length_map]; omega), List.findIdx?_map, hcontains]
  exact congrArg Except.ok Option.map_id'

theorem code_ofRefiner (hr : r.partition.Valid) (c : Nat) :
    (ofRefiner r).code c = .ok (r.partition.code c) := by
  unfold Classes.code Partition.code
  rw [code?_ofRefiner hr, ok_bind]
  cases r.partition.code? c with
  | none => rfl
  | some code => rfl

theorem enumerate_classes (hcount : r.partition.classes.length < wordLimit) :
    enumerate (ofRefiner r).classes 0 =
      .ok (r.partition.classes.zipIdx.map fun (s, code) => (s.raw, code)) := by
  unfold ofRefiner
  rw [enumerate_eq_ok (by rw [List.length_map]; omega), List.zipIdx_map]
  rfl

theorem codesOf_raw (l : List (CharSet × Nat)) (t : CharSet) (missing : Bool) :
    Classes.codesOf t.raw missing (l.map fun (s, code) => (s.raw, code)) =
      .ok (l.filterMap fun (s, code) =>
        if (s ∩ t).isEmpty == missing then some code else none) := by
  induction l with
  | nil => rfl
  | cons a l ih =>
    obtain ⟨s, code⟩ := a
    rw [List.map_cons, Classes.codesOf, intersect_raw, ok_bind, ih, ok_bind, CharSet.isEmpty_raw,
      List.filterMap_cons]
    dsimp only
    cases (s ∩ t).isEmpty == missing with
    | false => rfl
    | true => rfl

theorem codes_ofRefiner (hr : r.partition.Valid) (t : CharSet) (missing : Bool) :
    (ofRefiner r).codes t.raw missing =
      .ok (r.partition.codesWhere fun s => (s ∩ t).isEmpty == missing) := by
  unfold Classes.codes
  rw [enumerate_classes (count_lt hr), ok_bind, codesOf_raw]
  rfl

theorem tableFrom_of_seek {p : Classes} {position code : Nat} {places : List Place}
    {place behind : Place} {t : Bounds} (hpos : position ≤ p.maximum)
    (hcode : p.code? position = .ok (some code)) (hplace : places[code]? = some place)
    (hseek : place.seek position = .ok (some (t, behind))) (ht : t.hi + 1 < wordLimit) :
    p.tableFrom position places = (p.tableFrom (t.hi + 1) (places.set code behind) >>= fun later =>
      .ok (⟨position, t.hi, code⟩ :: later)) := by
  have hput : put places code behind = .ok (places.set code behind) :=
    put_eq_ok (List.getElem?_eq_some_iff.mp hplace).choose
  rw [Classes.tableFrom, if_pos hpos, hcode, ok_bind]
  dsimp only
  rw [get_eq_ok hplace, ok_bind]
  split
  · rename_i hfault
    rw [hseek] at hfault
    cases hfault
  · rename_i hend
    rw [hseek] at hend
    cases hend
  · rename_i hfound
    rw [hseek] at hfound
    cases hfound
    rw [hput, ok_bind, next_eq_ok ht]
    rfl

/-- In a ready walk the class of the position has a place, and the bounds found there end at a code
point, so that the next position is a word. -/
theorem tableFrom_eq {w : TableWalk} (h : w.Ready) (reader : Option CaselessReader) :
    (ofRefiner ⟨w.partition, reader⟩).tableFrom w.position (w.cursors.map ofCursor) =
      .ok w.runs := by
  by_cases hpos : w.position ≤ w.partition.maximum
  · obtain ⟨i, k, k', t, hcode, hk, hnext, -, hlo, hstep, hready⟩ := h.exists_step hpos
    have hcode' : (ofRefiner ⟨w.partition, reader⟩).code? w.position = .ok (some i) :=
      (code?_ofRefiner (r := ⟨w.partition, reader⟩) h.valid w.position).trans
        (congrArg Except.ok hcode)
    have hplace : (w.cursors.map ofCursor)[i]? = some (ofCursor k) := by
      rw [List.getElem?_map, hk]
      rfl
    have hseek : (ofCursor k).seek w.position = .ok (some (t.bounds, ofCursor k')) := by
      rw [seek_ofCursor, Cursor.seek?_of_next? hnext (hlo ▸ t.lo_mem)]
      rfl
    have hset : (w.cursors.map ofCursor).set i (ofCursor k') =
        (w.advance i t k').cursors.map ofCursor := List.map_set.symm
    rw [TableWalk.runs_of_step? hstep, tableFrom_of_seek hpos hcode' hplace hseek (Span.hi_lt t),
      hset]
    exact congrArg (· >>= fun later => Except.ok (⟨w.position, t.hi, i⟩ :: later))
      (tableFrom_eq hready reader)
  · rw [Classes.tableFrom, if_neg (by exact hpos), TableWalk.runs_of_finished (Nat.not_le.mp hpos)]
    rfl
termination_by w.partition.maximum + 1 - w.position
decreasing_by
  have hbounds := t.lo_le_hi
  simp only [TableWalk.advance]
  omega

theorem table_ofRefiner (hr : r.partition.Valid) :
    (ofRefiner r).table = .ok r.partition.table := by
  have hstart := tableFrom_eq (TableWalk.ready_start hr) r.reader
  have hplaces : (ofRefiner r).classes.map Place.start =
      (TableWalk.start r.partition).cursors.map ofCursor := by
    simp only [ofRefiner, TableWalk.start, List.map_map]
    rfl
  unfold Classes.table
  rw [hplaces]
  exact hstart

theorem apart_raw (s : CharSet) (l : List CharSet) (i : Nat) :
    Classes.apart s.raw ((l.zipIdx i).map fun (t, j) => (t.raw, j)) =
      assert (l.all fun t => (s ∩ t).isEmpty) := by
  induction l generalizing i with
  | nil => rfl
  | cons t l ih =>
    rw [List.zipIdx_cons, List.map_cons, Classes.apart, intersect_raw, ok_bind,
      CharSet.isEmpty_raw, ih, List.all_cons, assert_and]

theorem assert_disjointNonempty (s : CharSet) (l : List CharSet) :
    assert (Partition.disjointNonempty (s :: l)) = (assert (!s.isEmpty) >>= fun _ =>
      assert (l.all fun t => (s ∩ t).isEmpty) >>= fun _ =>
        assert (Partition.disjointNonempty l)) := by
  rw [Partition.disjointNonempty, assert_and, assert_and, bind_assoc]

theorem addUp_raw (done l : List CharSet) (u : CharSet)
    (hcount : done.length + l.length < wordLimit) :
    Classes.addUp ((done ++ l).zipIdx.map fun (t, i) => (t.raw, i))
        ((l.zipIdx done.length).map fun (t, i) => (t.raw, i)) u.raw =
      (assert (Partition.disjointNonempty l) >>= fun _ => .ok (l.foldl (· ∪ ·) u).raw) := by
  induction l generalizing done u with
  | nil => rfl
  | cons s l ih =>
    rw [List.length_cons] at hcount
    have hbehind : ((done ++ s :: l).zipIdx.map fun (t, i) => (CharSet.raw t, i)).drop
        (done.length + 1) = (l.zipIdx (done.length + 1)).map fun (t, i) => (t.raw, i) := by
      rw [← List.map_drop, List.append_cons, List.zipIdx_append, List.drop_left' (by simp)]
      simp
    have hrest := ih (done ++ [s]) (u ∪ s) (by simp; omega)
    rw [List.append_assoc, List.singleton_append, List.length_append, List.length_singleton]
      at hrest
    rw [List.zipIdx_cons, List.map_cons, Classes.addUp, add_eq_ok (by omega), ok_bind, hbehind,
      apart_raw, addSet_raw, ok_bind, hrest, CharSet.isEmpty_raw, assert_disjointNonempty]
    simp only [bind_assoc]
    rfl

/-- The check ends without a fault exactly on what it should accept. -/
theorem check_ofRefiner (hcount : r.partition.classes.length < wordLimit) :
    (ofRefiner r).check = assert r.partition.check := by
  have haddUp := addUp_raw [] r.partition.classes ∅ (by simpa using hcount)
  have hcovered : (r.partition.covered.raw == alphabet r.partition.maximum) =
      (r.partition.covered == CharSet.upTo r.partition.maximum) := by
    rw [Bool.eq_iff_iff, beq_iff_eq, beq_iff_eq]
    exact raw_eq_iff (t := CharSet.upTo r.partition.maximum)
  unfold Classes.check
  rw [enumerate_classes hcount, ok_bind]
  change (Classes.addUp _ _ (∅ : CharSet).raw >>= fun covered =>
    assert (covered == alphabet r.partition.maximum)) = _
  rw [List.nil_append, List.length_nil] at haddUp
  rw [haddUp, bind_assoc, Partition.check, assert_and, ← hcovered]
  rfl

theorem text_ofRefiner (hcount : r.partition.classes.length < wordLimit) :
    (ofRefiner r).text = .ok r.partition.text := by
  unfold Classes.text Partition.text
  rw [enumerate_classes hcount, ok_bind, List.map_map]
  simp only [Function.comp_def, text_raw]
  rfl

end ScannerAlphabet.Machine
