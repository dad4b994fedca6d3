import ScannerAlphabet.Proofs.Machine.Cuts
import ScannerAlphabet.Proofs.Machine.Unions
import ScannerAlphabet.Proofs.Refusals
import Mathlib.Algebra.BigOperators.Group.List.Basic

/-!
# Classes on a machine

The requests to a refiner with checked words: a set is folded member by member, the classes that
were there at first are visited by index, and an alphabet is widened from the code point behind it.
A machine keeps the classes as lists of bounds and knows nothing about them; on the lists that stand
for the classes of a refiner no request has a fault, and each has the outcome of the request.
-/
namespace ScannerAlphabet.Machine

/-- The classes of an alphabet up to its maximum, with a source of case variants. -/
structure Classes where
  classes : List (List Bounds)
  maximum : Nat
  source : Option CaselessSource

/-- What a request leaves, and whether it was refused. -/
abbrev Answer := Except Error Unit × Classes

def alphabet (maximum : Nat) : List Bounds :=
  [⟨0, min maximum CodePoint.last⟩]

/-- Adds the variants of every member. -/
def fold (source : CaselessSource) (l : List Bounds) : Checked (List Bounds) :=
  (l.flatMap Bounds.toList).foldlM (fun folded c =>
    match source.variants? c with
    | some v => addSet folded v.raw
    | none => return folded) l

/-- Splits the classes from an index on, up to those that were there at first, by a set. -/
def splitFrom (old i : Nat) (classes : List (List Bounds)) (set : List Bounds) :
    Checked (List (List Bounds)) :=
  if i < old then
    if set.isEmpty then return classes
    else do
      let cls ← get classes i
      if cls = set then return classes
      else
        let common ← intersect cls set
        if common.isEmpty then splitFrom old (i + 1) classes set
        else if cls = common then
          let rest ← subtract set common
          splitFrom old (i + 1) classes rest
        else if set = common then
          let kept ← subtract cls common
          let classes ← put classes i kept
          return classes ++ [common]
        else
          let rest ← subtract set common
          let kept ← subtract cls common
          let classes ← put classes i kept
          splitFrom old (i + 1) (classes ++ [common]) rest
  else return classes
termination_by old - i

namespace Classes

/-- One class that has the whole alphabet, if classes can hold it. -/
def checked (maximum : Nat) (source : Option CaselessSource) : Except Error Classes :=
  if CodePoint.last < maximum then .error (.outOfRange maximum CodePoint.last)
  else .ok ⟨[alphabet maximum], maximum, source⟩

def split (p : Classes) (set : List Bounds) : Checked Answer := do
  let clipped ← intersect set (alphabet p.maximum)
  let classes ← splitFrom p.classes.length 0 p.classes clipped
  return (.ok (), { p with classes := classes })

def refineBySet (p : Classes) (set : List Bounds) (caseless : Bool) : Checked Answer :=
  if caseless then
    match p.source with
    | none => return (.error .noCaselessSource, p)
    | some source => do
      let folded ← fold source set
      p.split folded
  else p.split set

def refineBySpans (p : Classes) (l : List Bounds) (caseless : Bool) : Checked Answer := do
  let set ← fromBounds l
  p.refineBySet set caseless

def refineByChar (p : Classes) (c : Char) (caseless : Bool) : Checked Answer :=
  match (Alphabet.ofChar c).bind fun n => Bounds.checked n n with
  | .error e => return (.error e, p)
  | .ok t => p.refineBySet [t] caseless

def refineByChars (p : Classes) (caseless : Bool) : List Char → Checked Answer
  | [] => return (.ok (), p)
  | c :: cs => do
    let (result, p) ← p.refineByChar c caseless
    match result with
    | .error e => return (.error e, p)
    | .ok () => p.refineByChars caseless cs

def resize (p : Classes) (maximum : Nat) : Checked Answer :=
  if CodePoint.last < maximum then return (.error (.outOfRange maximum CodePoint.last), p)
  else if p.maximum < maximum then do
    let first ← add p.maximum 1
    match p.classes with
    | [] => return (.ok (), { p with maximum := maximum })
    | cls :: more =>
      let widened ← addBounds cls ⟨first, maximum⟩
      return (.ok (), { p with classes := widened :: more, maximum := maximum })
  else if maximum < p.maximum then do
    let clipped ← p.classes.mapM fun cls => intersect cls (alphabet maximum)
    let emptied ← position List.isEmpty clipped 0
    match emptied with
    | some code => return (.error (.emptiedClass code maximum), p)
    | none => return (.ok (), { p with classes := clipped, maximum := maximum })
  else return (.ok (), { p with maximum := maximum })

end Classes

/-- The classes that stand for those of a refiner. -/
def ofRefiner (r : Refiner) : Classes :=
  ⟨r.partition.classes.map CharSet.raw, r.partition.maximum, r.source?⟩

def ofOutcome (o : Outcome) : Answer :=
  (o.result, ofRefiner o.refiner)

variable {r : Refiner} {s t : CharSet} {source : CaselessSource} {caseless : Bool} {c : Char}
  {m : Nat}

theorem fold_raw (source : CaselessSource) (s : CharSet) :
    fold source s.raw = .ok (s.fold source.variants?).raw := by
  have hmembers : s.raw.flatMap Bounds.toList = s.toList := by
    unfold CharSet.raw CharSet.toList
    rw [List.flatMap_map]
    exact List.flatMap_congr fun t _ => toList_bounds t
  have hfold : ∀ (l : List Nat) (u : CharSet), l.foldlM (fun folded c =>
      match source.variants? c with
      | some v => addSet folded v.raw
      | none => return folded) u.raw = (.ok (l.foldl (fun folded c =>
        match source.variants? c with
        | some v => folded ∪ v
        | none => folded) u).raw : Checked _) := by
    intro l
    induction l with
    | nil => exact fun _ => rfl
    | cons c l ih =>
      intro u
      rw [List.foldlM_cons, List.foldl_cons, ← ih]
      cases source.variants? c with
      | none => rfl
      | some v => exact congrArg (· >>= _) (addSet_raw u v)
  unfold fold
  rw [hmembers]
  exact hfold s.toList s

theorem raw_eq_iff : s.raw = t.raw ↔ s = t :=
  CharSet.raw_injective.eq_iff

theorem get_map_raw (l done pieces : List CharSet) (cls : CharSet) :
    get ((done ++ cls :: l ++ pieces).map CharSet.raw) done.length = .ok cls.raw := by
  apply get_eq_ok
  simp

theorem put_map_raw (l done pieces : List CharSet) (cls kept : CharSet) :
    put ((done ++ cls :: l ++ pieces).map CharSet.raw) done.length kept.raw =
      .ok ((done ++ kept :: l ++ pieces).map CharSet.raw) := by
  rw [put_eq_ok (by simp), ← List.map_set]
  simp

theorem splitFrom_cons (done l pieces : List CharSet) (cls s : CharSet) :
    splitFrom (done.length + (l.length + 1)) done.length
        ((done ++ cls :: l ++ pieces).map CharSet.raw) s.raw =
      if s.isEmpty then .ok ((done ++ cls :: l ++ pieces).map CharSet.raw)
      else if cls = s then .ok ((done ++ cls :: l ++ pieces).map CharSet.raw)
      else if (cls ∩ s).isEmpty then
        splitFrom (done.length + (l.length + 1)) (done.length + 1)
          ((done ++ cls :: l ++ pieces).map CharSet.raw) s.raw
      else if cls = cls ∩ s then
        splitFrom (done.length + (l.length + 1)) (done.length + 1)
          ((done ++ cls :: l ++ pieces).map CharSet.raw) (s \ (cls ∩ s)).raw
      else if s = cls ∩ s then
        .ok ((done ++ (cls \ (cls ∩ s)) :: l ++ (pieces ++ [cls ∩ s])).map CharSet.raw)
      else
        splitFrom (done.length + (l.length + 1)) (done.length + 1)
          ((done ++ (cls \ (cls ∩ s)) :: l ++ (pieces ++ [cls ∩ s])).map CharSet.raw)
          (s \ (cls ∩ s)).raw := by
  have happend : ∀ kept piece : CharSet,
      (done ++ kept :: l ++ pieces).map CharSet.raw ++ [piece.raw] =
        (done ++ kept :: l ++ (pieces ++ [piece])).map CharSet.raw := by
    simp
  rw [splitFrom, if_pos (by omega), CharSet.isEmpty_raw, get_map_raw, ok_bind]
  simp only [raw_eq_iff, intersect_raw, ok_bind, CharSet.isEmpty_raw, subtract_raw, put_map_raw,
    happend]
  rfl

/-- The loop goes on behind a class as if that had been done before. -/
theorem splitFrom_shift (done l pieces : List CharSet) (cls s : CharSet) :
    splitFrom (done.length + (l.length + 1)) (done.length + 1)
        ((done ++ cls :: l ++ pieces).map CharSet.raw) s.raw =
      splitFrom ((done ++ [cls]).length + l.length) (done ++ [cls]).length
        ((done ++ [cls] ++ l ++ pieces).map CharSet.raw) s.raw := by
  have hlength : done.length + (l.length + 1) = (done ++ [cls]).length + l.length := by
    rw [List.length_append, List.length_singleton]
    omega
  rw [hlength]
  simp

/-- Splitting by index leaves the visited classes in place and appends what it splits off, as
splitting the list of the classes that are still to be visited does. -/
theorem splitFrom_eq (l done pieces : List CharSet) (s : CharSet) :
    splitFrom (done.length + l.length) done.length ((done ++ l ++ pieces).map CharSet.raw) s.raw =
      .ok ((done ++ (Partition.splitClasses s l).1 ++
        (pieces ++ (Partition.splitClasses s l).2)).map CharSet.raw) := by
  -- the visited classes stay in front and the pieces behind, so both are general
  fun_induction Partition.splitClasses s l generalizing done pieces with
  | case1 s =>
    rw [splitFrom, if_neg (by simp)]
    simp [pure, Except.pure]
  | case2 s cls more hempty =>
    rw [List.length_cons, splitFrom_cons, if_pos hempty, List.append_nil]
  | case3 cls more hne =>
    rw [List.length_cons, splitFrom_cons, if_neg hne, if_pos rfl, List.append_nil]
  | case4 s cls more hne hother _ hnone kept' pieces' hrest ih =>
    rw [List.length_cons, splitFrom_cons, if_neg hne, if_neg hother, if_pos hnone,
      splitFrom_shift, ih, hrest]
    simp
  | case5 s cls more hne hother _ hsome hall kept' pieces' hrest ih =>
    rw [List.length_cons, splitFrom_cons, if_neg hne, if_neg hother, if_neg hsome, if_pos hall,
      splitFrom_shift, ih, hrest]
    simp
  | case6 s cls more hne hother _ hsome hpart hall =>
    rw [List.length_cons, splitFrom_cons, if_neg hne, if_neg hother, if_neg hsome, if_neg hpart,
      if_pos hall]
  | case7 s cls more hne hother common hsome hpart hbeyond kept' pieces' hrest ih =>
    rw [List.length_cons, splitFrom_cons, if_neg hne, if_neg hother, if_neg hsome, if_neg hpart,
      if_neg hbeyond, splitFrom_shift, ih, hrest]
    simp [common]

theorem split_ofRefiner (r : Refiner) (s : CharSet) :
    (ofRefiner r).split s.raw = .ok (ofOutcome (r.split s)) := by
  have hclip : intersect s.raw (alphabet r.partition.maximum) = .ok (r.partition.clip s).raw :=
    intersect_raw s (CharSet.upTo r.partition.maximum)
  have hsplit := splitFrom_eq r.partition.classes [] [] (r.partition.clip s)
  simp only [List.length_nil, Nat.zero_add, List.nil_append, List.append_nil] at hsplit
  unfold Classes.split ofRefiner
  rw [hclip, ok_bind, List.length_map, hsplit]
  rfl

theorem refineBySet_ofRefiner (r : Refiner) (s : CharSet) (caseless : Bool) :
    (ofRefiner r).refineBySet s.raw caseless = .ok (ofOutcome (r.refineBySet s caseless)) := by
  cases caseless with
  | false => exact split_ofRefiner r s
  | true =>
    unfold Classes.refineBySet Refiner.refineBySet
    rw [if_pos rfl, if_pos rfl]
    cases hr : r.reader with
    | none =>
      have hsource : (ofRefiner r).source = none := by simp [ofRefiner, Refiner.source?, hr]
      rw [hsource]
      rfl
    | some reader =>
      have hsource : (ofRefiner r).source = some reader.source := by
        simp [ofRefiner, Refiner.source?, hr]
      have hsame : ofRefiner { r with reader := some (reader.fold s).2.1 } = ofRefiner r := by
        simp [ofRefiner, Refiner.source?, hr, reader.source_fold]
      have hsplit := split_ofRefiner { r with reader := some (reader.fold s).2.1 }
        (s.fold reader.source.variants?)
      rw [hsame] at hsplit
      rw [hsource]
      simp only [fold_raw, ok_bind]
      exact hsplit

theorem refineBySpans_ofRefiner (r : Refiner) (l : List Span) (caseless : Bool) :
    (ofRefiner r).refineBySpans (l.map Span.bounds) caseless =
      .ok (ofOutcome (r.refineBySet (CharSet.ofSpans l) caseless)) := by
  unfold Classes.refineBySpans
  rw [fromBounds_eq, ok_bind]
  exact refineBySet_ofRefiner r (CharSet.ofSpans l) caseless

theorem refineByChar_ofRefiner (r : Refiner) (c : Char) (caseless : Bool) :
    (ofRefiner r).refineByChar c caseless = .ok (ofOutcome (r.refineByChar c caseless)) := by
  have hsingle : (Alphabet.ofChar c).bind CharSet.single =
      ((Alphabet.ofChar c).bind fun n => Span.ofBounds n n).map CharSet.ofSpan := by
    cases Alphabet.ofChar c with
    | error e => rfl
    | ok n => rfl
  have hbounds : ((Alphabet.ofChar c).bind fun n => Bounds.checked n n) =
      ((Alphabet.ofChar c).bind fun n => Span.ofBounds n n).map Span.bounds := by
    cases Alphabet.ofChar c with
    | error e => rfl
    | ok n => exact Bounds.checked_eq n n
  unfold Classes.refineByChar Refiner.refineByChar
  rw [hsingle, hbounds]
  cases (Alphabet.ofChar c).bind fun n => Span.ofBounds n n with
  | error e => rfl
  | ok t => exact refineBySet_ofRefiner r (CharSet.ofSpan t) caseless

theorem refineByChars_ofRefiner (r : Refiner) (caseless : Bool) (cs : List Char) :
    (ofRefiner r).refineByChars caseless cs = .ok (ofOutcome (r.refineByChars caseless cs)) := by
  induction cs generalizing r with
  | nil => rfl
  | cons c cs ih =>
    rw [Classes.refineByChars, refineByChar_ofRefiner, ok_bind, ofOutcome]
    cases hresult : (r.refineByChar c caseless).result with
    | error e =>
      have hstop : r.refineByChars caseless (c :: cs) = r.refineByChar c caseless := by
        simp only [Refiner.refineByChars, hresult]
      simp only [hstop, ofOutcome, hresult, pure, Except.pure]
    | ok u =>
      have hgo : ofOutcome (r.refineByChars caseless (c :: cs)) =
          ofOutcome ((r.refineByChar c caseless).refiner.refineByChars caseless cs) := by
        simp only [Refiner.refineByChars, hresult, ofOutcome]
      rw [hgo]
      exact ih (r.refineByChar c caseless).refiner

theorem mapM_intersect (l : List CharSet) (t : CharSet) :
    (l.map CharSet.raw).mapM (fun cls => intersect cls t.raw) =
      (.ok ((l.map (· ∩ t)).map CharSet.raw) : Checked _) := by
  induction l with
  | nil => rfl
  | cons s l ih =>
    rw [List.map_cons, List.mapM_cons, intersect_raw, ok_bind, ih]
    rfl

theorem position_isEmpty {l : List CharSet} (hl : l.length < wordLimit) :
    position List.isEmpty (l.map CharSet.raw) 0 = .ok (l.findIdx? CharSet.isEmpty) := by
  have hempty : List.isEmpty ∘ CharSet.raw = CharSet.isEmpty := funext CharSet.isEmpty_raw
  rw [position_eq_ok (by rw [List.length_map]; omega), List.findIdx?_map, hempty]
  exact congrArg Except.ok Option.map_id'

theorem count_lt {p : Partition} (hp : p.Valid) : p.classes.length < wordLimit := by
  have hsize : ∀ n ∈ p.classes.map CharSet.size, 1 ≤ n := by
    intro n hn
    obtain ⟨s, hs, rfl⟩ := List.mem_map.mp hn
    obtain ⟨c, hc⟩ := hp.nonempty s hs
    rw [← s.length_toList]
    exact List.length_pos_of_mem (CharSet.mem_toList.mpr hc)
  have hlength := List.length_le_sum_of_one_le _ hsize
  rw [hp.sum_size, List.length_map] at hlength
  have hlast := hp.maximum_le
  have hlimit := last_lt_wordLimit
  omega

theorem resize_of_widen (hwider : r.partition.maximum < m) (hm : m ≤ CodePoint.last) :
    (ofRefiner r).resize m = .ok (ofOutcome (r.changeAlphabet m)) := by
  have hlimit := last_lt_wordLimit
  have hfirst : add (ofRefiner r).maximum 1 = .ok (r.partition.maximum + 1) :=
    add_eq_ok (by change r.partition.maximum + 1 < wordLimit; omega)
  have hmodel : r.partition.resize m =
      .ok (r.partition.widen ⟨r.partition.maximum + 1, m, hwider, hm⟩) := by
    unfold Partition.resize
    rw [dif_neg (Nat.not_lt.mpr hm), dif_pos hwider]
  unfold Classes.resize Refiner.changeAlphabet
  rw [if_neg (Nat.not_lt.mpr hm), if_pos (by exact hwider), hfirst, ok_bind, hmodel]
  cases hclasses : r.partition.classes with
  | nil =>
    simp [ofRefiner, ofOutcome, Partition.widen, Refiner.source?, hclasses, pure, Except.pure]
  | cons s rest =>
    have hadd := addBounds_raw s ⟨r.partition.maximum + 1, m, hwider, hm⟩
    dsimp only [Span.bounds] at hadd
    simp [ofRefiner, ofOutcome, Partition.widen, Refiner.source?, hclasses, hadd, pure, Except.pure]

theorem resize_of_narrow (hr : r.partition.Valid) (hnarrower : m < r.partition.maximum)
    (hm : m ≤ CodePoint.last) :
    (ofRefiner r).resize m = .ok (ofOutcome (r.changeAlphabet m)) := by
  have hclip : (ofRefiner r).classes.mapM (fun cls => intersect cls (alphabet m)) =
      (.ok ((r.partition.clippedTo m).classes.map CharSet.raw) : Checked _) :=
    mapM_intersect r.partition.classes (CharSet.upTo m)
  have hmodel : r.partition.resize m = r.partition.narrow m := by
    unfold Partition.resize
    rw [dif_neg (Nat.not_lt.mpr hm), dif_neg (Nat.lt_asymm hnarrower), if_pos hnarrower]
  have hcount : (r.partition.clippedTo m).classes.length < wordLimit := by
    unfold Partition.clippedTo
    rw [List.length_map]
    exact count_lt hr
  unfold Classes.resize Refiner.changeAlphabet
  rw [if_neg (Nat.not_lt.mpr hm), if_neg (by exact Nat.lt_asymm hnarrower),
    if_pos (by exact hnarrower), hclip, ok_bind, position_isEmpty hcount, ok_bind, hmodel]
  unfold Partition.narrow
  cases (r.partition.clippedTo m).classes.findIdx? CharSet.isEmpty with
  | none => rfl
  | some code => rfl

/-- An alphabet is widened from a word that is one, since classes can hold the wider one. -/
theorem resize_ofRefiner (hr : r.partition.Valid) (m : Nat) :
    (ofRefiner r).resize m = .ok (ofOutcome (r.changeAlphabet m)) := by
  by_cases hlast : CodePoint.last < m
  · have hmodel : r.partition.resize m = .error (.outOfRange m CodePoint.last) := dif_pos hlast
    unfold Classes.resize Refiner.changeAlphabet
    rw [if_pos hlast, hmodel]
    rfl
  · have hm : m ≤ CodePoint.last := Nat.not_lt.mp hlast
    rcases Nat.lt_trichotomy r.partition.maximum m with hwider | hsame | hnarrower
    · exact resize_of_widen hwider hm
    · subst hsame
      have hmodel : r.partition.resize r.partition.maximum = .ok r.partition := by
        simp [Partition.resize, hlast]
      unfold Classes.resize Refiner.changeAlphabet
      have hsame : ¬ (ofRefiner r).maximum < r.partition.maximum := Nat.lt_irrefl _
      rw [if_neg hlast, if_neg hsame, if_neg (by exact hsame), hmodel]
      rfl
    · exact resize_of_narrow hr hnarrower hm

end ScannerAlphabet.Machine
