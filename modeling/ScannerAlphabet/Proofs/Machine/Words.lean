import ScannerAlphabet.CodePoint

/-!
# Checked words

A machine computes with words of a fixed width and reads lists by index. Here an addition that
leaves the words, a subtraction below zero, an index or a range outside a list and an assertion that
does not hold are faults, which end a computation. Words and indices are taken to have 32 bits; an
index of a wider machine can only have more.
-/
namespace ScannerAlphabet.Machine

/-- Why a computation ends early. -/
inductive Fault where
  | overflow
  | underflow
  | outOfBounds
  | assertion
deriving DecidableEq, Repr

abbrev Checked := Except Fault

/-- All words lie below this bound. -/
def wordLimit : Nat :=
  0x100000000

def add (a b : Nat) : Checked Nat :=
  if a + b < wordLimit then .ok (a + b) else .error .overflow

def sub (a b : Nat) : Checked Nat :=
  if b ≤ a then .ok (a - b) else .error .underflow

/-- The next word, as loops count; that it is the next one shows that they end. -/
def next (i : Nat) : Checked {j // j = i + 1} :=
  if i + 1 < wordLimit then .ok ⟨i + 1, rfl⟩ else .error .overflow

variable {α β : Type}

/-- The element at an index. -/
def get (l : List α) (i : Nat) : Checked α :=
  if h : i < l.length then .ok l[i] else .error .outOfBounds

/-- The list with another element at an index. -/
def put (l : List α) (i : Nat) (a : α) : Checked (List α) :=
  if i < l.length then .ok (l.set i a) else .error .outOfBounds

/-- The list with other elements in a range. -/
def splice (l : List α) (first last : Nat) (new : List α) : Checked (List α) :=
  if first ≤ last ∧ last ≤ l.length then .ok (l.take first ++ new ++ l.drop last)
  else .error .outOfBounds

def assert (b : Bool) : Checked Unit :=
  if b then .ok () else .error .assertion

/-- How many elements at the front have a property, in a list where no others have it. A search by
halving may ask about any element, so that all are asked about. -/
def partitionPoint (p : α → Checked Bool) : List α → Checked Nat
  | [] => .ok 0
  | a :: l => do
    let here ← p a
    let later ← partitionPoint p l
    return if here then later + 1 else 0

/-- The index of the first element with a property, counted from an index on. -/
def position (f : α → Bool) : List α → Nat → Checked (Option Nat)
  | [], _ => .ok none
  | a :: l, i =>
    if f a then .ok (some i)
    else do
      let j ← add i 1
      position f l j

/-- The elements with their indices, counted from an index on. -/
def enumerate : List α → Nat → Checked (List (α × Nat))
  | [], _ => .ok []
  | a :: l, i => do
    let j ← add i 1
    let later ← enumerate l j
    return (a, i) :: later

section Ok
variable {a b i first last : Nat} {l new : List α} {x : α}

@[simp] theorem ok_bind (x : α) (f : α → Checked β) : (Except.ok x >>= f) = f x := rfl

theorem add_eq_ok (h : a + b < wordLimit) : add a b = .ok (a + b) :=
  if_pos h

theorem eq_add_of_eq_ok (h : add a b = .ok i) : i = a + b := by
  unfold add at h
  split at h
  · exact (Except.ok.inj h).symm
  · cases h

theorem sub_eq_ok (h : b ≤ a) : sub a b = .ok (a - b) :=
  if_pos h

theorem next_eq_ok (h : i + 1 < wordLimit) : next i = .ok ⟨i + 1, rfl⟩ :=
  if_pos h

theorem get_eq_ok (h : l[i]? = some x) : get l i = .ok x := by
  obtain ⟨hi, rfl⟩ := List.getElem?_eq_some_iff.mp h
  exact dif_pos hi

theorem put_eq_ok (h : i < l.length) : put l i x = .ok (l.set i x) :=
  if_pos h

theorem splice_eq_ok (hrange : first ≤ last) (hlast : last ≤ l.length) :
    splice l first last new = .ok (l.take first ++ new ++ l.drop last) :=
  if_pos ⟨hrange, hlast⟩

theorem assert_and (b c : Bool) : assert (b && c) = (assert b >>= fun _ => assert c) := by
  cases b with
  | false => rfl
  | true => rfl

/-- The search ends where a property without faults fails for the first time. -/
theorem partitionPoint_eq_ok {p : α → Checked Bool} {f : α → Bool}
    (h : ∀ x ∈ l, p x = .ok (f x)) : partitionPoint p l = .ok (l.takeWhile f).length := by
  induction l with
  | nil => rfl
  | cons x l ih =>
    rw [partitionPoint, h x List.mem_cons_self, ih fun y hy => h y (List.mem_cons_of_mem _ hy)]
    cases hx : f x with
    | false => simp [hx, pure, Except.pure]
    | true => simp [hx, pure, Except.pure]

theorem position_eq_ok {f : α → Bool} (h : i + l.length < wordLimit) :
    position f l i = .ok ((l.findIdx? f).map (· + i)) := by
  induction l generalizing i with
  | nil => rfl
  | cons x l ih =>
    rw [List.length_cons] at h
    rw [position, List.findIdx?_cons]
    cases hx : f x with
    | false =>
      have hshift : (fun j => j + 1 + i) = fun j => j + (i + 1) := by
        funext j
        omega
      rw [if_neg Bool.false_ne_true, if_neg Bool.false_ne_true, add_eq_ok (by omega), ok_bind,
        ih (by omega), Option.map_map]
      exact congrArg (fun g => Except.ok ((l.findIdx? f).map g)) hshift.symm
    | true => simp

theorem enumerate_eq_ok (h : i + l.length < wordLimit) : enumerate l i = .ok (l.zipIdx i) := by
  induction l generalizing i with
  | nil => rfl
  | cons x l ih =>
    rw [List.length_cons] at h
    rw [enumerate, add_eq_ok (by omega), ok_bind, ih (by omega)]
    rfl

theorem drop_eq_cons {rest : List α} (h : l.drop i = x :: rest) :
    l[i]? = some x ∧ i < l.length ∧ l.drop (i + 1) = rest := by
  have hget : l[i]? = some x := by rw [← List.head?_drop, h, List.head?_cons]
  refine ⟨hget, (List.getElem?_eq_some_iff.mp hget).choose, ?_⟩
  rw [← List.tail_drop, h, List.tail_cons]

end Ok

end ScannerAlphabet.Machine
