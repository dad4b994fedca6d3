import ScannerAlphabet.Proofs.Machine.Calls

/-!
# Sessions without faults

A session is a list of calls. What they answer is kept in a store that only grows, and a call names
its operands by their places there, so that every session of a program is one of these. A place that
has nothing of the kind that is asked for makes a call without effect. The main statement is that
no session has a fault on a machine, whatever its calls: the store of the machine always stands for
the store of the library, answer by answer. Refusals are answers, and the check of a refiner is a
call like others, which answers on a machine only if nothing that it asserts fails.
-/
namespace ScannerAlphabet.Machine

/-- A call with the places of its operands. -/
inductive Call where
  | make (call : MakeCall)
  | onSpan (i : Nat) (call : SpanCall)
  | onSet (i : Nat) (call : SetCall)
  | onSets (i j : Nat) (call : PairCall)
  | onCursor (i : Nat) (call : CursorCall)
  | onRefiner (i : Nat) (call : RefinerCall)
  | onRefinerAndSet (i j : Nat) (call : ReadingCall)
  | addSpan (i j : Nat)
  | setOfSpans (places : List Nat)
  | refineBySpans (i : Nat) (places : List Nat) (caseless : Bool)
  | refineByComplement (i : Nat) (places : List Nat) (caseless : Bool)

section Operands
variable {σ τ κ ρ α β : Type}

/-- What a place of a store has, if it is of a kind. -/
def operand (kind : Value σ τ κ ρ → Option α) (store : List (Value σ τ κ ρ)) (i : Nat) : Option α :=
  store[i]?.bind kind

def operands (kind : Value σ τ κ ρ → Option α) (store : List (Value σ τ κ ρ)) (places : List Nat) :
    List α :=
  places.filterMap (operand kind store)

variable {kind : Item → Option α} {rawKind : Datum → Option β} {f : α → β}

theorem operand_raw (hkind : ∀ v : Item, rawKind v.raw = (kind v).map f) (store : List Item)
    (i : Nat) : operand rawKind (store.map Value.raw) i = (operand kind store i).map f := by
  unfold operand
  rw [List.getElem?_map]
  cases store[i]? with
  | none => rfl
  | some v => exact hkind v

theorem operands_raw (hkind : ∀ v : Item, rawKind v.raw = (kind v).map f) (store : List Item)
    (places : List Nat) :
    operands rawKind (store.map Value.raw) places = (operands kind store places).map f := by
  unfold operands
  rw [List.map_filterMap]
  exact List.filterMap_congr fun i _ => operand_raw hkind store i

theorem elim_raw {answer : α → List Item} {execute : β → Checked (List Datum)} (o : Option α)
    (h : ∀ a, execute (f a) = .ok ((answer a).map Value.raw)) :
    (o.map f).elim (.ok []) execute = .ok ((o.elim [] answer).map Value.raw) := by
  cases o with
  | none => rfl
  | some a => exact h a

theorem span?_raw (v : Item) : v.raw.span? = v.span?.map Span.bounds := by
  cases v <;> rfl

theorem set?_raw (v : Item) : v.raw.set? = v.set?.map CharSet.raw := by
  cases v <;> rfl

theorem cursor?_raw (v : Item) : v.raw.cursor? = v.cursor?.map ofCursor := by
  cases v <;> rfl

theorem refiner?_raw (v : Item) : v.raw.refiner? = v.refiner?.map fun r => ofRefiner r.1 := by
  cases v <;> rfl

end Operands

namespace Call

def answer (store : List Item) : Call → List Item
  | make call => call.answer
  | onSpan i call => (operand Value.span? store i).elim [] fun s => call.answer s
  | onSet i call => (operand Value.set? store i).elim [] fun s => call.answer s
  | onSets i j call => (operand Value.set? store i).elim [] fun s =>
    (operand Value.set? store j).elim [] fun t => call.answer s t
  | onCursor i call => (operand Value.cursor? store i).elim [] fun k => call.answer k
  | onRefiner i call => (operand Value.refiner? store i).elim [] fun r => call.answer r
  | onRefinerAndSet i j call => (operand Value.refiner? store i).elim [] fun r =>
    (operand Value.set? store j).elim [] fun s => call.answer r s
  | addSpan i j => (operand Value.set? store i).elim [] fun s =>
    (operand Value.span? store j).elim [] fun t => [.set (s.insertSpan t)]
  | setOfSpans places => [.set (CharSet.ofSpans (operands Value.span? store places))]
  | refineBySpans i places caseless => (operand Value.refiner? store i).elim [] fun r =>
    r.apply (.spans (operands Value.span? store places) caseless)
  | refineByComplement i places caseless => (operand Value.refiner? store i).elim [] fun r =>
    r.apply (.complement (operands Value.span? store places) caseless)

def execute (store : List Datum) : Call → Checked (List Datum)
  | make call => call.execute
  | onSpan i call => (operand Value.span? store i).elim (.ok []) fun t => call.execute t
  | onSet i call => (operand Value.set? store i).elim (.ok []) fun l => call.execute l
  | onSets i j call => (operand Value.set? store i).elim (.ok []) fun a =>
    (operand Value.set? store j).elim (.ok []) fun b => call.execute a b
  | onCursor i call => (operand Value.cursor? store i).elim (.ok []) fun k => call.execute k
  | onRefiner i call => (operand Value.refiner? store i).elim (.ok []) fun p => call.execute p
  | onRefinerAndSet i j call => (operand Value.refiner? store i).elim (.ok []) fun p =>
    (operand Value.set? store j).elim (.ok []) fun l => call.execute p l
  | addSpan i j => (operand Value.set? store i).elim (.ok []) fun l =>
    (operand Value.span? store j).elim (.ok []) fun t => do
      let added ← addBounds l t
      return [.set added]
  | setOfSpans places => do
    let set ← fromBounds (operands Value.span? store places)
    return [.set set]
  | refineBySpans i places caseless | refineByComplement i places caseless =>
    (operand Value.refiner? store i).elim (.ok []) fun p => do
      let a ← p.refineBySpans (operands Value.span? store places) caseless
      return a.data

end Call

/-- The store of the library after calls. -/
def answerAll (store : List Item) : List Call → List Item
  | [] => store
  | call :: calls => answerAll (store ++ call.answer store) calls

/-- The store of a machine after calls. -/
def executeAll (store : List Datum) : List Call → Checked (List Datum)
  | [] => return store
  | call :: calls => do
    let made ← call.execute store
    executeAll (store ++ made) calls

/-- One call has no fault on a store that stands for one of the library. -/
theorem execute_raw (store : List Item) (call : Call) :
    call.execute (store.map Value.raw) = .ok ((call.answer store).map Value.raw) := by
  cases call with
  | make call => exact call.execute_eq
  | onSpan i call =>
    rw [Call.execute, Call.answer, operand_raw span?_raw]
    exact elim_raw _ fun s => call.execute_bounds s
  | onSet i call =>
    rw [Call.execute, Call.answer, operand_raw set?_raw]
    exact elim_raw _ fun s => call.execute_raw s
  | onSets i j call =>
    rw [Call.execute, Call.answer, operand_raw set?_raw, operand_raw set?_raw]
    exact elim_raw _ fun s => elim_raw _ fun t => call.execute_raw s t
  | onCursor i call =>
    rw [Call.execute, Call.answer, operand_raw cursor?_raw]
    exact elim_raw _ fun k => call.execute_ofCursor k
  | onRefiner i call =>
    rw [Call.execute, Call.answer, operand_raw refiner?_raw]
    exact elim_raw _ fun r => call.execute_ofRefiner r
  | onRefinerAndSet i j call =>
    rw [Call.execute, Call.answer, operand_raw refiner?_raw, operand_raw set?_raw]
    exact elim_raw _ fun r => elim_raw _ fun s => call.execute_ofRefiner r s
  | addSpan i j =>
    rw [Call.execute, Call.answer, operand_raw set?_raw, operand_raw span?_raw]
    exact elim_raw _ fun s => elim_raw _ fun t => congrArg (· >>= _) (addBounds_raw s t)
  | setOfSpans places =>
    rw [Call.execute, Call.answer, operands_raw span?_raw, fromBounds_eq]
    rfl
  | refineBySpans i places caseless =>
    rw [Call.execute, Call.answer, operand_raw refiner?_raw, operands_raw span?_raw]
    exact elim_raw _ fun r =>
      bind_data r (.spans _ caseless) (refineBySpans_ofRefiner r.1 _ caseless)
  | refineByComplement i places caseless =>
    rw [Call.execute, Call.answer, operand_raw refiner?_raw, operands_raw span?_raw]
    exact elim_raw _ fun r =>
      bind_data r (.complement _ caseless) (refineBySpans_ofRefiner r.1 _ caseless)

theorem executeAll_raw (store : List Item) (calls : List Call) :
    executeAll (store.map Value.raw) calls = .ok ((answerAll store calls).map Value.raw) := by
  induction calls generalizing store with
  | nil => rfl
  | cons call calls ih =>
    rw [executeAll, execute_raw, ok_bind, ← List.map_append]
    exact ih (store ++ call.answer store)

/-- Whatever calls a program makes, with whatever words and characters, the machine has no fault:
no sum leaves the words, no difference falls below zero, no index or range lies outside its list and
no assertion of a check fails. It answers what the library answers. -/
theorem sessions_have_no_faults (calls : List Call) :
    executeAll [] calls = .ok ((answerAll [] calls).map Value.raw) :=
  executeAll_raw [] calls

end ScannerAlphabet.Machine
