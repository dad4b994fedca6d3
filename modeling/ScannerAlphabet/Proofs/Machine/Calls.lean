import ScannerAlphabet.Proofs.Machine.Readings

/-!
# Calls and their answers

The calls that a program can make, grouped by what they are made on: on nothing, on a span, on a
set, on two sets, on a cursor, on a refiner, and on a refiner with a set or with spans. Numbers come
as 32-bit words and characters as characters, whatever their value. Each call has an answer, and a
machine that executes it with checked words. What changes in place is answered as a new value, so
that a caller keeps both. Comparisons and copies compute with no words and read nothing by index,
and are left out.

A refiner comes with the fact that it can be reached. On values that stand for those of the library
no call has a fault, and the machine makes the values that stand for the answer.
-/
namespace ScannerAlphabet.Machine

/-- What calls take and answer, with spans, sets, cursors and refiners of some kind. -/
inductive Value (σ τ κ ρ : Type) where
  | span (s : σ)
  | set (s : τ)
  | cursor (k : κ)
  | refiner (r : ρ)
  | flag (b : Bool)
  | number (n : Nat)
  | numbers (l : List Nat)
  | table (l : List ClassRun)
  | text (s : String)
  | refused (e : Error)
  | nothing

namespace Value
variable {σ τ κ ρ α : Type}

def span? : Value σ τ κ ρ → Option σ
  | span s => some s
  | _ => none

def set? : Value σ τ κ ρ → Option τ
  | set s => some s
  | _ => none

def cursor? : Value σ τ κ ρ → Option κ
  | cursor k => some k
  | _ => none

def refiner? : Value σ τ κ ρ → Option ρ
  | refiner r => some r
  | _ => none

/-- A value, unless it is refused. -/
def ofExcept (f : α → Value σ τ κ ρ) : Except Error α → Value σ τ κ ρ
  | .ok a => f a
  | .error e => refused e

end Value

/-- A refiner in a state that requests lead to. -/
abbrev State := {r : Refiner // r.Reachable}

/-- The values of the library. -/
abbrev Item := Value Span CharSet Cursor State

/-- The values of a machine. -/
abbrev Datum := Value Bounds (List Bounds) Place Classes

/-- The value that stands for one of the library. -/
def Value.raw : Item → Datum
  | .span s => .span s.bounds
  | .set s => .set s.raw
  | .cursor k => .cursor (ofCursor k)
  | .refiner r => .refiner (ofRefiner r.1)
  | .flag b => .flag b
  | .number n => .number n
  | .numbers l => .numbers l
  | .table l => .table l
  | .text s => .text s
  | .refused e => .refused e
  | .nothing => .nothing

/-- Calls that make something. A set may also come from elsewhere, such as a database. -/
inductive MakeCall where
  | span (lo hi : UInt32)
  | spanOfChars (first final : Char)
  | codePoint (c : Char)
  | emptySet
  | setOfChar (c : UInt32)
  | setFrom (s : CharSet)
  | refiner (maximum : UInt32) (source : Option CaselessSource)
  | refinerOfWidth (w : Alphabet.Width) (source : Option CaselessSource)

inductive SpanCall where
  | bounds
  | size
  | isEmpty
  | contains (c : UInt32)
  | members
  | text
  | toSet

inductive SetCall where
  | isEmpty
  | spanCount
  | size
  | contains (c : UInt32)
  | spans
  | text
  | cursor
  | addChar (c : UInt32)
  | fold (source : CaselessSource)

inductive PairCall where
  | union
  | inter
  | difference

inductive CursorCall where
  | next
  | rewind
  | remaining

inductive RefinerCall where
  | maximum
  | count
  | classAt (i : Nat)
  | classes
  | code (c : UInt32)
  | table
  | check
  | text
  | refineByChar (c : Char) (caseless : Bool)
  | refineByText (s : String) (caseless : Bool)
  | alphabet (m : UInt32)

/-- Calls on a refiner with a set. -/
inductive ReadingCall where
  | refine (caseless : Bool)
  | codesMeeting
  | codesMissing

namespace State

/-- The state after a request, and its result. -/
def apply (r : State) (q : Request) : List Item :=
  [.refiner ⟨(r.1.apply q).refiner, r.2.apply q⟩,
    .ofExcept (fun _ => .nothing) (r.1.apply q).result]

end State

def Answer.data (a : Answer) : List Datum :=
  [.refiner a.2, .ofExcept (fun _ => .nothing) a.1]

theorem ofRefiner_whole (maximum : Nat) (source : Option CaselessSource) :
    ofRefiner (Refiner.ofPartition (Partition.whole maximum) source) =
      ⟨[alphabet maximum], maximum, source⟩ := by
  cases source with
  | none => rfl
  | some source => rfl

theorem Classes.checked_eq (maximum : Nat) (source : Option CaselessSource) :
    Classes.checked maximum source = (Partition.ofMaximum maximum).map fun p =>
      ofRefiner (Refiner.ofPartition p source) := by
  unfold Classes.checked Partition.ofMaximum Alphabet.checked
  by_cases hlast : CodePoint.last < maximum
  · rw [if_pos hlast, if_pos hlast]
    rfl
  · rw [if_neg hlast, if_neg hlast, ← ofRefiner_whole]
    rfl

namespace MakeCall

def answer : MakeCall → List Item
  | span lo hi => [.ofExcept .span (Span.ofBounds lo.toNat hi.toNat)]
  | spanOfChars first final => [.ofExcept .span (Span.ofChars first final)]
  | codePoint c => [.ofExcept .number (Alphabet.ofChar c)]
  | emptySet => [.set ∅]
  | setOfChar c => [.ofExcept .set (CharSet.single c.toNat)]
  | setFrom s => [.set s]
  | refiner maximum source =>
    match h : Partition.ofMaximum maximum.toNat with
    | .error e => [.refused e]
    | .ok p => [.refiner ⟨Refiner.ofPartition p source, .ofMaximum h source⟩]
  | refinerOfWidth w source =>
    [.refiner ⟨Refiner.ofPartition (Partition.ofWidth w) source, .ofWidth w source⟩]

def execute : MakeCall → Checked (List Datum)
  | span lo hi => return [.ofExcept .span (Bounds.checked lo.toNat hi.toNat)]
  | spanOfChars first final => return [.ofExcept .span (Bounds.checked first.toNat final.toNat)]
  | codePoint c => return [.ofExcept .number (Alphabet.ofChar c)]
  | emptySet => return [.set []]
  | setOfChar c => return [.ofExcept (fun t => .set [t]) (Bounds.checked c.toNat c.toNat)]
  | setFrom s => return [.set s.raw]
  | refiner maximum source => return [.ofExcept .refiner (Classes.checked maximum.toNat source)]
  | refinerOfWidth w source => return [.refiner ⟨[Machine.alphabet w.maximum], w.maximum, source⟩]

theorem execute_eq (call : MakeCall) : call.execute = .ok (call.answer.map Value.raw) := by
  cases call with
  | span lo hi =>
    rw [execute, answer, Bounds.checked_eq]
    cases Span.ofBounds lo.toNat hi.toNat with
    | error e => rfl
    | ok s => rfl
  | spanOfChars first final =>
    rw [execute, answer, Bounds.checked_eq, Span.ofChars]
    cases Span.ofBounds first.toNat final.toNat with
    | error e => rfl
    | ok s => rfl
  | codePoint c =>
    rw [execute, answer]
    cases Alphabet.ofChar c with
    | error e => rfl
    | ok n => rfl
  | setOfChar c =>
    rw [execute, answer, Bounds.checked_eq, CharSet.single, Span.single]
    cases Span.ofBounds c.toNat c.toNat with
    | error e => rfl
    | ok s => rfl
  | refiner maximum source =>
    rw [execute, answer]
    split
    · rename_i e h
      rw [Classes.checked_eq, h]
      rfl
    · rename_i p h
      have hchecked : Classes.checked maximum.toNat source =
          .ok (ofRefiner (Refiner.ofPartition p source)) := by
        rw [Classes.checked_eq, h]
        rfl
      rw [hchecked]
      rfl
  | refinerOfWidth w source =>
    rw [execute, answer, ← ofRefiner_whole]
    rfl
  | emptySet => rfl
  | setFrom s => rfl

end MakeCall

namespace SpanCall

def answer (s : Span) : SpanCall → List Item
  | bounds => [.number s.lo, .number s.hi]
  | size => [.number s.size]
  | isEmpty => [.flag s.isEmpty]
  | contains c => [.flag (s.contains c.toNat)]
  | members => [.numbers s.toList]
  | text => [.text s.text]
  | toSet => [.set (CharSet.ofSpan s)]

def execute (t : Bounds) : SpanCall → Checked (List Datum)
  | bounds => return [.number t.lo, .number t.hi]
  | size => do
    let size ← t.size
    return [.number size]
  | isEmpty => return [.flag false]
  | contains c => return [.flag (t.contains c.toNat)]
  | members => return [.numbers t.toList]
  | text => return [.text t.text]
  | toSet => return [.set [t]]

theorem execute_bounds (s : Span) (call : SpanCall) :
    call.execute s.bounds = .ok ((call.answer s).map Value.raw) := by
  cases call with
  | size =>
    rw [execute, size_bounds]
    rfl
  | isEmpty =>
    rw [answer, Span.isEmpty_eq_false]
    rfl
  | contains c =>
    rw [execute, contains_bounds]
    rfl
  | members =>
    rw [execute, toList_bounds]
    rfl
  | bounds => rfl
  | text => rfl
  | toSet => rfl

end SpanCall

namespace SetCall

def answer (s : CharSet) : SetCall → List Item
  | isEmpty => [.flag s.isEmpty]
  | spanCount => [.number s.spanCount]
  | size => [.number s.size]
  | contains c => [.flag (s.contains c.toNat)]
  | spans => s.toRuns.map .span
  | text => [.text s.text]
  | cursor => [.cursor (Cursor.start s)]
  | addChar c => [.ofExcept .set (s.insert c.toNat)]
  | fold source => [.set (s.fold source.variants?)]

def execute (l : List Bounds) : SetCall → Checked (List Datum)
  | isEmpty => return [.flag l.isEmpty]
  | spanCount => return [.number l.length]
  | size => do
    let size ← Machine.size l
    return [.number size]
  | contains c => return [.flag (Machine.contains l c.toNat)]
  | spans => return l.map .span
  | text => return [.text (Machine.text l)]
  | cursor => return [.cursor (Place.start l)]
  | addChar c =>
    match Bounds.checked c.toNat c.toNat with
    | .error e => return [.refused e]
    | .ok t => do
      let added ← addBounds l t
      return [.set added]
  | fold source => do
    let folded ← Machine.fold source l
    return [.set folded]

theorem execute_raw (s : CharSet) (call : SetCall) :
    call.execute s.raw = .ok ((call.answer s).map Value.raw) := by
  cases call with
  | isEmpty =>
    rw [execute, CharSet.isEmpty_raw]
    rfl
  | spanCount =>
    rw [execute, CharSet.raw, List.length_map, CharSet.toRuns, Array.length_toList]
    rfl
  | size =>
    rw [execute, size_raw]
    rfl
  | contains c =>
    rw [execute, contains_raw]
    rfl
  | spans =>
    rw [execute, answer, CharSet.raw, List.map_map, List.map_map]
    rfl
  | text =>
    rw [execute, text_raw]
    rfl
  | cursor => rfl
  | addChar c =>
    rw [execute, answer, Bounds.checked_eq, CharSet.insert, Span.single]
    cases Span.ofBounds c.toNat c.toNat with
    | error e => rfl
    | ok t => exact congrArg (· >>= _) (addBounds_raw s t)
  | fold source =>
    rw [execute, fold_raw]
    rfl

end SetCall

namespace PairCall

def answer (s t : CharSet) : PairCall → List Item
  | union => [.set (s ∪ t)]
  | inter => [.set (s ∩ t)]
  | difference => [.set (s \ t)]

def execute (a b : List Bounds) : PairCall → Checked (List Datum)
  | union => do
    let sum ← addSet a b
    return [.set sum]
  | inter => do
    let common ← intersect a b
    return [.set common]
  | difference => do
    let left ← subtract a b
    return [.set left]

theorem execute_raw (s t : CharSet) (call : PairCall) :
    call.execute s.raw t.raw = .ok ((call.answer s t).map Value.raw) := by
  cases call with
  | union =>
    rw [execute, addSet_raw]
    rfl
  | inter =>
    rw [execute, intersect_raw]
    rfl
  | difference =>
    rw [execute, subtract_raw]
    rfl

end PairCall

namespace CursorCall

def answer (k : Cursor) : CursorCall → List Item
  | next =>
    match k.next? with
    | none => [.cursor k, .nothing]
    | some (t, k') => [.cursor k', .span t]
  | rewind => [.cursor k.rewind]
  | remaining => [.number k.remaining]

def execute (k : Place) : CursorCall → Checked (List Datum)
  | next => do
    let found ← k.next?
    match found with
    | none => return [.cursor k, .nothing]
    | some (t, k') => return [.cursor k', .span t]
  | rewind => return [.cursor k.rewind]
  | remaining => do
    let remaining ← k.remaining
    return [.number remaining]

theorem execute_ofCursor (k : Cursor) (call : CursorCall) :
    call.execute (ofCursor k) = .ok ((call.answer k).map Value.raw) := by
  cases call with
  | next =>
    rw [execute, answer, next?_ofCursor, ok_bind]
    cases k.next? with
    | none => rfl
    | some found => rfl
  | rewind => rfl
  | remaining =>
    rw [execute, remaining_ofCursor]
    rfl

end CursorCall

/-- A request that a machine executes without a fault answers what the request answers. -/
theorem bind_data {x : Checked Answer} (r : State) (q : Request)
    (h : x = .ok (ofOutcome (r.1.apply q))) :
    (x >>= fun a => (.ok a.data : Checked _)) = .ok ((r.apply q).map Value.raw) := by
  rw [h, ok_bind]
  unfold ofOutcome Answer.data State.apply
  cases (r.1.apply q).result with
  | error e => rfl
  | ok u => rfl

namespace RefinerCall

def answer (r : State) : RefinerCall → List Item
  | maximum => [.number r.1.partition.maximum]
  | count => [.number r.1.partition.count]
  | classAt i => [(r.1.partition.class? i).elim .nothing .set]
  | classes => r.1.partition.classes.map .set
  | code c => [.ofExcept .number (r.1.partition.code c.toNat)]
  | table => [.table r.1.partition.table]
  | check => [.flag r.1.partition.check]
  | text => [.text r.1.partition.text]
  | refineByChar c caseless => r.apply (.char c caseless)
  | refineByText s caseless => r.apply (.text s caseless)
  | alphabet m => r.apply (.alphabet m.toNat)

def execute (p : Classes) : RefinerCall → Checked (List Datum)
  | maximum => return [.number p.maximum]
  | count => return [.number p.classes.length]
  | classAt i => return [p.classes[i]?.elim .nothing .set]
  | classes => return p.classes.map .set
  | code c => do
    let code ← p.code c.toNat
    return [.ofExcept .number code]
  | table => do
    let table ← p.table
    return [.table table]
  | check => do
    p.check
    return [.flag true]
  | text => do
    let text ← p.text
    return [.text text]
  | refineByChar c caseless => do
    let a ← p.refineByChar c caseless
    return a.data
  | refineByText s caseless => do
    let a ← p.refineByChars caseless s.toList
    return a.data
  | alphabet m => do
    let a ← p.resize m.toNat
    return a.data

theorem execute_ofRefiner (r : State) (call : RefinerCall) :
    call.execute (ofRefiner r.1) = .ok ((call.answer r).map Value.raw) := by
  have hr := r.2.valid
  cases call with
  | maximum => rfl
  | count =>
    rw [execute, ofRefiner, List.length_map]
    rfl
  | classAt i =>
    rw [execute, answer, ofRefiner, List.getElem?_map, Partition.class?]
    cases r.1.partition.classes[i]? with
    | none => rfl
    | some s => rfl
  | classes =>
    rw [execute, answer, ofRefiner, List.map_map, List.map_map]
    rfl
  | code c =>
    rw [execute, answer, code_ofRefiner hr, ok_bind]
    cases r.1.partition.code c.toNat with
    | error e => rfl
    | ok n => rfl
  | table =>
    rw [execute, table_ofRefiner hr]
    rfl
  | check =>
    have hcheck := (Partition.check_eq_true_iff hr.maximum_le).mpr hr
    rw [execute, answer, check_ofRefiner (count_lt hr), hcheck]
    rfl
  | text =>
    rw [execute, text_ofRefiner (count_lt hr)]
    rfl
  | refineByChar c caseless =>
    exact bind_data r (.char c caseless) (refineByChar_ofRefiner r.1 c caseless)
  | refineByText s caseless =>
    exact bind_data r (.text s caseless) (refineByChars_ofRefiner r.1 caseless s.toList)
  | alphabet m => exact bind_data r (.alphabet m.toNat) (resize_ofRefiner hr m.toNat)

end RefinerCall

namespace ReadingCall

def answer (r : State) (s : CharSet) : ReadingCall → List Item
  | refine caseless => r.apply (.set s caseless)
  | codesMeeting => [.numbers (r.1.partition.codesMeeting s)]
  | codesMissing => [.numbers (r.1.partition.codesMissing s)]

def execute (p : Classes) (l : List Bounds) : ReadingCall → Checked (List Datum)
  | refine caseless => do
    let a ← p.refineBySet l caseless
    return a.data
  | codesMeeting => do
    let codes ← p.codes l false
    return [.numbers codes]
  | codesMissing => do
    let codes ← p.codes l true
    return [.numbers codes]

theorem execute_ofRefiner (r : State) (s : CharSet) (call : ReadingCall) :
    call.execute (ofRefiner r.1) s.raw = .ok ((call.answer r s).map Value.raw) := by
  cases call with
  | refine caseless => exact bind_data r (.set s caseless) (refineBySet_ofRefiner r.1 s caseless)
  | codesMeeting =>
    have hmeets : (fun cls : CharSet => (cls ∩ s).isEmpty == false) =
        fun cls => !(cls ∩ s).isEmpty := by
      funext cls
      exact beq_false _
    rw [execute, answer, codes_ofRefiner r.2.valid, hmeets]
    rfl
  | codesMissing =>
    have hmisses : (fun cls : CharSet => (cls ∩ s).isEmpty == true) =
        fun cls => (cls ∩ s).isEmpty := by
      funext cls
      exact beq_true _
    rw [execute, answer, codes_ofRefiner r.2.valid, hmisses]
    rfl

end ReadingCall

end ScannerAlphabet.Machine
