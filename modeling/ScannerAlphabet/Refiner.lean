import ScannerAlphabet.Caseless
import ScannerAlphabet.Partition.Resize
import ScannerAlphabet.Partition.Split

/-!
# Refining an alphabet by requests

A refiner is a partition together with the source of case variants that caseless requests need.
Each request names sets that the scanner tells apart, or changes the alphabet. Its outcome is
the refiner afterwards, the events on the way and the result. A request that fails changes
nothing, except that a text keeps the refinements by the characters before the one that failed.
-/
namespace ScannerAlphabet

structure Refiner where
  partition : Partition
  reader : Option CaselessReader

/-- What a scanner specification can ask for. -/
inductive Request where
  | set (s : CharSet) (caseless : Bool)
  | char (c : Char) (caseless : Bool)
  /-- Each character of a text in turn. -/
  | text (s : String) (caseless : Bool)
  /-- The union of some spans. -/
  | spans (l : List Span) (caseless : Bool)
  /-- All but the union of some spans. -/
  | complement (l : List Span) (caseless : Bool)
  /-- An alphabet up to another largest code point. -/
  | alphabet (maximum : Nat)
deriving DecidableEq

structure Outcome where
  refiner : Refiner
  events : List Event
  result : Except Error Unit

namespace Refiner

/-- A refiner before any request. -/
def ofPartition (p : Partition) (source : Option CaselessSource) : Refiner :=
  ⟨p, source.map CaselessReader.ofSource⟩

/-- The outcome of a request that is refused. -/
def refuse (r : Refiner) (e : Error) : Outcome :=
  ⟨r, [], .error e⟩

/-- Refines by the part of a set that lies in the alphabet. -/
def split (r : Refiner) (s : CharSet) : Outcome :=
  let clipped := r.partition.clip s
  let p := r.partition.refine clipped
  ⟨{ r with partition := p }, [.refining clipped, .refined p.count], .ok ()⟩

/-- Refines by a set, or by its fold if case is to be ignored. The set is folded before it is
clipped, since a code point outside the alphabet can have variants inside. -/
def refineBySet (r : Refiner) (s : CharSet) (caseless : Bool) : Outcome :=
  if caseless then
    match r.reader with
    | none => r.refuse .noCaselessSource
    | some reader =>
      let (folded, reader, events) := reader.fold s
      let o := split { r with reader := some reader } folded
      { o with events := events ++ o.events }
  else r.split s

def refineByChar (r : Refiner) (c : Char) (caseless : Bool) : Outcome :=
  match (Alphabet.ofChar c).bind CharSet.single with
  | .error e => r.refuse e
  | .ok s => r.refineBySet s caseless

/-- Refines by the characters in turn and stops at the first that fails. -/
def refineByChars (r : Refiner) (caseless : Bool) : List Char → Outcome
  | [] => ⟨r, [], .ok ()⟩
  | c :: cs =>
    let o := r.refineByChar c caseless
    match o.result with
    | .error _ => o
    | .ok () =>
      let o' := o.refiner.refineByChars caseless cs
      { o' with events := o.events ++ o'.events }

def changeAlphabet (r : Refiner) (maximum : Nat) : Outcome :=
  match r.partition.resize maximum with
  | .error e => r.refuse e
  | .ok p => ⟨{ r with partition := p }, [.alphabetChanged r.partition.maximum maximum], .ok ()⟩

/-- The outcome of a request. A set and its complement need the same classes, so that a
complement refines by the spans themselves. -/
def apply (r : Refiner) : Request → Outcome
  | .set s caseless => r.refineBySet s caseless
  | .char c caseless => r.refineByChar c caseless
  | .text s caseless => r.refineByChars caseless s.toList
  | .spans l caseless => r.refineBySet (CharSet.ofSpans l) caseless
  | .complement l caseless => r.refineBySet (CharSet.ofSpans l) caseless
  | .alphabet maximum => r.changeAlphabet maximum

/-- The refiner after a list of requests, whether they succeed or fail. -/
def run (r : Refiner) : List Request → Refiner
  | [] => r
  | q :: qs => (r.apply q).refiner.run qs

end Refiner

end ScannerAlphabet
