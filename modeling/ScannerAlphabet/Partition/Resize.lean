import ScannerAlphabet.Partition

/-!
# Changing the alphabet

The alphabet of a partition can be changed while classes exist. What a wider alphabet adds goes
to the first class. A narrower alphabet clips every class, and is refused if that would leave a
class without members; the smallest such code is reported.
-/
namespace ScannerAlphabet.Partition

/-- Adds a span behind the alphabet to the first class. -/
def widen (p : Partition) (added : Span) : Partition where
  classes := match p.classes with
    | [] => []
    | s :: rest => s.insertSpan added :: rest
  maximum := added.hi

/-- Every class without its code points beyond `maximum`. -/
def clippedTo (p : Partition) (maximum : Nat) : Partition :=
  ⟨p.classes.map (· ∩ CharSet.upTo maximum), maximum⟩

/-- Clips every class, unless a class would become empty. -/
def narrow (p : Partition) (maximum : Nat) : Except Error Partition :=
  match (p.clippedTo maximum).classes.findIdx? CharSet.isEmpty with
  | some code => .error (.emptiedClass code maximum)
  | none => .ok (p.clippedTo maximum)

/-- Makes `maximum` the largest code point of the alphabet. -/
def resize (p : Partition) (maximum : Nat) : Except Error Partition :=
  if hlast : CodePoint.last < maximum then .error (.outOfRange maximum CodePoint.last)
  else if hwider : p.maximum < maximum then
    .ok (p.widen ⟨p.maximum + 1, maximum, hwider, Nat.not_lt.mp hlast⟩)
  else if maximum < p.maximum then p.narrow maximum
  else .ok p

end ScannerAlphabet.Partition
