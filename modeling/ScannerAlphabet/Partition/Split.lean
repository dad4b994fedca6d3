import ScannerAlphabet.Partition

/-!
# Splitting classes

A partition is refined by a set so that the set becomes a union of classes. A class that lies
partly in the set keeps its place with the part outside, and the part inside becomes a new
class behind all others; a class that lies wholly inside or outside stays as it is. While the
classes are visited in order, the part of the set that they have not used up yet is carried
along, and the visit ends as soon as nothing of it is left to be separated.
-/
namespace ScannerAlphabet.Partition

/-- The classes as they stay in place, and the pieces split off from them in order. `rest` is
the part of the set that the classes before did not have. -/
def splitClasses (rest : CharSet) : List CharSet → List CharSet × List CharSet
  | [] => ([], [])
  | cls :: more =>
    if rest.isEmpty then (cls :: more, [])
    else if cls = rest then (cls :: more, [])
    else
      let common := cls ∩ rest
      if common.isEmpty then
        let (kept, pieces) := splitClasses rest more
        (cls :: kept, pieces)
      else if cls = common then
        let (kept, pieces) := splitClasses (rest \ common) more
        (cls :: kept, pieces)
      else if rest = common then ((cls \ common) :: more, [common])
      else
        let (kept, pieces) := splitClasses (rest \ common) more
        ((cls \ common) :: kept, common :: pieces)

/-- Splits classes until the set is a union of them. -/
def refine (p : Partition) (s : CharSet) : Partition :=
  let (kept, pieces) := splitClasses s p.classes
  { p with classes := kept ++ pieces }

end ScannerAlphabet.Partition
