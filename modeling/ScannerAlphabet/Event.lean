import ScannerAlphabet.CharSet

/-!
# Events

What an operation reports while it works, one value for each kind of line in the log. The
classes of the alphabet report at the level `trace`, the Unicode tables at the level `debug`.
-/
namespace ScannerAlphabet

inductive Event where
  /-- The tables of a version were loaded, with so many names. -/
  | tablesLoaded (version : String) (names : Nat)
  /-- The case variants of a version were unpacked, in so many groups. -/
  | variantsUnpacked (version : String) (groups : Nat)
  /-- Classes are about to be split by a set. -/
  | refining (set : CharSet)
  /-- So many classes exist after a split. -/
  | refined (classes : Nat)
  /-- The largest code point of the alphabet was set. -/
  | alphabetChanged (old new : Nat)
deriving DecidableEq

namespace Event

inductive Level where
  | trace
  | debug
deriving DecidableEq, Repr

def Level.text : Level → String
  | .trace => "TRACE"
  | .debug => "DEBUG"

def level : Event → Level
  | tablesLoaded .. => .debug
  | variantsUnpacked .. => .debug
  | refining _ => .trace
  | refined _ => .trace
  | alphabetChanged .. => .trace

def message : Event → String
  | tablesLoaded version names =>
      "loaded Unicode " ++ version ++ " tables: " ++ toString names ++
        " property values and aliases"
  | variantsUnpacked version groups =>
      "unpacked " ++ toString groups ++ " caseless equivalence classes for Unicode " ++ version
  | refining set => "refining with " ++ set.text
  | refined classes => toString classes ++ " classes after refinement"
  | alphabetChanged old new =>
      "alphabet changed from " ++ CodePoint.label old ++ " to " ++ CodePoint.label new

/-- The line of the log. -/
def line (e : Event) : String :=
  e.level.text ++ " " ++ e.message

end Event

end ScannerAlphabet
