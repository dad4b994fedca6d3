import ScannerAlphabet.ClassTable
import ScannerAlphabet.Proofs.ReadableTexts

/-!
# Dumps of classes

The dump of a partition numbers its classes in order, so that the number above a class says nothing
new, and the text of a set tells where it ends. Class by class, two dumps can therefore only be the
same if the classes are. The dump of an entry of the class table has three parts, and none of the
characters between them can be taken for a digit of the part before. `dumps_injective` says for
every kind of dump that it loses nothing.
-/
namespace ScannerAlphabet
open Text
variable {rest more : List Char}

theorem Span.text_injective {s t : Span} (h : s.text = t.text) : s = t := by
  have hlist : s.text.toList ++ [] = t.text.toList ++ [] := by rw [h]
  exact (text_append_inj hlist).1

namespace Partition

/-- The line above a class. -/
def heading (code : Nat) : String :=
  "class " ++ toString code ++ ":\n"

/-- The lines for classes that are numbered from `code` on. -/
def lines (code : Nat) : List CharSet → List Char
  | [] => []
  | s :: classes => (heading code).toList ++ (s.text.toList ++ '\n' :: lines (code + 1) classes)

theorem flatMap_zipIdx_eq_lines (code : Nat) (classes : List CharSet) :
    ((classes.zipIdx code).flatMap fun (s, code) =>
      ("class " ++ toString code ++ ":\n" ++ s.text ++ "\n").toList) = lines code classes := by
  induction classes generalizing code with
  | nil => rfl
  | cons s classes ih =>
    rw [List.zipIdx_cons, List.flatMap_cons, ih, lines, heading]
    simp only [String.toList_append, List.append_assoc]
    rfl

theorem toList_text (p : Partition) :
    p.text.toList = "CharClasses:\n".toList ++ lines 0 p.classes := by
  rw [text, String.toList_append, String.toList_join, List.flatMap_map,
    ← flatMap_zipIdx_eq_lines]

theorem lines_injective {code : Nat} {classes others : List CharSet}
    (h : lines code classes = lines code others) : classes = others := by
  induction classes generalizing code others with
  | nil =>
    cases others with
    | nil => rfl
    | cons t others => simp [lines, heading] at h
  | cons s classes ih =>
    cases others with
    | nil => simp [lines, heading] at h
    | cons t others =>
      have hbelow := List.append_cancel_left h
      have hset := CharSet.text_append_inj hbelow
      rw [hset.1, ih (List.cons.inj hset.2).2]

theorem text_injective {p q : Partition} (h : p.text = q.text) : p.classes = q.classes := by
  have hlist := congrArg String.toList h
  rw [toList_text, toList_text] at hlist
  exact lines_injective (List.append_cancel_left hlist)

end Partition

namespace ClassRun
variable {r u : ClassRun}

/-- What stands behind the first code point of an entry. -/
def tail (r : ClassRun) : List Char :=
  '-' :: ((CodePoint.literal r.last).toList ++ '=' :: ((toString r.code).toList ++ [']']))

theorem toList_text (r : ClassRun) :
    r.text.toList = '[' :: ((CodePoint.literal r.first).toList ++ r.tail) := by
  simp only [text, tail, String.toList_append, List.append_assoc]
  rfl

theorem tail_inj (h : r.tail = u.tail) : r.last = u.last ∧ r.code = u.code := by
  have hlast := CodePoint.literal_append_inj (by simp [EndsClass, Hex.isUpperDigit])
    (by simp [EndsClass, Hex.isUpperDigit]) (List.cons.inj h).2
  have hcode := Event.toString_append_inj (by simp [EndsClass]) (by simp [EndsClass])
    (List.cons.inj hlast.2).2
  exact ⟨hlast.1, hcode⟩

theorem text_injective (h : r.text = u.text) :
    r.first = u.first ∧ r.last = u.last ∧ r.code = u.code := by
  have hlist := congrArg String.toList h
  rw [toList_text, toList_text] at hlist
  have hfirst := CodePoint.literal_append_inj (by simp [EndsClass, tail, Hex.isUpperDigit])
    (by simp [EndsClass, tail, Hex.isUpperDigit]) (List.cons.inj hlist).2
  exact ⟨hfirst.1, tail_inj hfirst.2⟩

end ClassRun

/-- Dumps are the same only of the same spans, of the same sets, of partitions with the same classes
in the same order, and of entries of a class table with the same bounds and the same code, where
the bounds can be any numbers. -/
theorem dumps_injective :
    (∀ s t : Span, s.text = t.text ↔ s = t) ∧
    (∀ s t : CharSet, s.text = t.text ↔ s = t) ∧
    (∀ p q : Partition, p.text = q.text ↔ p.classes = q.classes) ∧
    ∀ r u : ClassRun, r.text = u.text ↔
      r.first = u.first ∧ r.last = u.last ∧ r.code = u.code := by
  refine ⟨?_, ?_, ?_, ?_⟩
  · intro s t
    exact ⟨Span.text_injective, congrArg Span.text⟩
  · intro s t
    exact ⟨CharSet.text_injective, congrArg CharSet.text⟩
  · intro p q
    constructor
    · exact Partition.text_injective
    · intro h
      rw [Partition.text, Partition.text, h]
  · intro r u
    constructor
    · exact ClassRun.text_injective
    · intro h
      rw [ClassRun.text, ClassRun.text, h.1, h.2.1, h.2.2]

example : (ClassRun.text ⟨0x27, 0x2D, 3⟩) = "[\x27\x27\x27-\x27-\x27=3]" := by
  decide

end ScannerAlphabet
