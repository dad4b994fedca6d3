import Mathlib.Data.List.TakeWhile
import Std.Data.String.ToNat
import ScannerAlphabet.Event

/-!
# Texts that can be read back

A dump writes spans one after the other without a separator, and characters stand raw between
their quotes. Nothing is lost all the same: a literal followed by anything but a further digit
tells its code point and where it ends, so does a span, and the closing brace tells where the
spans of a set end. The statements about parts are therefore about a text with something behind it.
In the end a line of the log tells the event, as long as events are of the level `trace`.
-/
namespace ScannerAlphabet

namespace Text

/-- The text does not go on with a character of a class. -/
def EndsClass (p : Char → Bool) (rest : List Char) : Prop :=
  ∀ c ∈ rest.head?, p c = false

theorem takeWhile_append_of_endsClass {p : Char → Bool} {cs rest : List Char}
    (hcs : ∀ c ∈ cs, p c = true) (hrest : EndsClass p rest) :
    (cs ++ rest).takeWhile p = cs := by
  rw [List.takeWhile_append_of_pos hcs]
  cases rest with
  | nil => simp
  | cons c rest => rw [List.takeWhile_cons_of_neg (by simp [hrest c rfl]), List.append_nil]

/-- A stretch of one class is told from what is behind it. -/
theorem append_inj_of_endsClass {p : Char → Bool} {cs ds rest more : List Char}
    (hcs : ∀ c ∈ cs, p c = true) (hds : ∀ d ∈ ds, p d = true) (hrest : EndsClass p rest)
    (hmore : EndsClass p more) (h : cs ++ rest = ds ++ more) : cs = ds ∧ rest = more := by
  have hstretch : cs = ds := by
    rw [← takeWhile_append_of_endsClass hcs hrest, h, takeWhile_append_of_endsClass hds hmore]
  subst hstretch
  exact ⟨rfl, List.append_cancel_left h⟩

namespace Hex

/-- Whether a character is a digit of the upper-case form. -/
def isUpperDigit (c : Char) : Bool :=
  c.isDigit || ('A' ≤ c && c ≤ 'F')

/-- The number that an upper-case digit stands for. -/
def ofUpperDigit (c : Char) : Nat :=
  if c.isDigit then c.toNat - 0x30 else c.toNat - 0x37

theorem isUpperDigit_digitChar : ∀ d < 16, isUpperDigit (Nat.digitChar d).toUpper = true := by
  decide

theorem ofUpperDigit_digitChar : ∀ d < 16, ofUpperDigit (Nat.digitChar d).toUpper = d := by
  decide

theorem isUpperDigit_of_mem_upper {n : Nat} : ∀ c ∈ (upper n).toList, isUpperDigit c = true := by
  intro c hc
  rw [upper, String.toList_ofList, List.leftpad, List.mem_append] at hc
  rcases hc with hc | hc
  · rw [List.eq_of_mem_replicate hc]
    rfl
  · obtain ⟨d, hd, rfl⟩ := List.mem_map.mp hc
    exact isUpperDigit_digitChar d (digits_lt n d hd)

theorem value_replicate_zero_append (k : Nat) (ds : List Nat) :
    value (List.replicate k 0 ++ ds) = value ds := by
  induction k with
  | zero => rfl
  | succ k ih => rw [List.replicate_succ, List.cons_append, ← ih]; rfl

/-- The zeros in front do not change the number. -/
theorem value_upper (n : Nat) : value ((upper n).toList.map ofUpperDigit) = n := by
  have hdigits : (digits n).map (ofUpperDigit ∘ fun d => (Nat.digitChar d).toUpper) = digits n := by
    refine (List.map_congr_left fun d hd => ?_).trans (List.map_id _)
    exact ofUpperDigit_digitChar d (digits_lt n d hd)
  rw [upper, String.toList_ofList, List.leftpad, List.map_append, List.map_replicate,
    List.map_map, hdigits]
  exact (value_replicate_zero_append _ _).trans (value_digits n)

theorem upper_injective {m n : Nat} (h : (upper m).toList = (upper n).toList) : m = n := by
  rw [← value_upper m, h, value_upper n]

theorem upper_append_inj {m n : Nat} {rest more : List Char}
    (hrest : EndsClass isUpperDigit rest) (hmore : EndsClass isUpperDigit more)
    (h : (upper m).toList ++ rest = (upper n).toList ++ more) : m = n ∧ rest = more := by
  obtain ⟨hdigits, hbehind⟩ := append_inj_of_endsClass isUpperDigit_of_mem_upper
    isUpperDigit_of_mem_upper hrest hmore h
  exact ⟨upper_injective hdigits, hbehind⟩

end Hex

end Text

open Text

namespace CodePoint
variable {c d : Nat} {rest more : List Char}

theorem toList_literal (c : Nat) : (literal c).toList =
    if 0x20 ≤ c ∧ c ≤ 0x7E then ['\'', Char.ofNat c, '\'']
    else '\\' :: 'u' :: (Hex.upper c).toList := by
  unfold literal
  split <;> simp

theorem ofNat_injective_of_printable (hc : c ≤ 0x7E) (hd : d ≤ 0x7E)
    (h : Char.ofNat c = Char.ofNat d) : c = d := by
  have hval : ∀ n ≤ 0x7E, (Char.ofNat n).toNat = n := by decide
  rw [← hval c hc, h, hval d hd]

/-- A literal with no digit behind it tells its code point and where it ends. -/
theorem literal_append_inj (hrest : EndsClass Hex.isUpperDigit rest)
    (hmore : EndsClass Hex.isUpperDigit more)
    (h : (literal c).toList ++ rest = (literal d).toList ++ more) : c = d ∧ rest = more := by
  rw [toList_literal, toList_literal] at h
  split at h <;> split at h
  · rename_i hc hd
    simp only [List.cons_append, List.nil_append, List.cons.injEq, true_and] at h
    exact ⟨ofNat_injective_of_printable hc.2 hd.2 h.1, h.2⟩
  · simp at h
  · simp at h
  · simp only [List.cons_append, List.cons.injEq, true_and] at h
    exact Hex.upper_append_inj hrest hmore h

theorem label_append_inj (hrest : EndsClass Hex.isUpperDigit rest)
    (hmore : EndsClass Hex.isUpperDigit more)
    (h : (label c).toList ++ rest = (label d).toList ++ more) : c = d ∧ rest = more := by
  unfold label at h
  simp only [String.toList_append, List.append_assoc] at h
  exact Hex.upper_append_inj hrest hmore (List.append_cancel_left h)

theorem label_injective (h : label c = label d) : c = d := by
  have hlist : (label c).toList ++ [] = (label d).toList ++ [] := by rw [h]
  exact (label_append_inj (by simp [EndsClass]) (by simp [EndsClass]) hlist).1

end CodePoint

namespace Span
variable {s t : Span} {rest more : List Char}

/-- What stands behind the first literal of a span. -/
def closing (s : Span) : List Char :=
  if s.lo = s.hi then [']'] else '-' :: (CodePoint.literal s.hi).toList ++ [']']

theorem toList_text (s : Span) :
    s.text.toList = '[' :: (CodePoint.literal s.lo).toList ++ s.closing := by
  unfold text closing
  split <;> simp

theorem endsClass_closing (s : Span) (rest : List Char) :
    EndsClass Hex.isUpperDigit (s.closing ++ rest) := by
  unfold closing EndsClass
  split
  · simp [Hex.isUpperDigit]
  · simp [Hex.isUpperDigit]

theorem text_append_inj (h : s.text.toList ++ rest = t.text.toList ++ more) :
    s = t ∧ rest = more := by
  simp only [toList_text, List.cons_append, List.append_assoc, List.cons.injEq, true_and] at h
  obtain ⟨hlo, hclosing⟩ := CodePoint.literal_append_inj (s.endsClass_closing rest)
    (t.endsClass_closing more) h
  have hbracket : ∀ l : List Char, EndsClass Hex.isUpperDigit (']' :: l) := by
    simp [EndsClass, Hex.isUpperDigit]
  unfold closing at hclosing
  by_cases hs : s.lo = s.hi <;> by_cases ht : t.lo = t.hi
  · simp only [hs, ht, if_true, List.cons_append, List.nil_append, List.cons.injEq,
      true_and] at hclosing
    exact ⟨Span.ext hlo (by omega), hclosing⟩
  · simp [hs, ht] at hclosing
  · simp [hs, ht] at hclosing
  · simp only [hs, ht, if_false, List.cons_append, List.append_assoc, List.nil_append,
      List.cons.injEq, true_and] at hclosing
    obtain ⟨hhi, hbehind⟩ := CodePoint.literal_append_inj (hbracket rest) (hbracket more) hclosing
    exact ⟨Span.ext hlo hhi, (List.cons.inj hbehind).2⟩

/-- Spans one after the other are told from each other up to a blank. -/
theorem texts_append_inj {l m : List Span}
    (h : (l.flatMap fun s => s.text.toList) ++ ' ' :: rest =
      (m.flatMap fun s => s.text.toList) ++ ' ' :: more) : l = m := by
  induction l generalizing m with
  | nil =>
    cases m with
    | nil => rfl
    | cons t m => simp [toList_text] at h
  | cons s l ih =>
    cases m with
    | nil => simp [toList_text] at h
    | cons t m =>
      simp only [List.flatMap_cons, List.append_assoc] at h
      obtain ⟨rfl, hbehind⟩ := text_append_inj h
      rw [ih hbehind]

end Span

namespace CharSet
variable {s t : CharSet} {rest more : List Char}

theorem text_append_inj (h : s.text.toList ++ rest = t.text.toList ++ more) :
    s = t ∧ rest = more := by
  have hsets : s = t := by
    simp only [text, String.toList_append, String.toList_join, List.flatMap_map,
      List.append_assoc] at h
    exact toRuns_inj.mp (Span.texts_append_inj (List.append_cancel_left h))
  subst hsets
  exact ⟨rfl, List.append_cancel_left h⟩

theorem text_injective (h : s.text = t.text) : s = t := by
  have hlist : s.text.toList ++ [] = t.text.toList ++ [] := by rw [h]
  exact (text_append_inj hlist).1

end CharSet

namespace Event
variable {d e : Event} {m n : Nat} {rest more : List Char}

theorem isDigit_of_mem_toString : ∀ c ∈ (toString n).toList, c.isDigit = true := by
  intro c hc
  rw [Nat.toString_eq_repr, Nat.toList_repr] at hc
  exact Nat.isDigit_of_mem_toDigits (by decide) (by decide) hc

theorem toString_append_inj (hrest : EndsClass Char.isDigit rest)
    (hmore : EndsClass Char.isDigit more)
    (h : (toString m).toList ++ rest = (toString n).toList ++ more) : m = n := by
  have hdigits := (append_inj_of_endsClass isDigit_of_mem_toString isDigit_of_mem_toString
    hrest hmore h).1
  exact Nat.repr_inj.mp (String.toList_inj.mp hdigits)

theorem not_endsClass_toString_append : ¬ EndsClass Char.isDigit ((toString n).toList ++ rest) := by
  intro h
  cases hdigits : (toString n).toList with
  | nil =>
    rw [Nat.toString_eq_repr, Nat.toList_repr] at hdigits
    exact Nat.toDigits_ne_nil hdigits
  | cons c cs =>
    have hdigit : c.isDigit = true := isDigit_of_mem_toString c (hdigits ▸ List.mem_cons_self)
    rw [h c (by rw [hdigits]; rfl)] at hdigit
    cases hdigit

theorem toList_message_refining (s : CharSet) :
    (refining s).message.toList = "refining with ".toList ++ s.text.toList :=
  String.toList_append

theorem toList_message_refined (n : Nat) :
    (refined n).message.toList = (toString n).toList ++ " classes after refinement".toList :=
  String.toList_append

theorem toList_message_alphabetChanged (old new : Nat) :
    (alphabetChanged old new).message.toList = "alphabet changed from ".toList ++
      ((CodePoint.label old).toList ++ (" to ".toList ++ (CodePoint.label new).toList)) := by
  change ("alphabet changed from " ++ CodePoint.label old ++ " to " ++
    CodePoint.label new).toList = _
  simp only [String.toList_append, List.append_assoc]

theorem message_refined_ne_refining {s : CharSet} :
    (refined n).message.toList ≠ (refining s).message.toList := by
  intro h
  have hends : EndsClass Char.isDigit (refining s).message.toList := by
    rw [toList_message_refining]
    simp [EndsClass]
  rw [← h, toList_message_refined] at hends
  exact not_endsClass_toString_append hends

theorem message_refined_ne_alphabetChanged {old new : Nat} :
    (refined n).message.toList ≠ (alphabetChanged old new).message.toList := by
  intro h
  have hends : EndsClass Char.isDigit (alphabetChanged old new).message.toList := by
    rw [toList_message_alphabetChanged]
    simp [EndsClass]
  rw [← h, toList_message_refined] at hends
  exact not_endsClass_toString_append hends

theorem message_refining_ne_alphabetChanged {s : CharSet} {old new : Nat} :
    (refining s).message.toList ≠ (alphabetChanged old new).message.toList := by
  intro h
  rw [toList_message_refining, toList_message_alphabetChanged] at h
  simp at h

theorem message_refined_inj (h : (refined m).message.toList = (refined n).message.toList) :
    m = n := by
  rw [toList_message_refined, toList_message_refined] at h
  exact toString_append_inj (by simp [EndsClass]) (by simp [EndsClass]) h

theorem message_refining_inj {s t : CharSet}
    (h : (refining s).message.toList = (refining t).message.toList) : s = t := by
  rw [toList_message_refining, toList_message_refining] at h
  exact CharSet.text_injective (String.toList_inj.mp (List.append_cancel_left h))

theorem message_alphabetChanged_inj {old new old' new' : Nat}
    (h : (alphabetChanged old new).message.toList = (alphabetChanged old' new').message.toList) :
    old = old' ∧ new = new' := by
  rw [toList_message_alphabetChanged, toList_message_alphabetChanged] at h
  obtain ⟨hold, hto⟩ := CodePoint.label_append_inj (by simp [EndsClass, Hex.isUpperDigit])
    (by simp [EndsClass, Hex.isUpperDigit]) (List.append_cancel_left h)
  refine ⟨hold, CodePoint.label_injective (String.toList_inj.mp ?_)⟩
  exact List.append_cancel_left hto

theorem message_injective (hd : d.level = .trace) (he : e.level = .trace)
    (h : d.message.toList = e.message.toList) : d = e := by
  cases d with
  | tablesLoaded => cases hd
  | variantsUnpacked => cases hd
  | refining s =>
    cases e with
    | tablesLoaded => cases he
    | variantsUnpacked => cases he
    | refining t => rw [message_refining_inj h]
    | refined n => exact absurd h.symm message_refined_ne_refining
    | alphabetChanged old new => exact absurd h message_refining_ne_alphabetChanged
  | refined m =>
    cases e with
    | tablesLoaded => cases he
    | variantsUnpacked => cases he
    | refining t => exact absurd h message_refined_ne_refining
    | refined n => rw [message_refined_inj h]
    | alphabetChanged old new => exact absurd h message_refined_ne_alphabetChanged
  | alphabetChanged old new =>
    cases e with
    | tablesLoaded => cases he
    | variantsUnpacked => cases he
    | refining t => exact absurd h.symm message_refining_ne_alphabetChanged
    | refined n => exact absurd h.symm message_refined_ne_alphabetChanged
    | alphabetChanged old' new' =>
      obtain ⟨rfl, rfl⟩ := message_alphabetChanged_inj h
      rfl

/-- Events at the level `trace` are told from each other by their lines. -/
theorem line_injective (hd : d.level = .trace) (he : e.level = .trace) (h : d.line = e.line) :
    d = e := by
  have hline := congrArg String.toList h
  simp only [line, hd, he, String.toList_append, List.append_assoc] at hline
  exact message_injective hd he (List.append_cancel_left (List.append_cancel_left hline))

end Event
end ScannerAlphabet
