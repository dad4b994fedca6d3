import ScannerAlphabet.Proofs.LooseLookup

/-!
# Names in normal form

The normal form of a name is made in three stages: some characters are left out, the others are
written in lower case, and then colons become equals signs. No later stage makes a character that
an earlier one would change, because what lower case gives is its own lower case and, unless it is
the character itself, comes behind all punctuation that is left out. Each character therefore adds
only characters that stay, and `normal_projects` draws from this that taking the normal form is a
projection, onto the names whose characters all stay.
-/
namespace ScannerAlphabet

namespace Text

/-- The blanks beyond ASCII. -/
def widerBlanks : List Char :=
  ['\u0085', '\u00A0', '\u1680', '\u2000', '\u2001', '\u2002', '\u2003', '\u2004', '\u2005',
   '\u2006', '\u2007', '\u2008', '\u2009', '\u200A', '\u2028', '\u2029', '\u202F', '\u205F',
   '\u3000']

namespace Lowercase
variable {c d : Char} {l : List Nat} {r : Run} {m n : Nat}

/-- The code points that a run says the lower case of. -/
def Run.sources (r : Run) : List Nat :=
  List.range' r.first ((r.last - r.first) / r.step + 1) r.step

/-- The code points that a run gives. -/
def Run.targets (r : Run) : List Nat :=
  List.range' r.target ((r.last - r.first) / r.step + 1) r.step

theorem Run.mem_sources_and_targets (hfirst : r.first ≤ m) (hlast : m ≤ r.last)
    (hstep : (m - r.first) % r.step = 0) :
    m ∈ r.sources ∧ r.target + (m - r.first) ∈ r.targets := by
  have hcount : (m - r.first) / r.step < (r.last - r.first) / r.step + 1 :=
    Nat.lt_succ_of_le (Nat.div_le_div_right (by omega))
  have hdistance : m - r.first = r.step * ((m - r.first) / r.step) := by
    have hdivided := Nat.div_add_mod (m - r.first) r.step
    omega
  constructor
  · exact List.mem_range'.mpr ⟨_, hcount, by omega⟩
  · exact List.mem_range'.mpr ⟨_, hcount, by rw [← hdistance]⟩

theorem exists_of_image?_eq_some {rs : List Run} (h : image? rs m = some n) :
    ∃ r ∈ rs, m ∈ r.sources ∧ n ∈ r.targets ∧ r.target ≤ n ∧
      n ≤ r.target + (r.last - r.first) := by
  induction rs with
  | nil => cases h
  | cons r rs ih =>
    rw [image?] at h
    split at h
    · cases h
    · split at h
      · obtain ⟨q, hq, hm⟩ := ih h
        exact ⟨q, List.mem_cons_of_mem _ hq, hm⟩
      · split at h
        · rename_i hfirst hlast hstep
          have hmem := r.mem_sources_and_targets (Nat.not_lt.mp hfirst) (Nat.not_lt.mp hlast) hstep
          rw [← Option.some.inj h]
          exact ⟨r, List.mem_cons_self, hmem.1, hmem.2, by omega, by omega⟩
        · cases h

/-- The numbers of a list as the bits of one number. -/
def bits (l : List Nat) : Nat :=
  l.foldr (fun n marked => marked ||| 1 <<< n) 0

/-- The numbers of some lists as the bits of one number. -/
def bitsOfAll (lists : List (List Nat)) : Nat :=
  lists.foldr (fun l marked => marked ||| bits l) 0

theorem testBit_bits (l : List Nat) (n : Nat) : (bits l).testBit n = decide (n ∈ l) := by
  induction l with
  | nil => simp [bits]
  | cons m l ih =>
    have hrest : bits (m :: l) = bits l ||| 1 <<< m := rfl
    rw [hrest, Nat.testBit_or, ih, Nat.one_shiftLeft, Nat.testBit_two_pow, Bool.eq_iff_iff]
    simp only [Bool.or_eq_true, decide_eq_true_eq, List.mem_cons]
    rw [or_comm, eq_comm]

theorem testBit_bitsOfAll (lists : List (List Nat)) (n : Nat) :
    (bitsOfAll lists).testBit n = decide (∃ l ∈ lists, n ∈ l) := by
  induction lists with
  | nil => simp [bitsOfAll]
  | cons l lists ih =>
    have hrest : bitsOfAll (l :: lists) = bitsOfAll lists ||| bits l := rfl
    rw [hrest, Nat.testBit_or, ih, testBit_bits, Bool.eq_iff_iff]
    simp only [Bool.or_eq_true, decide_eq_true_eq, List.mem_cons, exists_eq_or_imp]
    exact or_comm

/-- Lists of code points that no run says the lower case of: those that the one letter outside the
runs gives, the blanks beyond ASCII, and whatever a run gives. -/
def unmoved : List (List Nat) :=
  ['i', '\u0307'].map Char.toNat :: widerBlanks.map Char.toNat :: runs.map Run.targets

/-- One evaluation of the table: no unmoved code point has a lower case, and what a run gives lies
behind the capitals of ASCII, is not the one letter outside the runs, and is the number of a
character. -/
theorem unmoved_and_targets :
    bitsOfAll unmoved &&& bitsOfAll (runs.map Run.sources) = 0 ∧
    ∀ r ∈ runs, 0x60 < r.target ∧
      (r.target + (r.last - r.first) < 0x130 ∨ 0x130 < r.target) ∧
      (r.target + (r.last - r.first) < 0xD800 ∨
        0xDFFF < r.target ∧ r.target + (r.last - r.first) < 0x110000) := by
  decide +kernel

theorem image?_runs_of_mem_unmoved (hl : l ∈ unmoved) (hn : n ∈ l) : image? runs n = none := by
  apply Option.eq_none_iff_forall_ne_some.mpr
  intro k hk
  obtain ⟨r, hr, hsource, -⟩ := exists_of_image?_eq_some hk
  have hmarked : (bitsOfAll unmoved).testBit n = true := by
    rw [testBit_bitsOfAll, decide_eq_true_eq]
    exact ⟨l, hl, hn⟩
  have hsources : (bitsOfAll (runs.map Run.sources)).testBit n = true := by
    rw [testBit_bitsOfAll, decide_eq_true_eq]
    exact ⟨_, List.mem_map_of_mem hr, hsource⟩
  have hbit := congrArg (Nat.testBit · n) unmoved_and_targets.1
  simp only [Nat.testBit_and, hmarked, hsources, Bool.true_and, Nat.zero_testBit,
    Bool.true_eq_false] at hbit

theorem image?_runs_eq_some (h : image? runs m = some n) :
    0x60 < n ∧ n ≠ 0x130 ∧ n.isValidChar ∧ image? runs n = none := by
  obtain ⟨r, hr, -, htarget, hfrom, hto⟩ := exists_of_image?_eq_some h
  obtain ⟨hletter, hdotted, hvalid⟩ := unmoved_and_targets.2 r hr
  refine ⟨by omega, by omega, ?_, ?_⟩
  · unfold Nat.isValidChar
    omega
  · have hunmoved : r.targets ∈ unmoved :=
      List.mem_cons_of_mem _ (List.mem_cons_of_mem _ (List.mem_map_of_mem hr))
    exact image?_runs_of_mem_unmoved hunmoved htarget

theorem lower_eq_self (hc : c ≠ '\u0130') (himage : image? runs c.toNat = none) :
    lower c = [c] := by
  rw [lower, if_neg hc, himage]

/-- What lower case gives is the character itself, or it lies behind the capitals of ASCII; it is
always its own lower case. -/
theorem lower_of_mem_lower (h : d ∈ lower c) : (d = c ∨ 0x60 < d.toNat) ∧ lower d = [d] := by
  by_cases hc : c = '\u0130'
  · have htwo : d ∈ ['i', '\u0307'] := by
      rwa [lower, if_pos hc] at h
    have hletter : 0x60 < d.toNat ∧ d ≠ '\u0130' := by
      obtain rfl | rfl := List.mem_pair.mp htwo <;> decide
    have hnone : image? runs d.toNat = none :=
      image?_runs_of_mem_unmoved List.mem_cons_self (List.mem_map_of_mem htwo)
    exact ⟨.inr hletter.1, lower_eq_self hletter.2 hnone⟩
  · cases himage : image? runs c.toNat with
    | none =>
      rw [lower_eq_self hc himage, List.mem_singleton] at h
      rw [h]
      exact ⟨.inl rfl, lower_eq_self hc himage⟩
    | some n =>
      obtain ⟨hletter, hdotted, hvalid, hnone⟩ := image?_runs_eq_some himage
      have hd : d.toNat = n := by
        rw [lower, if_neg hc, himage, List.mem_singleton] at h
        rw [h, Char.ofNat, dif_pos hvalid]
        rfl
      refine ⟨.inr (by omega), lower_eq_self ?_ (hd ▸ hnone)⟩
      rintro rfl
      exact hdotted hd.symm

end Lowercase
end Text

namespace Unicode.LooseName
open Text Text.Lowercase
variable {c d : Char} {a b : String}

/-- The characters that the normal form leaves as they are. -/
def Settled (c : Char) : Prop :=
  c ∉ ignored ∧ c ≠ ':' ∧ lower c = [c]

theorem toNat_le_of_mem_ignored : ∀ c ∈ ignored, c.toNat ≤ 0x60 := by
  simp [ignored]

/-- A character that is not left out adds its lower case, a colon apart. -/
theorem normalChar_eq_lower (hc : c ∉ ignored) (hcolon : c ≠ ':') : normalChar c = lower c := by
  rw [normalChar, if_neg hc]
  refine (List.map_congr_left fun d hd => ?_).trans (List.map_id _)
  apply if_neg
  rintro rfl
  rcases (lower_of_mem_lower hd).1 with hsame | hletter
  · exact hcolon hsame.symm
  · exact absurd hletter (by decide)

theorem settled_of_mem_lower (hc : c ∉ ignored) (hcolon : c ≠ ':') (hd : d ∈ lower c) :
    Settled d := by
  obtain ⟨hsame | hletter, hlower⟩ := lower_of_mem_lower hd
  · rw [hsame] at hlower ⊢
    exact ⟨hc, hcolon, hlower⟩
  · refine ⟨fun hd => ?_, ?_, hlower⟩
    · have hpunctuation := toNat_le_of_mem_ignored d hd
      omega
    · rintro rfl
      exact absurd hletter (by decide)

theorem settled_of_mem_normalChar (hd : d ∈ normalChar c) : Settled d := by
  by_cases hc : c ∈ ignored
  · rw [normalChar_of_mem_ignored hc] at hd
    cases hd
  · by_cases hcolon : c = ':'
    · subst hcolon
      have hequals : d = '=' := List.mem_singleton.mp hd
      rw [hequals]
      unfold Settled
      decide
    · rw [normalChar_eq_lower hc hcolon] at hd
      exact settled_of_mem_lower hc hcolon hd

theorem Settled.normalChar_eq (hc : Settled c) : normalChar c = [c] := by
  rw [normalChar_eq_lower hc.1 hc.2.1, hc.2.2]

theorem Settled.isUpper_eq_false (hc : Settled c) : c.isUpper = false := by
  by_cases hascii : c.toNat < 0x80
  · exact of_ascii (P := fun c => lower c = [c] → c.isUpper = false) (by decide) hascii hc.2.2
  · apply Bool.eq_false_iff.mpr
    intro hupper
    have hnat : c.toNat ≤ 0x5A := UInt32.le_iff_toNat_le.mp (of_decide_eq_true hupper).2
    omega

theorem toList_normal (a : String) : (normal a).toList = a.toList.flatMap normalChar :=
  String.toList_ofList

theorem normal_append (a b : String) : normal (a ++ b) = normal a ++ normal b := by
  rw [normal, String.toList_append, List.flatMap_append, String.ofList_append]
  rfl

theorem settled_of_mem_normal (h : c ∈ (normal a).toList) : Settled c := by
  rw [toList_normal] at h
  obtain ⟨d, -, hd⟩ := List.mem_flatMap.mp h
  exact settled_of_mem_normalChar hd

theorem normal_eq_self_iff : normal a = a ↔ ∀ c ∈ a.toList, Settled c := by
  constructor
  · intro h c hc
    rw [← h] at hc
    exact settled_of_mem_normal hc
  · intro h
    rw [normal, List.flatMap_congr fun c hc => (h c hc).normalChar_eq, List.flatMap_singleton',
      String.ofList_toList]

theorem normal_normal (a : String) : normal (normal a) = normal a :=
  normal_eq_self_iff.mpr fun _ => settled_of_mem_normal

/-- The normal form character by character, without the stages. -/
theorem toList_normal_eq_flatMap_filter (a : String) : (normal a).toList =
    (a.toList.filter (· ∉ ignored)).flatMap fun c => if c = ':' then ['='] else lower c := by
  rw [toList_normal]
  induction a.toList with
  | nil => rfl
  | cons c cs ih =>
    rw [List.flatMap_cons, ih]
    by_cases hc : c ∈ ignored
    · rw [normalChar_of_mem_ignored hc, List.filter_cons_of_neg (by simpa using hc),
        List.nil_append]
    · rw [List.filter_cons_of_pos (by simpa using hc), List.flatMap_cons]
      split
      · rename_i hcolon
        rw [hcolon]
        rfl
      · rename_i hcolon
        rw [normalChar_eq_lower hc hcolon]

theorem settled_of_mem_widerBlanks (hc : c ∈ widerBlanks) : Settled c := by
  have hapart : ∀ c ∈ widerBlanks, c ∉ ignored ∧ c ≠ ':' ∧ c ≠ '\u0130' := by
    simp [widerBlanks, ignored]
  obtain ⟨hignored, hcolon, hdotted⟩ := hapart c hc
  have hnone : image? runs c.toNat = none :=
    image?_runs_of_mem_unmoved (List.mem_cons_of_mem _ List.mem_cons_self)
      (List.mem_map_of_mem hc)
  exact ⟨hignored, hcolon, lower_eq_self hdotted hnone⟩

theorem normal_singleton (hc : Settled c) :
    normal (String.singleton c) = String.singleton c := by
  rw [normal_eq_self_iff, String.toList_singleton]
  intro d hd
  rw [List.mem_singleton.mp hd]
  exact hc

/-- The normal form is a projection: taking it again changes nothing, and it is taken of the parts
of a name one by one. It has no character that is left out, no colon and no capital of ASCII, and a
name is its own normal form if and only if its characters are neither left out nor colons and are
their own lower case. Every character that is kept adds its lower case, in order, a colon apart; so
the capital i with a dot adds two characters, and blanks beyond ASCII add themselves. -/
theorem normal_projects :
    (∀ a, normal (normal a) = normal a) ∧
    (∀ a b, normal (a ++ b) = normal a ++ normal b) ∧
    (∀ a, ∀ c ∈ (normal a).toList, c ∉ ignored ∧ c ≠ ':' ∧ c.isUpper = false) ∧
    (∀ a, normal a = a ↔ ∀ c ∈ a.toList, c ∉ ignored ∧ c ≠ ':' ∧ lower c = [c]) ∧
    (∀ a, (normal a).toList =
      (a.toList.filter (· ∉ ignored)).flatMap fun c => if c = ':' then ['='] else lower c) ∧
    normal "\u0130" = "i\u0307" ∧
    ∀ c ∈ widerBlanks, normal (String.singleton c) = String.singleton c := by
  refine ⟨normal_normal, normal_append, ?_, fun a => normal_eq_self_iff,
    toList_normal_eq_flatMap_filter, by decide,
    fun c hc => normal_singleton (settled_of_mem_widerBlanks hc)⟩
  intro a c hc
  have hsettled := settled_of_mem_normal hc
  exact ⟨hsettled.1, hsettled.2.1, hsettled.isUpper_eq_false⟩

/-- The second character that the capital i with a dot adds is one that stays, and an ideographic
space is kept. -/
theorem normal_projects_dotted :
    '\u0307' ∈ (normal "(Sc:\u0130)").toList ∧
      ('\u0307' ∉ ignored ∧ '\u0307' ≠ ':' ∧ '\u0307'.isUpper = false) ∧
      '\u3000' ∈ widerBlanks ∧ normal (String.singleton '\u3000') = String.singleton '\u3000' := by
  obtain ⟨-, -, hclean, -, -, -, hblank⟩ := normal_projects
  have hmem : '\u0307' ∈ (normal "(Sc:\u0130)").toList := by decide
  have hwide : '\u3000' ∈ widerBlanks := by decide
  exact ⟨hmem, hclean _ _ hmem, hwide, hblank _ hwide⟩

end Unicode.LooseName
end ScannerAlphabet
