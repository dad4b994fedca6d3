import ScannerAlphabet.Proofs.NameBinding
import ScannerAlphabet.Unicode.Database

/-!
# Looking names up in any spelling

The tables spell every name with characters that are their own normal form, and nothing else is
bound, so each name of a database is its own normal form. A respelling of a name adds characters
that are left out, changes the case of ASCII letters and writes a colon for an equals sign; none
of this changes the normal form. Together, each name is found in every respelling.
-/
namespace ScannerAlphabet.Unicode

namespace LooseName
variable {c d : Char} {k s : List Char} {name : String}

/-- A character that may stand for another one in a name. -/
inductive Variant : Char → Char → Prop
  | same (c : Char) : Variant c c
  /-- ASCII letters only; other characters stay as they are. -/
  | upper (c : Char) : Variant c c.toUpper
  | lower (c : Char) : Variant c c.toLower
  | colon : Variant '=' ':'

/-- The characters of a name in another spelling. -/
inductive Respelling : List Char → List Char → Prop
  | nil : Respelling [] []
  | insert {c : Char} {k s : List Char} (hc : c ∈ ignored) (h : Respelling k s) :
      Respelling k (c :: s)
  | keep {c d : Char} {k s : List Char} (hc : Variant c d) (h : Respelling k s) :
      Respelling (c :: k) (d :: s)

theorem Respelling.refl (k : List Char) : Respelling k k := by
  induction k with
  | nil => exact .nil
  | cons c k ih => exact .keep (.same c) ih

theorem normalChar_of_mem_ignored (hc : c ∈ ignored) : normalChar c = [] :=
  if_pos hc

/-- A fact about ASCII characters follows from finitely many cases. -/
theorem of_ascii {P : Char → Prop} (h : ∀ n < 0x80, P (Char.ofNat n)) (hc : c.toNat < 0x80) :
    P c :=
  Char.ofNat_toNat c ▸ h c.toNat hc

theorem toUpper_of_not_ascii (hc : ¬ c.toNat < 0x80) : c.toUpper = c := by
  have hlast : ¬ c.val ≤ 'z'.val := by
    intro hle
    have hnat : c.toNat ≤ 0x7A := UInt32.le_iff_toNat_le.mp hle
    omega
  exact dif_neg fun h => hlast h.2

theorem toLower_of_not_ascii (hc : ¬ c.toNat < 0x80) : c.toLower = c := by
  have hlast : ¬ c.val ≤ 'Z'.val := by
    intro hle
    have hnat : c.toNat ≤ 0x5A := UInt32.le_iff_toNat_le.mp hle
    omega
  exact dif_neg fun h => hlast h.2

theorem normalChar_toUpper (c : Char) : normalChar c.toUpper = normalChar c := by
  by_cases hc : c.toNat < 0x80
  · exact of_ascii (P := fun c => normalChar c.toUpper = normalChar c) (by decide) hc
  · rw [toUpper_of_not_ascii hc]

theorem normalChar_toLower (c : Char) : normalChar c.toLower = normalChar c := by
  by_cases hc : c.toNat < 0x80
  · exact of_ascii (P := fun c => normalChar c.toLower = normalChar c) (by decide) hc
  · rw [toLower_of_not_ascii hc]

theorem Variant.normalChar_eq (h : Variant c d) : normalChar d = normalChar c := by
  cases h with
  | same => rfl
  | upper => exact normalChar_toUpper c
  | lower => exact normalChar_toLower c
  | colon => decide

theorem Respelling.flatMap_normalChar (h : Respelling k s) :
    s.flatMap normalChar = k.flatMap normalChar := by
  induction h with
  | nil => rfl
  | insert hc _ ih => rw [List.flatMap_cons, normalChar_of_mem_ignored hc, List.nil_append, ih]
  | keep hc _ ih => rw [List.flatMap_cons, List.flatMap_cons, hc.normalChar_eq, ih]

/-- A respelling has the normal form of the name. -/
theorem Respelling.normal_eq {respelled : String} (h : Respelling name.toList respelled.toList) :
    normal respelled = normal name := by
  unfold normal
  rw [h.flatMap_normalChar]

/-- Whether a name has only the characters that names in tables have. -/
def isPlain (name : String) : Bool :=
  name.toList.all fun c => 0x61 ≤ c.toNat && c.toNat ≤ 0x7A || c.toNat = 0x3D

theorem isPlain_append (m n : String) : isPlain (m ++ n) = (isPlain m && isPlain n) := by
  unfold isPlain
  rw [String.toList_append, List.all_append]

theorem normal_of_isPlain (h : isPlain name = true) : normal name = name := by
  have hchars : ∀ c ∈ name.toList, normalChar c = [c] := by
    intro c hc
    have hplain := List.all_eq_true.mp h c hc
    have hascii : c.toNat < 0x80 := by
      simp only [Bool.or_eq_true, Bool.and_eq_true, decide_eq_true_eq] at hplain
      omega
    exact of_ascii (P := fun c => (0x61 ≤ c.toNat && c.toNat ≤ 0x7A || c.toNat = 0x3D) = true →
      normalChar c = [c]) (by decide) hascii hplain
  unfold normal
  rw [List.flatMap_congr hchars, List.flatMap_singleton', String.ofList_toList]

theorem isPlain_singleton {x y : Char} (h : isPlain (String.ofList [x, y]) = true) :
    isPlain (String.singleton x) = true := by
  unfold isPlain at *
  rw [String.toList_ofList, List.all_cons, Bool.and_eq_true] at h
  rw [String.toList_singleton, List.all_cons, h.1]
  rfl

end LooseName

namespace Tables
open LooseName
variable {t : Tables} {n : String} {s : CharSet}

/-- Names that the values and aliases of some tables give are plain, and so are their groups. -/
structure Plain (t : Tables) : Prop where
  values : ∀ v ∈ t.values, isPlain v.1 = true
  aliases : ∀ pair ∈ t.aliases, isPlain pair.1 = true

theorem Plain.of_denotes (h : t.Plain) (hn : t.Denotes n s) : isPlain n = true := by
  cases hn with
  | @value name bounds hv => exact h.values (n, bounds) hv
  | @letter x s hname hs =>
    obtain ⟨y, bounds, hv⟩ := hname
    exact isPlain_singleton (h.values (String.ofList [x, y], bounds) hv)

theorem Plain.of_bindings (h : t.Plain) (ht : t.WellFormed) (hn : t.bindings[n]? = some s) :
    isPlain n = true := by
  rcases ht.bindings_eq_some_iff.mp hn with ⟨rfl, -⟩ | ⟨rfl, -⟩ | ⟨-, -, hdenotes | ⟨-, i, hi⟩⟩
  · decide
  · decide
  · exact h.of_denotes hdenotes
  · obtain ⟨⟨target, htarget, -⟩, -⟩ := hi
    exact h.aliases (n, target) (List.mem_of_getElem? htarget)

theorem WellFormed.mem_bindings_of_alias {target : String} {bounds : List Nat} (ht : t.WellFormed)
    (hvalue : (target, bounds) ∈ t.values) (halias : (n, target) ∈ t.aliases) :
    (t.bindings[n]?).isSome = true := by
  rw [getElem?_bindings]
  split
  · rfl
  · split
    · rfl
    · apply Option.isSome_iff_ne_none.mpr
      intro hnone
      obtain ⟨j, hj⟩ := List.mem_iff_getElem?.mp halias
      have hlength : j < t.aliases.length := (List.getElem?_eq_some_iff.mp hj).choose
      have htarget := (bindingsAfter_eq_none_iff.mp hnone).2 j hlength target hj
      have hunknown := (bindingsAfter_eq_none_iff.mp htarget).1
      rw [ht.bindingsAfter_zero.mpr (.value hvalue)] at hunknown
      cases hunknown

end Tables

namespace Edition
open LooseName

/-- The names of categories, of their groups and of all other values, with their synonyms. -/
def entries : List (String × List String) :=
  (Category.unassigned, Category.unassignedSynonyms) :: Category.groups ++
    allValues.map fun v => (v.name, v.synonyms)

/-- What can stand before a name to say which property it is a value of. -/
def qualifiers : List String :=
  ["gc=", "generalcategory=", "sc=", "script="]

/-- What besides its name can stand for an entry: a synonym, or any of its names behind a
qualifier. -/
def IsAliasOf (entry : String × List String) (n : String) : Prop :=
  n ∈ entry.2 ∨ ∃ q ∈ qualifiers, ∃ m ∈ entry.1 :: entry.2, n = q ++ m

theorem isAliasOf_of_mem_categoryAliases {code : String} {synonyms : List String}
    {pair : String × String} (h : pair ∈ Category.aliasesOf code synonyms) :
    IsAliasOf (code, synonyms) pair.1 := by
  obtain ⟨n, hn, rfl⟩ := List.mem_map.mp h
  rcases List.mem_append.mp hn with hsynonym | hqualified
  · exact .inl hsynonym
  · simp only [List.mem_cons, List.not_mem_nil, or_false] at hqualified
    rcases hqualified with rfl | rfl
    · exact .inr ⟨"gc=", by decide, code, List.mem_cons_self, rfl⟩
    · exact .inr ⟨"generalcategory=", by decide, code, List.mem_cons_self, rfl⟩

theorem isAliasOf_of_mem_scriptAliases {v : PropertyValue} {pair : String × String}
    (h : pair ∈ Script.aliasesOf v) : IsAliasOf (v.name, v.synonyms) pair.1 := by
  obtain ⟨n, hn, rfl⟩ := List.mem_map.mp h
  rcases List.mem_append.mp hn with hsynonym | hqualified
  · exact .inl hsynonym
  · obtain ⟨m, hm, hn⟩ := List.mem_flatMap.mp hqualified
    simp only [List.mem_cons, List.not_mem_nil, or_false] at hn
    rcases hn with rfl | rfl
    · exact .inr ⟨"sc=", by decide, m, hm, rfl⟩
    · exact .inr ⟨"script=", by decide, m, hm, rfl⟩

theorem mem_entries_of_mem_allValues {v : PropertyValue} (h : v ∈ allValues) :
    (v.name, v.synonyms) ∈ entries :=
  List.mem_append_right _ (List.mem_map_of_mem h)

theorem exists_entry_of_mem_aliases {pair : String × String} (h : pair ∈ aliases) :
    ∃ entry ∈ entries, IsAliasOf entry pair.1 := by
  simp only [aliases, Category.aliases, Script.aliases, List.mem_append, List.mem_flatMap,
    List.mem_map] at h
  rcases h with
    (((⟨v, hv, hp⟩ | hp) | ⟨group, hgroup, hp⟩) | ⟨v, hv, hp⟩) | ⟨v, hv, n, hn, rfl⟩
  · have hvalue : v ∈ allValues := List.mem_append_left _ (List.mem_append_left _ hv)
    exact ⟨_, mem_entries_of_mem_allValues hvalue, isAliasOf_of_mem_categoryAliases hp⟩
  · exact ⟨_, List.mem_cons_self, isAliasOf_of_mem_categoryAliases hp⟩
  · exact ⟨group, List.mem_append_left _ (List.mem_cons_of_mem _ hgroup),
      isAliasOf_of_mem_categoryAliases hp⟩
  · have hvalue : v ∈ allValues := List.mem_append_left _ (List.mem_append_right _ hv)
    exact ⟨_, mem_entries_of_mem_allValues hvalue, isAliasOf_of_mem_scriptAliases hp⟩
  · exact ⟨_, mem_entries_of_mem_allValues (List.mem_append_right _ hv), .inl hn⟩

theorem isPlain_entries : ∀ entry ∈ entries, ∀ n ∈ entry.1 :: entry.2, isPlain n = true := by
  decide +kernel

theorem isPlain_qualifiers : ∀ q ∈ qualifiers, isPlain q = true := by
  decide

theorem isPlain_names : ∀ name ∈ names, isPlain name = true := by
  intro name hname
  rcases List.mem_cons.mp hname with rfl | hvalue
  · exact isPlain_entries _ List.mem_cons_self _ List.mem_cons_self
  · obtain ⟨v, hv, rfl⟩ := List.mem_map.mp hvalue
    exact isPlain_entries _ (mem_entries_of_mem_allValues hv) _ List.mem_cons_self

theorem isPlain_aliases : ∀ pair ∈ aliases, isPlain pair.1 = true := by
  intro pair hpair
  obtain ⟨entry, hentry, hsynonym | ⟨q, hq, m, hm, hn⟩⟩ := exists_entry_of_mem_aliases hpair
  · exact isPlain_entries entry hentry _ (List.mem_cons_of_mem _ hsynonym)
  · rw [hn, isPlain_append, isPlain_qualifiers q hq, isPlain_entries entry hentry m hm]
    rfl

theorem values_tables (v : Version) :
    (tables v).values = valuesIn v (Repertoire.assigned v) := by
  simp only [tables]

theorem aliases_tables (v : Version) : (tables v).aliases = aliases := by
  simp only [tables]

theorem plain_tables (v : Version) : (tables v).Plain := by
  constructor
  · intro value hv
    rw [values_tables] at hv
    exact isPlain_names _ (sublist_names.subset (List.mem_map_of_mem hv))
  · intro pair hpair
    rw [aliases_tables] at hpair
    exact isPlain_aliases pair hpair

end Edition

namespace Database
open LooseName
variable {v : Version} {k s : String}

theorem mem_names_iff {db : Database} : k ∈ db.names ↔ (db.bindings[k]?).isSome = true := by
  unfold names
  rw [Std.TreeMap.mem_keys, Std.TreeMap.mem_iff_isSome_getElem?]

/-- Every name of a database is its own normal form. -/
theorem normal_of_mem_names (hk : k ∈ (ofVersion v).names) : normal k = k := by
  obtain ⟨set, hset⟩ := Option.isSome_iff_exists.mp (mem_names_iff.mp hk)
  exact normal_of_isPlain
    ((Edition.plain_tables v).of_bindings (Edition.wellFormed_tables v) hset)

theorem property?_of_respelling (hk : k ∈ (ofVersion v).names)
    (hs : Respelling k.toList s.toList) : ∃ set, (ofVersion v).bindings[k]? = some set ∧
      (ofVersion v).property? s = some set := by
  obtain ⟨set, hset⟩ := Option.isSome_iff_exists.mp (mem_names_iff.mp hk)
  refine ⟨set, hset, ?_⟩
  rw [property?, hs.normal_eq, normal_of_mem_names hk, hset]

/-- Looking names up in the database of any accepted version: every name is found in every
respelling, itself included, and a text is found if and only if its normal form is a name. -/
theorem property?_ignores_spelling {spelling : String} (h : spelling ∈ Version.accepted) :
    ∃ db, load spelling = .ok db ∧
      (∀ k ∈ db.names, ∀ s, Respelling k.toList s.toList →
        ∃ set, db.bindings[k]? = some set ∧ db.property? s = some set) ∧
      (∀ k ∈ db.names, ∃ set, db.bindings[k]? = some set ∧ db.property? k = some set) ∧
      ∀ s, (db.property? s).isSome = true ↔ normal s ∈ db.names := by
  obtain ⟨v, hv⟩ := Version.mem_accepted_iff.mp h
  refine ⟨ofVersion v, load_of_mem_spellings hv, ?_, ?_, ?_⟩
  · intro k hk s hs
    exact property?_of_respelling hk hs
  · intro k hk
    exact property?_of_respelling hk (Respelling.refl k.toList)
  · intro s
    exact mem_names_iff.symm

/-- An alias of a script is found in capitals, with a colon and with blanks and brackets. -/
theorem property?_ignores_spelling_greek :
    "4.0" ∈ Version.accepted ∧ ∃ db, load "4.0" = .ok db ∧ "sc=greek" ∈ db.names ∧
      ∃ set, db.bindings["sc=greek"]? = some set ∧ db.property? " Sc: (GREEK)" = some set := by
  have haccepted : "4.0" ∈ Version.accepted := by decide
  obtain ⟨db, hdb, hfound, -, -⟩ := property?_ignores_spelling haccepted
  have hversion : db = ofVersion .v4_0 := by
    have hload : load "4.0" = .ok (ofVersion .v4_0) := load_name .v4_0
    rw [hload] at hdb
    exact (Except.ok.inj hdb).symm
  have hname : "sc=greek" ∈ db.names := by
    have hgreek : Script.greek ∈ Script.values := by simp [Script.values]
    have hvalue : ∃ bounds, ("greek", bounds) ∈ (Edition.tables .v4_0).values := by
      rw [Edition.values_tables]
      exact ⟨_, List.mem_cons_of_mem _ (List.mem_map.mpr ⟨Script.greek, List.mem_filter.mpr
        ⟨List.mem_append_left _ (List.mem_append_right _ hgreek), rfl⟩, rfl⟩)⟩
    have halias : ("sc=greek", "greek") ∈ (Edition.tables .v4_0).aliases := by
      rw [Edition.aliases_tables]
      exact List.mem_append_left _ (List.mem_append_right _
        (List.mem_flatMap.mpr ⟨Script.greek, hgreek, by decide⟩))
    obtain ⟨bounds, hbounds⟩ := hvalue
    rw [mem_names_iff, hversion]
    exact (Edition.wellFormed_tables .v4_0).mem_bindings_of_alias hbounds halias
  have hrespelling : Respelling "sc=greek".toList " Sc: (GREEK)".toList :=
    .insert (by decide) (.keep (.upper 's') (.keep (.same 'c') (.keep .colon
      (.insert (by decide) (.insert (by decide) (.keep (.upper 'g') (.keep (.upper 'r')
        (.keep (.upper 'e') (.keep (.upper 'e') (.keep (.upper 'k')
          (.insert (by decide) .nil)))))))))))
  exact ⟨haccepted, db, hdb, hname, hfound _ hname _ hrespelling⟩

end Database
end ScannerAlphabet.Unicode
