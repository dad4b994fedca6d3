import ScannerAlphabet.Proofs.LooseLookup

/-!
# Names of one letter

A name of one letter is bound as the group of the names of two letters that begin with it. No alias
is that short, so it stands for the union of what those names stand for. Nearly all of them are
codes of categories, and their first letters are the seven that name groups of categories. The
one other name of two letters is that of the script Yi, which makes a letter known that names no
group of categories, in all versions that have the script.
-/
namespace ScannerAlphabet.Unicode

namespace Category

/-- The letters that name groups of categories. -/
def groupLetters : List Char :=
  groups.flatMap fun group => group.1.toList

example : groupLetters = ['c', 'm', 'l', 'n', 'p', 's', 'z'] := by
  decide

theorem map_singleton_groupLetters :
    groupLetters.map String.singleton = groups.map Prod.fst := by
  decide

theorem mem_groupLetters_iff {x : Char} :
    x ∈ groupLetters ↔ String.singleton x ∈ groups.map Prod.fst := by
  rw [← map_singleton_groupLetters]
  exact (List.mem_map_of_injective fun _ _ => String.singleton_inj.mp).symm

/-- The codes of all categories. -/
def codes : List String :=
  unassigned :: values.map PropertyValue.name

/-- The codes of the categories in the group of a letter. -/
def codesOf (x : Char) : List String :=
  codes.filter fun code => Bindings.groupOf? code = some (String.singleton x)

end Category

theorem Tables.WellFormed.denotes_letter_iff {t : Tables} {x : Char} {s : CharSet}
    (ht : t.WellFormed) : t.Denotes (String.singleton x) s ↔
      (∃ y bounds, (String.ofList [x, y], bounds) ∈ t.values) ∧ ∀ c, c ∈ s ↔
        ∃ y bounds, (String.ofList [x, y], bounds) ∈ t.values ∧ c ∈ CharSet.unpack bounds := by
  constructor
  · intro h
    generalize hn : String.singleton x = n at h
    cases h with
    | value hv =>
      have hlong := ht.long _ hv
      rw [← hn, String.length_singleton] at hlong
      omega
    | @letter x' s hname hs =>
      obtain rfl := String.singleton_inj.mp hn
      exact ⟨hname, hs⟩
  · intro ⟨hname, hs⟩
    exact .letter hname hs

namespace Edition
variable {v : Version} {x y : Char} {n : String} {s : CharSet}

theorem length_synonyms : ∀ entry ∈ entries, ∀ n ∈ entry.2, 3 ≤ n.length := by
  decide +kernel

theorem length_qualifiers : ∀ q ∈ qualifiers, 3 ≤ q.length := by
  decide

theorem length_aliases : ∀ pair ∈ aliases, 3 ≤ pair.1.length := by
  intro pair hpair
  obtain ⟨entry, hentry, hsynonym | ⟨q, hq, m, -, hn⟩⟩ := exists_entry_of_mem_aliases hpair
  · exact length_synonyms entry hentry _ hsynonym
  · rw [hn, String.length_append]
    exact Nat.le_add_right_of_le (length_qualifiers q hq)

theorem groupOf?_names : ∀ name ∈ names, Bindings.groupOf? name = none ∨ name = "yi" ∨
    name ∈ Category.codes ∧
      ∃ group ∈ Category.groups.map Prod.fst, Bindings.groupOf? name = some group := by
  decide +kernel

theorem exists_code_of_mem_groups : ∀ group ∈ Category.groups.map Prod.fst,
    ∃ p ∈ Category.values, p.since.rank = 0 ∧ Bindings.groupOf? p.name = some group := by
  decide

/-- A name of less than three letters is no alias and is not fixed. -/
theorem bindings_eq_some_iff_of_length_lt (hn : n.length < 3) :
    (tables v).bindings[n]? = some s ↔ (tables v).Denotes n s := by
  rw [(wellFormed_tables v).bindings_eq_some_iff]
  constructor
  · rintro (⟨rfl, -⟩ | ⟨rfl, -⟩ | ⟨-, -, hdenotes | ⟨-, i, ⟨target, htarget, -⟩, -⟩⟩)
    · exact absurd hn (by decide)
    · exact absurd hn (by decide)
    · exact hdenotes
    · have halias := List.mem_of_getElem? htarget
      rw [aliases_tables] at halias
      exact absurd hn (Nat.not_lt.mpr (length_aliases _ halias))
  · intro h
    obtain ⟨hascii, hany⟩ := (wellFormed_tables v).unfixed_of_denotes h
    exact .inr (.inr ⟨hascii, hany, .inl h⟩)

theorem bindings_two_letters_iff : (tables v).bindings[String.ofList [x, y]]? = some s ↔
    ∃ bounds, (String.ofList [x, y], bounds) ∈ (tables v).values ∧ CharSet.unpack bounds = s := by
  have hlength : (String.ofList [x, y]).length = 2 := String.length_ofList
  rw [bindings_eq_some_iff_of_length_lt (by omega)]
  constructor
  · intro h
    generalize String.ofList [x, y] = n at h hlength
    cases h with
    | value hv => exact ⟨_, hv, rfl⟩
    | letter hname hs =>
      rw [String.length_singleton] at hlength
      omega
  · rintro ⟨bounds, hv, rfl⟩
    exact .value hv

/-- A letter stands for the union of what the names of two letters that begin with it stand for. -/
theorem bindings_letter_iff : (tables v).bindings[String.singleton x]? = some s ↔
    (∃ y u, (tables v).bindings[String.ofList [x, y]]? = some u) ∧
      ∀ c, c ∈ s ↔ ∃ y u, (tables v).bindings[String.ofList [x, y]]? = some u ∧ c ∈ u := by
  rw [bindings_eq_some_iff_of_length_lt (by simp), (wellFormed_tables v).denotes_letter_iff]
  simp only [bindings_two_letters_iff]
  grind

theorem exists_bindings_letter_iff : (∃ s, (tables v).bindings[String.singleton x]? = some s) ↔
    ∃ y u, (tables v).bindings[String.ofList [x, y]]? = some u := by
  constructor
  · intro ⟨s, hs⟩
    exact (bindings_letter_iff.mp hs).1
  · intro ⟨y, u, hu⟩
    obtain ⟨bounds, hv, -⟩ := bindings_two_letters_iff.mp hu
    exact ⟨_, (bindings_eq_some_iff_of_length_lt (by simp)).mpr
      (.letter ⟨y, bounds, hv⟩ fun c => Tables.mem_foldl_groupSets)⟩

/-- What is bound to a name of two letters is a category, in the group of its first letter, or the
script with such a name. -/
theorem code_or_yi (h : (tables v).bindings[String.ofList [x, y]]? = some s) :
    String.ofList [x, y] = "yi" ∨
      String.ofList [x, y] ∈ Category.codesOf x ∧ x ∈ Category.groupLetters := by
  obtain ⟨bounds, hv, -⟩ := bindings_two_letters_iff.mp h
  rw [values_tables] at hv
  have hgroup : Bindings.groupOf? (String.ofList [x, y]) = some (String.singleton x) :=
    Bindings.groupOf?_eq_some_iff.mpr ⟨x, y, rfl, rfl⟩
  rcases groupOf?_names _ (sublist_names.subset (List.mem_map_of_mem hv)) with
    hnone | hyi | ⟨hcode, group, hmem, hgroup'⟩
  · rw [hgroup] at hnone
    cases hnone
  · exact .inl hyi
  · obtain rfl := Option.some.inj (hgroup.symm.trans hgroup')
    exact .inr ⟨List.mem_filter.mpr ⟨hcode, decide_eq_true hgroup⟩,
      Category.mem_groupLetters_iff.mpr hmem⟩

theorem bindings_of_since {p : PropertyValue} (hp : p ∈ allValues)
    (hsince : p.since.rank ≤ v.rank) (hname : p.name = String.ofList [x, y]) :
    (tables v).bindings[String.ofList [x, y]]? =
      some (CharSet.unpack p.bounds ∩ Repertoire.assigned v) := by
  have hv : (p.name, restrict (Repertoire.assigned v) p.bounds) ∈ (tables v).values := by
    rw [values_tables]
    exact List.mem_cons_of_mem _
      (List.mem_map.mpr ⟨p, List.mem_filter.mpr ⟨hp, decide_eq_true hsince⟩, rfl⟩)
  rw [hname] at hv
  exact bindings_two_letters_iff.mpr ⟨_, hv, CharSet.unpack_pack _⟩

theorem name_mem_names {p : PropertyValue} (hp : p ∈ allValues) : p.name ∈ names :=
  List.mem_cons_of_mem _ (List.mem_map_of_mem hp)

theorem mem_names_of_mem_codes {code : String} (h : code ∈ Category.codes) : code ∈ names := by
  rcases List.mem_cons.mp h with rfl | hvalue
  · exact List.mem_cons_self
  · obtain ⟨p, hp, rfl⟩ := List.mem_map.mp hvalue
    exact name_mem_names (List.mem_append_left _ (List.mem_append_left _ hp))

theorem yi_mem_allValues : Script.yi ∈ allValues := by
  simp [allValues, Script.values]

theorem eq_yi_of_name_eq {p : PropertyValue} (hp : p ∈ allValues) (hname : p.name = "yi") :
    p = Script.yi := by
  have hdistinct : (allValues.map PropertyValue.name).Nodup :=
    nodup_names.sublist (.cons _ (.cons _ (.cons _ (.refl _))))
  exact List.inj_on_of_nodup_map hdistinct hp yi_mem_allValues hname

theorem exists_bindings_yi_iff :
    (∃ u, (tables v).bindings["yi"]? = some u) ↔ Version.v3_0.rank ≤ v.rank := by
  constructor
  · intro ⟨u, hu⟩
    obtain ⟨bounds, hv, -⟩ := bindings_two_letters_iff (x := 'y') (y := 'i').mp hu
    rw [values_tables] at hv
    rcases List.mem_cons.mp hv with hcode | hvalue
    · have hname : "yi" = Category.unassigned := congrArg Prod.fst hcode
      exact absurd hname (by decide)
    · obtain ⟨p, hp, hname⟩ := List.mem_map.mp hvalue
      obtain ⟨hp, hsince⟩ := List.mem_filter.mp hp
      rw [eq_yi_of_name_eq hp (congrArg Prod.fst hname)] at hsince
      exact of_decide_eq_true hsince
  · intro hsince
    exact ⟨_, bindings_of_since (x := 'y') (y := 'i') yi_mem_allValues hsince rfl⟩

/-- A letter is known if it names a group of categories, or as the first letter of the script. -/
theorem exists_bindings_letter_iff_group_or_y :
    (∃ s, (tables v).bindings[String.singleton x]? = some s) ↔
      x ∈ Category.groupLetters ∨ x = 'y' ∧ Version.v3_0.rank ≤ v.rank := by
  rw [exists_bindings_letter_iff]
  constructor
  · intro ⟨y, u, hu⟩
    rcases code_or_yi hu with hyi | ⟨-, hx⟩
    · have hx : x = 'y' := (List.cons.inj (String.ofList_injective hyi)).1
      rw [hyi] at hu
      exact .inr ⟨hx, exists_bindings_yi_iff.mp ⟨u, hu⟩⟩
    · exact .inl hx
  · rintro (hx | ⟨rfl, hsince⟩)
    · obtain ⟨p, hp, hrank, hgroup⟩ :=
        exists_code_of_mem_groups _ (Category.mem_groupLetters_iff.mp hx)
      obtain ⟨x', y, hname, hx'⟩ := Bindings.groupOf?_eq_some_iff.mp hgroup
      obtain rfl := String.singleton_inj.mp hx'
      have hvalue : p ∈ allValues := List.mem_append_left _ (List.mem_append_left _ hp)
      exact ⟨y, _, bindings_of_since hvalue (by omega) hname⟩
    · exact ⟨'i', exists_bindings_yi_iff.mpr hsince⟩

/-- A letter that names a group stands for the union of the categories of the group. -/
theorem mem_group_iff {c : Nat} (hx : x ∈ Category.groupLetters)
    (hs : (tables v).bindings[String.singleton x]? = some s) :
    c ∈ s ↔ ∃ code ∈ Category.codesOf x, ∃ u, (tables v).bindings[code]? = some u ∧ c ∈ u := by
  rw [(bindings_letter_iff.mp hs).2]
  constructor
  · intro ⟨y, u, hu, hc⟩
    rcases code_or_yi hu with hyi | ⟨hcode, -⟩
    · obtain ⟨rfl, -⟩ := List.cons.inj (String.ofList_injective hyi)
      exact absurd hx (by decide)
    · exact ⟨_, hcode, u, hu, hc⟩
  · intro ⟨code, hcode, u, hu, hc⟩
    obtain ⟨x', y, rfl, hx'⟩ := Bindings.groupOf?_eq_some_iff.mp
      (of_decide_eq_true (List.mem_filter.mp hcode).2)
    obtain rfl := String.singleton_inj.mp hx'
    exact ⟨y, u, hu, hc⟩

theorem bindings_y (v : Version) : (tables v).bindings["y"]? = (tables v).bindings["yi"]? := by
  have honly : ∀ y u, (tables v).bindings[String.ofList ['y', y]]? = some u →
      (tables v).bindings["yi"]? = some u := by
    intro y u hu
    rcases code_or_yi hu with hyi | ⟨-, hx⟩
    · exact hyi ▸ hu
    · exact absurd hx (by decide)
  apply Option.ext
  intro s
  constructor
  · intro hs
    obtain ⟨⟨y, u, hu⟩, hmem⟩ := bindings_letter_iff (x := 'y').mp hs
    have hsame : s = u := by
      apply CharSet.ext_of_mem_iff
      intro c
      rw [hmem]
      constructor
      · intro ⟨y', u', hu', hc⟩
        rwa [Option.some.inj ((honly y u hu).symm.trans (honly y' u' hu'))]
      · intro hc
        exact ⟨y, u, hu, hc⟩
    rw [hsame]
    exact honly y u hu
  · intro hs
    apply bindings_letter_iff (x := 'y').mpr
    refine ⟨⟨'i', s, hs⟩, fun c => ⟨fun hc => ⟨'i', s, hs, hc⟩, ?_⟩⟩
    intro ⟨y, u, hu, hc⟩
    rwa [Option.some.inj (hs.symm.trans (honly y u hu))]

end Edition

namespace Database
open LooseName
variable {v : Version} {name s : String} {x : Char}

theorem property?_of_mem_names (h : name ∈ Edition.names) :
    (ofVersion v).property? name = (Edition.tables v).bindings[name]? := by
  rw [property?, normal_of_isPlain (Edition.isPlain_names name h)]
  rfl

theorem property?_of_normal_eq (h : normal s = String.singleton x) :
    (ofVersion v).property? s = (Edition.tables v).bindings[String.singleton x]? := by
  rw [property?, h]
  rfl

theorem property?_yi : (ofVersion v).property? "yi" = (Edition.tables v).bindings["yi"]? :=
  property?_of_mem_names (Edition.name_mem_names Edition.yi_mem_allValues)

/-- Looking up a text whose normal form is one letter, in the database of any accepted version. The
letter is known if it names a group of categories, and stands for the union of the categories in the
group. The only other one is the first letter of the script Yi, in the versions with that script; it
stands for what the script stands for. -/
theorem property?_of_one_letter {spelling : String} (h : spelling ∈ Version.accepted) :
    ∃ v db, Version.ofString? spelling = some v ∧ load spelling = .ok db ∧
      ∀ s x, normal s = String.singleton x →
        ((db.property? s).isSome = true ↔
          x ∈ Category.groupLetters ∨ x = 'y' ∧ Version.v3_0.rank ≤ v.rank) ∧
        (x ∈ Category.groupLetters → ∃ set, db.property? s = some set ∧ ∀ c, c ∈ set ↔
          ∃ code ∈ Category.codesOf x, ∃ u, db.property? code = some u ∧ c ∈ u) ∧
        (x = 'y' → db.property? s = db.property? "yi") := by
  obtain ⟨v, hv⟩ := Version.mem_accepted_iff.mp h
  refine ⟨v, ofVersion v, Version.ofString?_eq_some_iff.mpr hv, load_of_mem_spellings hv, ?_⟩
  intro s x hs
  rw [property?_of_normal_eq hs]
  refine ⟨?_, ?_, ?_⟩
  · rw [Option.isSome_iff_exists]
    exact Edition.exists_bindings_letter_iff_group_or_y
  · intro hx
    obtain ⟨set, hset⟩ := Edition.exists_bindings_letter_iff_group_or_y.mpr (.inl hx)
    refine ⟨set, hset, fun c => (Edition.mem_group_iff hx hset).trans ?_⟩
    apply exists_congr
    intro code
    apply and_congr_right
    intro hcode
    rw [property?_of_mem_names (Edition.mem_names_of_mem_codes (List.mem_of_mem_filter hcode))]
  · rintro rfl
    rw [property?_yi]
    exact Edition.bindings_y v

/-- In the latest version a group is found in capitals and with brackets, the script by its first
letter, and another letter is not found. -/
theorem property?_of_one_letter_latest : "6.0" ∈ Version.accepted ∧ ∃ db, load "6.0" = .ok db ∧
    (∃ set, db.property? " (L) " = some set ∧ ∀ c, c ∈ set ↔
      ∃ code ∈ Category.codesOf 'l', ∃ u, db.property? code = some u ∧ c ∈ u) ∧
    (db.property? "Y").isSome = true ∧ db.property? "b" = none := by
  have haccepted : "6.0" ∈ Version.accepted := by decide
  obtain ⟨v, db, hv, hdb, hletter⟩ := property?_of_one_letter haccepted
  obtain rfl : v = .v6_0 := Option.some.inj (hv.symm.trans (Version.ofString?_name .v6_0))
  have hgroup := (hletter " (L) " 'l' (by decide)).2.1 (by decide)
  have hscript := (hletter "Y" 'y' (by decide)).1.mpr (.inr ⟨rfl, by decide⟩)
  have hunknown : ¬ (db.property? "b").isSome = true := fun hsome =>
    absurd ((hletter "b" 'b' (by decide)).1.mp hsome) (by decide)
  exact ⟨haccepted, db, hdb, hgroup, hscript, Option.not_isSome_iff_eq_none.mp hunknown⟩

/-- One letter is known that names no group of categories, and it stands for characters of a
script. -/
theorem property?_of_letter_of_script : "6.0" ∈ Version.accepted ∧
    normal "y" = String.singleton 'y' ∧ 'y' ∉ Category.groupLetters ∧
    ∃ db set, load "6.0" = .ok db ∧ db.property? "y" = some set ∧ db.property? "yi" = some set ∧
      set.contains 0xA000 = true := by
  have hload : load "6.0" = .ok (ofVersion .v6_0) := load_name .v6_0
  have hset : (Edition.tables .v6_0).bindings["yi"]? =
      some (CharSet.unpack Script.yi.bounds ∩ Repertoire.assigned .v6_0) :=
    Edition.bindings_of_since (x := 'y') (y := 'i') Edition.yi_mem_allValues (by decide) rfl
  have hmem : 0xA000 ∈ CharSet.unpack Script.yi.bounds ∩ Repertoire.assigned .v6_0 := by
    rw [CharSet.mem_inter, ← CharSet.contains_eq_true_iff, ← CharSet.contains_eq_true_iff]
    decide +kernel
  refine ⟨by decide, by decide, by decide, _, _, hload, ?_, ?_,
    CharSet.contains_eq_true_iff.mpr hmem⟩
  · rw [property?_of_normal_eq (x := 'y') (by decide)]
    exact (Edition.bindings_y _).trans hset
  · exact property?_yi.trans hset

end Database

end ScannerAlphabet.Unicode
