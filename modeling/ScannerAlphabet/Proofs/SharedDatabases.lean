import ScannerAlphabet.Unicode.Cache

/-!
# Shared databases

A spelling is accepted for one version only, and the name of a version is one of its spellings.
Whatever is asked of a cache, it therefore keeps only databases of versions, each under the name of
its version and no two under one name, and never gives one up. `sharing_is_transparent` draws from
this that a shared database answers like one that is loaded anew, and that the spellings of one
version, and no others, lead to one entry.
-/
namespace ScannerAlphabet.Unicode

namespace Database

theorem version_ofVersion (v : Version) : (ofVersion v).version = v.name := rfl

/-- Two databases that no question tells apart. -/
structure SameAnswers (db more : Database) : Prop where
  version : db.version = more.version
  maximum : db.maximum = more.maximum
  names : db.names = more.names
  property? : ∀ name, db.property? name = more.property? name
  variants? : ∀ c, db.variants? c = more.variants? c

theorem SameAnswers.refl (db : Database) : db.SameAnswers db :=
  ⟨rfl, rfl, rfl, fun _ => rfl, fun _ => rfl⟩

end Database

namespace Cache
open Database
variable {k : Cache} {v w : Version} {s t name : String} {db : Database}

/-- What can be asked for: a database that may be shared, or one of one's own. -/
inductive Call where
  | shared (version : String)
  | fresh (version : String)
deriving DecidableEq, Repr

/-- The database for a call, and the cache afterwards. -/
def answer (k : Cache) : Call → Except Error Database × Cache
  | .shared version => k.shared version
  | .fresh version => (load version, k)

/-- The cache after some calls. -/
def after (k : Cache) (calls : List Call) : Cache :=
  calls.foldl (fun k call => (k.answer call).2) k

/-- Every database stands under the name of its version, and no name has two. -/
structure Sound (k : Cache) : Prop where
  entries : ∀ entry ∈ k.entries, ∃ v : Version, entry = (v.name, ofVersion v)
  distinct : (k.entries.map Prod.fst).Nodup

theorem mem_of_get? (h : k.get? name = some db) : (name, db) ∈ k.entries := by
  obtain ⟨l, m, hsplit, -⟩ := List.lookup_eq_some_iff.mp h
  rw [hsplit]
  exact List.mem_append_right _ List.mem_cons_self

theorem not_mem_of_get?_eq_none (h : k.get? name = none) : name ∉ k.entries.map Prod.fst := by
  intro hname
  obtain ⟨entry, hentry, rfl⟩ := List.mem_map.mp hname
  have hother := List.lookup_eq_none_iff.mp h entry hentry
  simp at hother

theorem Sound.get?_eq (hk : k.Sound) (h : k.get? v.name = some db) : db = ofVersion v := by
  obtain ⟨w, hw⟩ := hk.entries _ (mem_of_get? h)
  obtain ⟨hname, hdb⟩ := Prod.mk.inj hw
  rw [hdb, Version.name_injective hname]

/-- The cache with a database added that it does not have. -/
def add (k : Cache) (v : Version) : Cache :=
  ⟨(v.name, ofVersion v) :: k.entries⟩

theorem get?_add_self (k : Cache) (v : Version) : (k.add v).get? v.name = some (ofVersion v) :=
  List.lookup_cons_self

theorem get?_add (hv : k.get? v.name = none) (h : k.get? name = some db) :
    (k.add v).get? name = some db := by
  have hname : (name == v.name) = false := by
    rw [beq_eq_false_iff_ne]
    rintro rfl
    rw [hv] at h
    cases h
  rw [get?, add, List.lookup_cons, hname]
  exact h

theorem Sound.add (hk : k.Sound) (hv : k.get? v.name = none) : (k.add v).Sound where
  entries entry hentry := by
    rcases List.mem_cons.mp hentry with hnew | hold
    · exact ⟨v, hnew⟩
    · exact hk.entries entry hold
  distinct := List.nodup_cons.mpr ⟨not_mem_of_get?_eq_none hv, hk.distinct⟩

theorem sound_empty : empty.Sound where
  entries _ h := absurd h List.not_mem_nil
  distinct := List.nodup_nil

theorem shared_of_not_mem_accepted (k : Cache) (h : s ∉ Version.accepted) :
    k.shared s = (.error (.unsupportedVersion s Version.accepted), k) := by
  rw [shared, Version.ofString?_eq_none_iff.mpr h, load_of_not_mem_accepted h]

theorem shared_of_get? (hs : s ∈ v.spellings) (h : k.get? v.name = some db) :
    k.shared s = (.ok db, k) := by
  simp only [shared, Version.ofString?_eq_some_iff.mpr hs, h]

theorem shared_of_get?_eq_none (hs : s ∈ v.spellings) (h : k.get? v.name = none) :
    k.shared s = (.ok (ofVersion v), k.add v) := by
  simp only [shared, Version.ofString?_eq_some_iff.mpr hs, h, load_name, add]

/-- A call leaves the cache as it is, or it adds the database of one more version. -/
theorem answer_cases (k : Cache) (call : Call) : (k.answer call).2 = k ∨
    ∃ v : Version, k.get? v.name = none ∧ (k.answer call).2 = k.add v := by
  cases call with
  | fresh s => exact .inl rfl
  | shared s =>
    by_cases hs : s ∈ Version.accepted
    · obtain ⟨v, hv⟩ := Version.mem_accepted_iff.mp hs
      cases hdb : k.get? v.name with
      | none => exact .inr ⟨v, hdb, by rw [answer, shared_of_get?_eq_none hv hdb]⟩
      | some db => exact .inl (by rw [answer, shared_of_get? hv hdb])
    · exact .inl (by rw [answer, shared_of_not_mem_accepted k hs])

theorem Sound.answer (hk : k.Sound) (call : Call) : (k.answer call).2.Sound := by
  rcases k.answer_cases call with hsame | ⟨v, hv, hadded⟩
  · rw [hsame]
    exact hk
  · rw [hadded]
    exact hk.add hv

theorem get?_answer (h : k.get? name = some db) (call : Call) :
    (k.answer call).2.get? name = some db := by
  rcases k.answer_cases call with hsame | ⟨v, hv, hadded⟩
  · rw [hsame]
    exact h
  · rw [hadded]
    exact get?_add hv h

theorem Sound.after (hk : k.Sound) (calls : List Call) : (k.after calls).Sound := by
  induction calls generalizing k with
  | nil => exact hk
  | cons call calls ih => exact ih (hk.answer call)

/-- A database that is kept once is kept for good. -/
theorem get?_after (h : k.get? name = some db) (calls : List Call) :
    (k.after calls).get? name = some db := by
  induction calls generalizing k with
  | nil => exact h
  | cons call calls ih => exact ih (get?_answer h call)

/-- A spelling of a version leads to the database of the version, which is kept from then on. -/
theorem Sound.shared_of_mem_spellings (hk : k.Sound) (hs : s ∈ v.spellings) :
    (k.shared s).1 = .ok (ofVersion v) ∧ (k.shared s).2.get? v.name = some (ofVersion v) := by
  cases h : k.get? v.name with
  | none =>
    rw [shared_of_get?_eq_none hs h]
    exact ⟨rfl, get?_add_self k v⟩
  | some db =>
    rw [shared_of_get? hs h, hk.get?_eq h]
    exact ⟨rfl, hk.get?_eq h ▸ h⟩

theorem Sound.shared_eq_load (hk : k.Sound) (s : String) : (k.shared s).1 = load s := by
  by_cases hs : s ∈ Version.accepted
  · obtain ⟨v, hv⟩ := Version.mem_accepted_iff.mp hs
    rw [(hk.shared_of_mem_spellings hv).1, load_of_mem_spellings hv]
  · rw [k.shared_of_not_mem_accepted hs, load_of_not_mem_accepted hs]

/-- What it is that sharing changes nothing but who holds a database. The last field is about all
caches, not only sound ones, where an entry and a database loaded anew could not be told apart. -/
structure Transparent (k : Cache) : Prop where
  /-- Every database is kept under the name of its version. -/
  keyed : ∀ name db, (name, db) ∈ k.entries → db.version = name
  /-- No name has two databases. -/
  distinct : (k.entries.map Prod.fst).Nodup
  /-- Shared databases can be had exactly when fresh ones can, for the accepted spellings. -/
  accepts : ∀ s, ((∃ db, (k.shared s).1 = .ok db) ↔ ∃ db, load s = .ok db) ∧
    ((∃ db, load s = .ok db) ↔ s ∈ Version.accepted)
  /-- No question tells a shared database from one that is loaded anew. -/
  agrees : ∀ s ∈ Version.accepted, ∃ db more, (k.shared s).1 = .ok db ∧ load s = .ok more ∧
    db.SameAnswers more
  /-- For another text both fail alike, with all spellings, and the cache stays as it is. -/
  refuses : ∀ s, s ∉ Version.accepted →
    load s = .error (.unsupportedVersion s Version.accepted) ∧
      k.shared s = (.error (.unsupportedVersion s Version.accepted), k)
  /-- A spelling of a version is answered from the entry that another one has led to, however much
  was asked in between. -/
  shares : ∀ (v : Version) (s t : String) (later : List Call), s ∈ v.spellings →
    t ∈ v.spellings → ∃ db, (k.shared s).1 = .ok db ∧ (v.name, db) ∈ (k.shared s).2.entries ∧
      ((k.shared s).2.after later).shared t = (.ok db, (k.shared s).2.after later)
  /-- Spellings of different versions are answered from different entries. -/
  separates : ∀ (v w : Version) (s t : String) (later : List Call), v ≠ w → s ∈ v.spellings →
    t ∈ w.spellings → ∃ db more, (k.shared s).1 = .ok db ∧
      (((k.shared s).2.after later).shared t).1 = .ok more ∧
      (v.name, db) ∈ (((k.shared s).2.after later).shared t).2.entries ∧
      (w.name, more) ∈ (((k.shared s).2.after later).shared t).2.entries ∧
      v.name ≠ w.name ∧ db.version ≠ more.version
  /-- A version with an entry is answered from the entry, whatever that holds. -/
  hits : ∀ (kept : Cache) (v : Version) (s : String) (db : Database), s ∈ v.spellings →
    kept.get? v.name = some db → kept.shared s = (.ok db, kept)

theorem Sound.separates (hk : k.Sound) (hvw : v ≠ w) (hs : s ∈ v.spellings)
    (ht : t ∈ w.spellings) (later : List Call) : ∃ db more, (k.shared s).1 = .ok db ∧
      (((k.shared s).2.after later).shared t).1 = .ok more ∧
      (v.name, db) ∈ (((k.shared s).2.after later).shared t).2.entries ∧
      (w.name, more) ∈ (((k.shared s).2.after later).shared t).2.entries ∧
      v.name ≠ w.name ∧ db.version ≠ more.version := by
  obtain ⟨hdb, hkept⟩ := hk.shared_of_mem_spellings hs
  have hlater : ((k.shared s).2.after later).Sound := (hk.answer (.shared s)).after later
  obtain ⟨hmore, hentry⟩ := hlater.shared_of_mem_spellings ht
  have hstill := get?_answer (get?_after hkept later) (.shared t)
  have hnames : v.name ≠ w.name := fun h => hvw (Version.name_injective h)
  exact ⟨_, _, hdb, hmore, mem_of_get? hstill, mem_of_get? hentry, hnames, hnames⟩

/-- Whatever was asked of a cache that was empty at first, shared databases or fresh ones and with
any texts, sharing is transparent. -/
theorem sharing_is_transparent (history : List Call) : (empty.after history).Transparent := by
  have hk := sound_empty.after history
  constructor
  case keyed =>
    intro name db hentry
    obtain ⟨v, hv⟩ := hk.entries _ hentry
    obtain ⟨rfl, rfl⟩ := Prod.mk.inj hv
    exact version_ofVersion v
  case distinct => exact hk.distinct
  case accepts =>
    intro s
    rw [hk.shared_eq_load s]
    exact ⟨Iff.rfl, exists_load_eq_ok_iff⟩
  case agrees =>
    intro s hs
    obtain ⟨db, hdb⟩ := exists_load_eq_ok_iff.mpr hs
    exact ⟨db, db, (hk.shared_eq_load s).trans hdb, hdb, .refl db⟩
  case refuses =>
    intro s hs
    exact ⟨load_of_not_mem_accepted hs, shared_of_not_mem_accepted _ hs⟩
  case shares =>
    intro v s t later hs ht
    obtain ⟨hdb, hkept⟩ := hk.shared_of_mem_spellings hs
    exact ⟨_, hdb, mem_of_get? hkept, shared_of_get? ht (get?_after hkept later)⟩
  case separates =>
    intro v w s t later hvw hs ht
    exact hk.separates hvw hs ht later
  case hits =>
    intro kept v s db hs hdb
    exact shared_of_get? hs hdb

/-- After a shared database and a failed call, the other spelling of the version is answered from
the same entry, an unknown version is refused, and another version has an entry of its own. A cache
with the database of another version under a name gives that one out. -/
theorem sharing_is_transparent_aliases :
    ("4.0", ofVersion .v4_0) ∈ (empty.after [.shared "4", .fresh "7.0"]).entries ∧
    (ofVersion .v4_0).version = "4.0" ∧ "7.0" ∉ Version.accepted ∧
    (empty.after [.shared "4", .fresh "7.0"]).shared "7.0" =
      (.error (.unsupportedVersion "7.0" Version.accepted),
        empty.after [.shared "4", .fresh "7.0"]) ∧
    "4" ∈ Version.v4_0.spellings ∧ "4.0.1" ∈ Version.v4_0.spellings ∧
    "5" ∈ Version.v5_0.spellings ∧
    (∃ db, ((empty.after [.shared "4", .fresh "7.0"]).shared "4").1 = .ok db ∧
      ((empty.after [.shared "4", .fresh "7.0"]).shared "4").2.shared "4.0.1" =
        (.ok db, ((empty.after [.shared "4", .fresh "7.0"]).shared "4").2)) ∧
    (∃ db more, ((empty.after [.shared "4", .fresh "7.0"]).shared "4").1 = .ok db ∧
      (((empty.after [.shared "4", .fresh "7.0"]).shared "4").2.shared "5").1 = .ok more ∧
      db.version ≠ more.version) ∧
    Cache.get? ⟨[("4.0", ofVersion .v6_0)]⟩ "4.0" = some (ofVersion .v6_0) ∧
    Cache.shared ⟨[("4.0", ofVersion .v6_0)]⟩ "4" =
      (.ok (ofVersion .v6_0), ⟨[("4.0", ofVersion .v6_0)]⟩) := by
  have hfour : "4" ∈ Version.v4_0.spellings := by decide
  have halias : "4.0.1" ∈ Version.v4_0.spellings := by decide
  have hfive : "5" ∈ Version.v5_0.spellings := by decide
  have hunknown : "7.0" ∉ Version.accepted := by decide
  have hk := sharing_is_transparent [.shared "4", .fresh "7.0"]
  have hentry : ("4.0", ofVersion .v4_0) ∈ (empty.after [.shared "4", .fresh "7.0"]).entries :=
    mem_of_get? (get?_answer (sound_empty.shared_of_mem_spellings hfour).2 (.fresh "7.0"))
  obtain ⟨db, hdb, -, hhit⟩ := hk.shares .v4_0 "4" "4.0.1" [] hfour halias
  obtain ⟨_, more, hsame, hmore, -, -, -, hversions⟩ :=
    hk.separates .v4_0 .v5_0 "4" "5" [] (by decide) hfour hfive
  have hkept : Cache.get? ⟨[("4.0", ofVersion .v6_0)]⟩ "4.0" = some (ofVersion .v6_0) :=
    List.lookup_cons_self
  have hgiven := hk.hits ⟨[("4.0", ofVersion .v6_0)]⟩ .v4_0 "4" (ofVersion .v6_0) hfour hkept
  exact ⟨hentry, hk.keyed _ _ hentry, hunknown, (hk.refuses _ hunknown).2, hfour, halias, hfive,
    ⟨db, hdb, hhit⟩, ⟨_, more, hsame, hmore, hversions⟩, hkept, hgiven⟩

end Cache
end ScannerAlphabet.Unicode
