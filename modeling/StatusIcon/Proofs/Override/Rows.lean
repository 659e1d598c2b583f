/-
# StatusIcon.Proofs.Override.Rows -- rows have the columns that were asked for

A store, of either kind, matches a query with the first record of the selected package
(`OverrideStore.Matches`) and answers with a row made of it.  Of the projection it only counts which
of the two known columns are in it: these have their values, and every other column is missing
(`OverrideRow.Shows`), however often and in which order columns were asked for.  Two rows that show
one record under the same known columns are told apart by no reader (`Shows.get_eq`,
`Shows.icon_eq`).  `exists_row_shows` puts this together for all stores and queries.
-/
import StatusIcon.Proofs.Override.Refinement

set_option autoImplicit false

namespace StatusIcon

/-! ## Rows -/

namespace OverrideRow

/-- The row has the known columns that are in the projection, and misses all others. -/
structure Shows (row : OverrideRow) (record : OverrideRecord) (projection : List String) :
    Prop where
  package : "packageName" ∈ projection → row.get "packageName" = .ok record.package
  text : "iconBitmap" ∈ projection → row.get "iconBitmap" = .ok record.icon
  icon : "iconBitmap" ∈ projection →
    ∀ library, row.icon library = Icon.ofText library record.icon
  noIcon : "iconBitmap" ∉ projection →
    ∀ library, row.icon library = .error (.missingColumn "iconBitmap")
  missing : ∀ column, column ∉ projection ∨ column ≠ "packageName" ∧ column ≠ "iconBitmap" →
    row.get column = .error (.missingColumn column)

theorem get_of_lookup_none {row : OverrideRow} {column : String}
    (none : row.columns.lookup column = none) :
    row.get column = .error (.missingColumn column) := by
  rw [get, none]

theorem shows_ofRecord (record : OverrideRecord) (projection : List String) :
    (ofRecord record projection).Shows record projection where
  package asked := (carries_ofRecord record projection _ _).mpr ⟨asked, rfl⟩
  text asked := (carries_ofRecord record projection _ _).mpr ⟨asked, rfl⟩
  icon asked library := icon_ofRecord library record asked
  noIcon unasked library := by
    have missing : (ofRecord record projection).get Column.iconBitmap = .error _ :=
      get_of_lookup_none ((lookup_ofRecord record projection _).trans (if_neg unasked))
    rw [icon, missing]
    rfl
  missing := by
    rintro column (unasked | ⟨notPackage, notIcon⟩)
    · exact get_of_lookup_none ((lookup_ofRecord record projection _).trans (if_neg unasked))
    · have unknown : record.column? column = none := by
        rw [OverrideRecord.column?, if_neg, if_neg]
        · exact notIcon
        · exact notPackage
      apply get_of_lookup_none
      rw [lookup_ofRecord, unknown, ite_self]

/-- The projections have the same known columns in them. -/
def SameColumns (p q : List String) : Prop :=
  ("packageName" ∈ p ↔ "packageName" ∈ q) ∧ ("iconBitmap" ∈ p ↔ "iconBitmap" ∈ q)

section

variable {row other : OverrideRow} {record : OverrideRecord} {p q : List String}

theorem Shows.get_eq (shows : row.Shows record p) (shows' : other.Shows record q)
    (same : SameColumns p q) (column : String) : other.get column = row.get column := by
  by_cases package : column = "packageName"
  · subst package
    by_cases asked : "packageName" ∈ p
    · rw [shows.package asked, shows'.package (same.1.mp asked)]
    · rw [shows.missing _ (.inl asked), shows'.missing _ (.inl (same.1.not.mp asked))]
  by_cases icon : column = "iconBitmap"
  · subst icon
    by_cases asked : "iconBitmap" ∈ p
    · rw [shows.text asked, shows'.text (same.2.mp asked)]
    · rw [shows.missing _ (.inl asked), shows'.missing _ (.inl (same.2.not.mp asked))]
  · rw [shows.missing _ (.inr ⟨package, icon⟩), shows'.missing _ (.inr ⟨package, icon⟩)]

theorem Shows.icon_eq (shows : row.Shows record p) (shows' : other.Shows record q)
    (same : SameColumns p q) (library : Image.Library) : other.icon library = row.icon library := by
  unfold OverrideRow.icon
  rw [shows.get_eq shows' same]

end

end OverrideRow

/-! ## Stores -/

/-- A row is made of a record that the query selects. -/
theorem MemoryStore.exists_of_value_provider (s : MemoryStore) {query : OverrideQuery}
    {row : OverrideRow} (answer : (s.provider query).value = .ok (some row)) :
    ∃ record, query.Selects s.uri record.package ∧ s.find? record.package = some record := by
  cases addressed : query.contentUri with
  | error e =>
      rw [s.value_provider_of_error addressed] at answer
      cases answer
  | ok uri =>
      by_cases here : uri = s.uri
      · subst here
        cases selected : query.package? with
        | none =>
            rw [s.value_provider_of_other addressed (.inr selected)] at answer
            cases answer
        | some package =>
            obtain ⟨selection, argument⟩ := OverrideQuery.package?_eq_some_iff.mp selected
            have selects : query.Selects s.uri package := ⟨addressed, selection, argument⟩
            rw [s.value_provider_of_selects selects] at answer
            obtain ⟨record, found, -⟩ := Option.map_eq_some_iff.mp (Except.ok.inj answer)
            obtain ⟨-, rfl⟩ := find?_eq_some_iff_firstIn.mp found
            exact ⟨record, selects, found⟩
      · rw [s.value_provider_of_other addressed (.inl here)] at answer
        cases answer

/-- Only the first argument is looked at. -/
theorem OverrideProvider.ofRecords_arguments (served : ContentUri) (records : List OverrideRecord)
    (query : OverrideQuery) {arguments : List String}
    (same : arguments.head? = query.arguments.head?) :
    ofRecords served records { query with arguments := arguments } =
      ofRecords served records query := by
  have package : ({ query with arguments := arguments } : OverrideQuery).package? =
      query.package? := by
    unfold OverrideQuery.package?
    rw [same]
  unfold ofRecords
  rw [package]
  rfl

/-- A store in memory or in a file. -/
inductive OverrideStore where
  | memory (s : MemoryStore)
  | file (s : FileStore)

namespace OverrideStore

def provider : OverrideStore → OverrideProvider
  | .memory s => s.provider
  | .file s => s.provider

/-- The address at which the store is served. -/
def uri : OverrideStore → ContentUri
  | .memory s => s.uri
  | .file _ => .default

/-- The records that are in the store; a file may have none to give, not even an empty list. -/
def Has : OverrideStore → List OverrideRecord → Prop
  | .memory s, records => s.records = records
  | .file s, records => FileStore.Holds s.content records

/-- The record is the first one of the package that the query selects. -/
def Matches (store : OverrideStore) (query : OverrideQuery) (record : OverrideRecord) : Prop :=
  query.Selects store.uri record.package ∧ ∃ records, store.Has records ∧ FirstIn records record

variable (store : OverrideStore)

theorem Has.provider_eq {store : OverrideStore} {records : List OverrideRecord}
    (has : store.Has records) : store.provider = MemoryStore.provider ⟨store.uri, records⟩ := by
  cases store with
  | memory s =>
      obtain rfl : s.records = records := has
      rfl
  | file s => exact FileStore.provider_eq_of_holds s.path has

theorem exists_has_of_value_provider {query : OverrideQuery} {row : OverrideRow}
    (answer : (store.provider query).value = .ok (some row)) : ∃ records, store.Has records := by
  cases store with
  | memory s => exact ⟨s.records, rfl⟩
  | file s =>
      by_contra none
      obtain ⟨reason, failed⟩ :=
        FileStore.provider_of_not_holds s.path (not_exists.mp none) query
      have answer' : (s.provider query).value = .ok (some row) := answer
      rw [failed] at answer'
      cases answer'

theorem Matches.value_provider {store : OverrideStore} {query : OverrideQuery}
    {record : OverrideRecord} (found : store.Matches query record) :
    (store.provider query).value = .ok (some (.ofRecord record query.projection)) := by
  obtain ⟨selects, records, has, first⟩ := found
  have find := find?_eq_some_iff_firstIn.mpr ⟨first, rfl⟩
  rw [has.provider_eq, MemoryStore.value_provider_of_selects _ selects, MemoryStore.find?, find]
  rfl

theorem exists_matches {query : OverrideQuery} {row : OverrideRow}
    (answer : (store.provider query).value = .ok (some row)) :
    ∃ record, store.Matches query record := by
  obtain ⟨records, has⟩ := store.exists_has_of_value_provider answer
  rw [has.provider_eq] at answer
  obtain ⟨record, selects, found⟩ := MemoryStore.exists_of_value_provider _ answer
  exact ⟨record, selects, records, has, (find?_eq_some_iff_firstIn.mp found).1⟩

theorem provider_arguments (query : OverrideQuery) {arguments : List String}
    (same : arguments.head? = query.arguments.head?) :
    store.provider { query with arguments := arguments } = store.provider query := by
  cases store with
  | memory s => exact OverrideProvider.ofRecords_arguments s.uri s.records query same
  | file s =>
      show s.provider _ = s.provider query
      unfold FileStore.provider
      cases s.records with
      | ok records => exact OverrideProvider.ofRecords_arguments .default records query same
      | error e => rfl

/-- **Rows have the columns that were asked for.**  A query that matches a record is answered with a
row, and no other query is.  The row has the package's name and the icon's text if their columns are
in the projection, also as an icon, and names every other column as missing.  So projections with
the same known columns in them are answered alike, and arguments behind the first one never
matter. -/
theorem exists_row_shows :
    (∀ query record, store.Matches query record →
        ∃ row, (store.provider query).value = .ok (some row) ∧
          row.Shows record query.projection) ∧
      (∀ query row, (store.provider query).value = .ok (some row) →
        ∃ record, store.Matches query record ∧ row.Shows record query.projection) ∧
      (∀ query projection row, OverrideRow.SameColumns query.projection projection →
        (store.provider query).value = .ok (some row) →
          ∃ other, (store.provider { query with projection := projection }).value =
              .ok (some other) ∧
            (∀ column, other.get column = row.get column) ∧
              ∀ library, other.icon library = row.icon library) ∧
      ∀ (query : OverrideQuery) arguments, arguments.head? = query.arguments.head? →
        store.provider { query with arguments := arguments } = store.provider query := by
  have matched {query : OverrideQuery} {row : OverrideRow}
      (answer : (store.provider query).value = .ok (some row)) :
      ∃ record, store.Matches query record ∧ row.Shows record query.projection := by
    obtain ⟨record, found⟩ := store.exists_matches answer
    rw [found.value_provider] at answer
    obtain rfl := Option.some.inj (Except.ok.inj answer)
    exact ⟨record, found, OverrideRow.shows_ofRecord record query.projection⟩
  refine ⟨?_, fun query row => matched, ?_, fun query arguments => store.provider_arguments query⟩
  · intro query record found
    exact ⟨_, found.value_provider, OverrideRow.shows_ofRecord record query.projection⟩
  · intro query projection row same answer
    obtain ⟨record, found, shows⟩ := matched answer
    -- the projection plays no part in the matching
    have found' : store.Matches { query with projection := projection } record :=
      ⟨⟨found.1.uri, found.1.selection, found.1.argument⟩, found.2⟩
    have shows' := OverrideRow.shows_ofRecord record projection
    exact ⟨_, found'.value_provider, shows.get_eq shows' same, shows.icon_eq shows' same⟩

/-- A store that is a file of records. -/
def shelved : OverrideStore := .file ⟨"icons", FileStore.stocked.read "icons"⟩

/-- A query for an unknown column and twice for the icon's. -/
def curious : OverrideQuery :=
  { FileStore.chat with projection := ["colour", "iconBitmap", "iconBitmap"] }

theorem matches_curious : shelved.Matches curious ⟨"chat", "new"⟩ := by
  refine ⟨⟨rfl, rfl, rfl⟩, FileStore.twice, ?_, [], [⟨"mail", "first"⟩, ⟨"chat", "old"⟩], rfl, ?_⟩
  · show FileStore.Holds (FileStore.stocked.read "icons") FileStore.twice
    rw [FileStore.read_stocked]
    exact FileStore.holds_render .compact FileStore.twice
  · intro other member
    cases member

theorem exists_row_shows_curious :
    shelved.Matches curious ⟨"chat", "new"⟩ ∧
      ∃ row, (shelved.provider curious).value = .ok (some row) ∧
        row.get "iconBitmap" = .ok "new" ∧
        row.get "packageName" = .error (.missingColumn "packageName") ∧
        row.get "colour" = .error (.missingColumn "colour") ∧
        (∃ other, (shelved.provider { curious with projection := ["iconBitmap"] }).value =
          .ok (some other) ∧ ∀ column, other.get column = row.get column) ∧
        shelved.provider { curious with arguments := ["chat", "mail"] } =
          shelved.provider curious := by
  obtain ⟨answered, -, alike, arguments⟩ := exists_row_shows shelved
  obtain ⟨row, answer, shows⟩ := answered curious _ matches_curious
  have same : OverrideRow.SameColumns curious.projection ["iconBitmap"] := by
    constructor
    · decide
    · decide
  obtain ⟨other, answer', equal, -⟩ := alike curious _ row same answer
  exact ⟨matches_curious, row, answer, shows.text (by decide), shows.missing _ (.inl (by decide)),
    shows.missing _ (.inr (by decide)), ⟨other, answer', equal⟩, arguments curious _ rfl⟩

end OverrideStore

end StatusIcon
