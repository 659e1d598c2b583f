/-
# StatusIcon.Proofs.Override.History -- the last record of each package is the one that counts

A memory store is made without records and filled by insertions.  Its answers hang on nothing but
the last record of each package in this history (`LastIn`):

* one insertion changes what is found for its own package and nothing else (`find?_insert_self`,
  `find?_insert_of_ne`), so a run of insertions leaves the last record of each (`find?_insertAll`);
* no insertion makes a second record of a package (`Distinct.insert`), so there are as many records
  as packages (`size_insertAll`).

`insertAll_lastWriteWins` puts this together for every query.
-/
import Mathlib.Data.Finset.Card
import Mathlib.Data.Finset.Dedup
import Mathlib.Tactic.Common
import StatusIcon.Override.MemoryStore

set_option autoImplicit false

namespace StatusIcon

/-! ## Rows -/

namespace OverrideRow

/-- The row has the columns of the record that are asked for, and no others. -/
def Carries (row : OverrideRow) (record : OverrideRecord) (projection : List String) : Prop :=
  ∀ column value, row.get column = .ok value ↔
    column ∈ projection ∧ record.column? column = some value

theorem get_eq_ok_iff (row : OverrideRow) (column value : String) :
    row.get column = .ok value ↔ row.columns.lookup column = some value := by
  unfold get
  cases row.columns.lookup column with
  | none => simp
  | some found => simp

theorem lookup_ofRecord (record : OverrideRecord) (projection : List String) (column : String) :
    (ofRecord record projection).columns.lookup column =
      if column ∈ projection then record.column? column else none := by
  induction projection with
  | nil => rfl
  | cons name projection ih =>
      simp only [ofRecord] at ih ⊢
      cases known : record.column? name with
      | none =>
          rw [List.filterMap_cons_none (by simp [known]), ih]
          by_cases same : column = name
          · simp [same, known]
          · simp [same]
      | some value =>
          rw [List.filterMap_cons_some (by simp [known]; rfl), List.lookup_cons, ih]
          by_cases same : column = name
          · simp [same, known]
          · simp [same, beq_false_of_ne same]

theorem carries_ofRecord (record : OverrideRecord) (projection : List String) :
    (ofRecord record projection).Carries record projection := by
  intro column value
  rw [get_eq_ok_iff, lookup_ofRecord]
  by_cases asked : column ∈ projection
  · simp [asked]
  · simp [asked]

theorem icon_ofRecord (library : Image.Library) (record : OverrideRecord) {projection : List String}
    (asked : Column.iconBitmap ∈ projection) :
    (ofRecord record projection).icon library = Icon.ofText library record.icon := by
  have got : (ofRecord record projection).get Column.iconBitmap = .ok record.icon :=
    (carries_ofRecord record projection _ _).mpr ⟨asked, rfl⟩
  rw [icon, got]

end OverrideRow

/-! ## Queries -/

/-- The query is addressed to `served` and selects one package there. -/
structure OverrideQuery.Selects (query : OverrideQuery) (served : ContentUri) (package : String) :
    Prop where
  uri : query.contentUri = .ok served
  selection : query.selection = "packageName = ?"
  argument : query.arguments.head? = some package

theorem OverrideQuery.packageSelection_eq : packageSelection = "packageName = ?" := rfl

theorem OverrideQuery.package?_eq_some_iff {query : OverrideQuery} {package : String} :
    query.package? = some package ↔
      query.selection = "packageName = ?" ∧ query.arguments.head? = some package := by
  rw [OverrideQuery.package?, packageSelection_eq]
  split
  · next selection => simp [selection]
  · next other => simp [other]

theorem OverrideQuery.Selects.package? {query : OverrideQuery} {served : ContentUri}
    {package : String} (selects : query.Selects served package) :
    query.package? = some package :=
  OverrideQuery.package?_eq_some_iff.mpr ⟨selects.selection, selects.argument⟩

theorem OverrideQuery.package?_eq_none {query : OverrideQuery}
    (other : query.selection ≠ "packageName = ?" ∨ query.arguments = []) :
    query.package? = none := by
  rw [Option.eq_none_iff_forall_ne_some]
  intro package selected
  obtain ⟨selection, argument⟩ := OverrideQuery.package?_eq_some_iff.mp selected
  rcases other with different | none
  · exact different selection
  · rw [none] at argument
    cases argument

/-- An error quotes the text. -/
theorem ContentUri.parse_cases (uri : String) :
    (∃ u, parse uri = .ok u) ∨ parse uri = .error (.malformedUri uri) := by
  unfold parse
  cases parse? uri with
  | none => exact .inr rfl
  | some u => exact .inl ⟨u, rfl⟩

theorem OverrideQuery.contentUri_eq_error {query : OverrideQuery}
    (malformed : ¬ ∃ uri, query.contentUri = .ok uri) :
    query.contentUri = .error (.malformedUri query.uri) :=
  (ContentUri.parse_cases query.uri).resolve_left malformed

/-! ## Histories -/

/-- The record is the first one of its package. -/
def FirstIn (records : List OverrideRecord) (record : OverrideRecord) : Prop :=
  ∃ before after, records = before ++ record :: after ∧
    ∀ other ∈ before, other.package ≠ record.package

theorem find?_eq_some_iff_firstIn {records : List OverrideRecord} {package : String}
    {record : OverrideRecord} :
    records.find? (·.package == package) = some record ↔
      FirstIn records record ∧ record.package = package := by
  rw [List.find?_eq_some_iff_append]
  simp only [beq_iff_eq, Bool.not_eq_eq_eq_not, Bool.not_true, beq_eq_false_iff_ne]
  constructor
  · rintro ⟨rfl, before, after, split, others⟩
    exact ⟨⟨before, after, split, others⟩, rfl⟩
  · rintro ⟨⟨before, after, split, others⟩, rfl⟩
    exact ⟨rfl, before, after, split, others⟩

/-- The record is in the history, and none of its package comes after it. -/
def LastIn (history : List OverrideRecord) (record : OverrideRecord) : Prop :=
  ∃ earlier later, history = earlier ++ record :: later ∧
    ∀ other ∈ later, other.package ≠ record.package

/-- The last record of a package is the first one from the end. -/
theorem find?_reverse_eq_some_iff (history : List OverrideRecord) (package : String)
    (record : OverrideRecord) :
    history.reverse.find? (·.package == package) = some record ↔
      LastIn history record ∧ record.package = package := by
  rw [List.find?_eq_some_iff_append]
  simp only [beq_iff_eq, Bool.not_eq_eq_eq_not, Bool.not_true, beq_eq_false_iff_ne]
  constructor
  · rintro ⟨rfl, later, earlier, reversed, others⟩
    refine ⟨⟨earlier.reverse, later.reverse, ?_, ?_⟩, rfl⟩
    · rw [← List.reverse_reverse history, reversed]
      simp
    · exact fun other member => others other (List.mem_reverse.mp member)
  · rintro ⟨⟨earlier, later, rfl, others⟩, rfl⟩
    refine ⟨rfl, later.reverse, earlier.reverse, by simp, ?_⟩
    exact fun other member => others other (List.mem_reverse.mp member)

namespace MemoryStore

/-- The store was just made, at the usual address or at another one. -/
inductive IsNew : MemoryStore → Prop where
  | empty : IsNew .empty
  | emptyAt {uri : String} {s : MemoryStore} (made : emptyAt uri = .ok s) : IsNew s

theorem IsNew.records {s : MemoryStore} (new : s.IsNew) : s.records = [] := by
  cases new with
  | empty => rfl
  | @emptyAt uri s made =>
      unfold MemoryStore.emptyAt at made
      cases read : ContentUri.parse uri with
      | error e =>
          rw [read] at made
          cases made
      | ok served =>
          rw [read] at made
          cases made
          rfl

/-- The store after these insertions, first one first. -/
def insertAll (s : MemoryStore) (history : List OverrideRecord) : MemoryStore :=
  history.foldl insert s

variable (s : MemoryStore)

@[simp] theorem uri_insert (record : OverrideRecord) : (s.insert record).uri = s.uri := rfl

@[simp] theorem uri_insertAll (history : List OverrideRecord) :
    (s.insertAll history).uri = s.uri := by
  unfold insertAll
  induction history generalizing s with
  | nil => rfl
  | cons record history ih => rw [List.foldl_cons, ih, uri_insert]

/-! ## What is found -/

/-- The record that queries for a package are answered with. -/
def find? (package : String) : Option OverrideRecord :=
  s.records.find? (·.package == package)

theorem find?_insert_self (record : OverrideRecord) :
    (s.insert record).find? record.package = some record := by
  have dropped : (s.records.filter fun other => other.package ≠ record.package).find?
      (·.package == record.package) = none := by
    rw [List.find?_eq_none]
    intro other member
    simpa using (List.mem_filter.mp member).2
  simp only [find?, insert, List.find?_append, dropped]
  simp

theorem find?_insert_of_ne {record : OverrideRecord} {package : String}
    (other : record.package ≠ package) : (s.insert record).find? package = s.find? package := by
  have kept : (s.records.filter fun other => other.package ≠ record.package).find?
      (·.package == package) = s.records.find? (·.package == package) := by
    rw [List.find?_filter]
    refine congrArg (s.records.find? ·) (funext fun found => ?_)
    by_cases same : found.package = package
    · simp [same, other.symm]
    · simp [same]
  simp only [find?, insert, List.find?_append, kept]
  simp [other]

theorem find?_insertAll (history : List OverrideRecord) (package : String) :
    (s.insertAll history).find? package =
      (history.reverse.find? (·.package == package)).or (s.find? package) := by
  unfold insertAll
  induction history generalizing s with
  | nil => rfl
  | cons record history ih =>
      rw [List.foldl_cons, ih, List.reverse_cons, List.find?_append, Option.or_assoc]
      by_cases same : record.package = package
      · subst same
        simp [s.find?_insert_self record]
      · simp [s.find?_insert_of_ne same, same]

theorem IsNew.find?_insertAll {s : MemoryStore} (new : s.IsNew) (history : List OverrideRecord)
    (package : String) :
    (s.insertAll history).find? package = history.reverse.find? (·.package == package) := by
  rw [MemoryStore.find?_insertAll]
  simp [find?, new.records]

/-! ## How many records there are -/

/-- No two records are of one package. -/
def Distinct : Prop := s.records.Pairwise fun a b => a.package ≠ b.package

theorem IsNew.distinct {s : MemoryStore} (new : s.IsNew) : s.Distinct := by
  rw [Distinct, new.records]
  exact .nil

theorem Distinct.insert {s : MemoryStore} (distinct : s.Distinct) (record : OverrideRecord) :
    (s.insert record).Distinct := by
  refine List.pairwise_append.mpr ⟨distinct.filter _, List.pairwise_singleton _ _, ?_⟩
  intro other member last only
  obtain rfl := List.mem_singleton.mp only
  simpa using (List.mem_filter.mp member).2

theorem Distinct.insertAll {s : MemoryStore} (distinct : s.Distinct)
    (history : List OverrideRecord) : (s.insertAll history).Distinct := by
  unfold MemoryStore.insertAll
  induction history generalizing s with
  | nil => exact distinct
  | cons record history ih => exact ih (distinct.insert record)

theorem Distinct.nodup {s : MemoryStore} (distinct : s.Distinct) :
    (s.records.map (·.package)).Nodup :=
  List.pairwise_map.mpr distinct

theorem toFinset_insert (record : OverrideRecord) :
    ((s.insert record).records.map (·.package)).toFinset =
      Insert.insert record.package (s.records.map (·.package)).toFinset := by
  ext package
  simp only [MemoryStore.insert, List.mem_toFinset, List.mem_map, List.mem_append, List.mem_filter,
    List.mem_singleton, Finset.mem_insert, decide_eq_true_eq]
  constructor
  · rintro ⟨other, ⟨member, -⟩ | rfl, rfl⟩
    · exact .inr ⟨other, member, rfl⟩
    · exact .inl rfl
  · rintro (rfl | ⟨other, member, rfl⟩)
    · exact ⟨record, .inr rfl, rfl⟩
    · by_cases same : other.package = record.package
      · exact ⟨record, .inr rfl, same.symm⟩
      · exact ⟨other, .inl ⟨member, same⟩, rfl⟩

theorem toFinset_insertAll (history : List OverrideRecord) :
    ((s.insertAll history).records.map (·.package)).toFinset =
      (s.records.map (·.package)).toFinset ∪ (history.map (·.package)).toFinset := by
  unfold insertAll
  induction history generalizing s with
  | nil => simp
  | cons record history ih =>
      rw [List.foldl_cons, ih, toFinset_insert, List.map_cons, List.toFinset_cons,
        Finset.insert_union, Finset.union_insert]

theorem IsNew.size_insertAll {s : MemoryStore} (new : s.IsNew) (history : List OverrideRecord) :
    (s.insertAll history).size = (history.map (·.package)).toFinset.card := by
  have packages := toFinset_insertAll s history
  rw [new.records, List.map_nil, List.toFinset_nil, Finset.empty_union] at packages
  rw [← packages, List.toFinset_card_of_nodup (new.distinct.insertAll history).nodup,
    List.length_map]
  rfl

theorem IsNew.isEmpty_insertAll {s : MemoryStore} (new : s.IsNew)
    (history : List OverrideRecord) : (s.insertAll history).isEmpty = true ↔ history = [] := by
  have size := new.size_insertAll history
  rw [isEmpty, List.isEmpty_iff_length_eq_zero]
  rw [MemoryStore.size] at size
  rw [size, Finset.card_eq_zero, List.toFinset_eq_empty_iff, List.map_eq_nil_iff]

/-! ## Queries to a store -/

theorem value_provider_of_selects {query : OverrideQuery} {package : String}
    (selects : query.Selects s.uri package) :
    (s.provider query).value =
      .ok ((s.find? package).map fun record => OverrideRow.ofRecord record query.projection) := by
  simp only [provider, OverrideProvider.ofRecords, selects.uri, selects.package?, reduceIte]
  rfl

theorem value_provider_of_other {query : OverrideQuery} {uri : ContentUri}
    (addressed : query.contentUri = .ok uri) (other : uri ≠ s.uri ∨ query.package? = none) :
    (s.provider query).value = .ok none := by
  simp only [provider, OverrideProvider.ofRecords, addressed]
  split
  · next here =>
      rcases other with elsewhere | none
      · exact absurd here elsewhere
      · rw [none]
        rfl
  · rfl

theorem value_provider_of_error {query : OverrideQuery} {e : IconError}
    (malformed : query.contentUri = .error e) : (s.provider query).value = .error e := by
  simp only [provider, OverrideProvider.ofRecords, malformed]
  rfl

/-- Stores at one address in which the same is found answer alike. -/
theorem provider_congr {s t : MemoryStore} (uri : s.uri = t.uri)
    (same : ∀ package, s.find? package = t.find? package) : s.provider = t.provider := by
  funext query
  simp only [find?] at same
  simp only [provider, OverrideProvider.ofRecords, uri, same]

theorem IsNew.value_provider_eq_none_iff {s : MemoryStore} (new : s.IsNew)
    (history : List OverrideRecord) {query : OverrideQuery} {package : String}
    (selects : query.Selects s.uri package) :
    ((s.insertAll history).provider query).value = .ok none ↔
      ∀ record ∈ history, record.package ≠ package := by
  rw [value_provider_of_selects _ (by simpa using selects), new.find?_insertAll]
  simp

/-- A package that has a record is answered with the last one. -/
theorem IsNew.value_provider_of_mem {s : MemoryStore} (new : s.IsNew)
    (history : List OverrideRecord) {query : OverrideQuery} {package : String}
    (selects : query.Selects s.uri package)
    (inserted : ∃ record ∈ history, record.package = package) :
    ∃ last row, LastIn history last ∧ last.package = package ∧
      ((s.insertAll history).provider query).value = .ok (some row) ∧
      row.Carries last query.projection := by
  cases found : history.reverse.find? (·.package == package) with
  | none =>
      obtain ⟨record, member, same⟩ := inserted
      have different := List.find?_eq_none.mp found record (List.mem_reverse.mpr member)
      simp [same] at different
  | some last =>
      obtain ⟨latest, same⟩ := (find?_reverse_eq_some_iff history package last).mp found
      refine ⟨last, _, latest, same, ?_, OverrideRow.carries_ofRecord last query.projection⟩
      rw [value_provider_of_selects _ (by simpa using selects), new.find?_insertAll, found]
      rfl

/-- **The last write wins.**  After any insertions into a new store there is one record for each
package.  A query that selects a package at the store's address is answered with the last record
that was inserted for it, if there is one; so histories with the same last records cannot be told
apart.  Every other query has no row, or is refused for its malformed address. -/
theorem insertAll_lastWriteWins {start : MemoryStore} (new : start.IsNew)
    (history : List OverrideRecord) :
    let s := start.insertAll history
    s.Distinct ∧ s.size = (history.map (·.package)).toFinset.card ∧
      (s.isEmpty = true ↔ history = []) ∧
      (∀ query package, query.Selects start.uri package →
        ((s.provider query).value = .ok none ↔ ∀ record ∈ history, record.package ≠ package) ∧
        ((∃ record ∈ history, record.package = package) →
          ∃ last row, LastIn history last ∧ last.package = package ∧
            (s.provider query).value = .ok (some row) ∧ row.Carries last query.projection)) ∧
      (∀ other, (∀ record, LastIn other record ↔ LastIn history record) →
        (start.insertAll other).provider = s.provider) ∧
      (∀ query uri, query.contentUri = .ok uri →
        uri ≠ start.uri ∨ query.selection ≠ "packageName = ?" ∨ query.arguments = [] →
          (s.provider query).value = .ok none) ∧
      ∀ query, (¬ ∃ uri, query.contentUri = .ok uri) →
        (s.provider query).value = .error (.malformedUri query.uri) := by
  refine ⟨new.distinct.insertAll history, new.size_insertAll history, new.isEmpty_insertAll history,
    ?_, ?_, ?_, ?_⟩
  · intro query package selects
    exact ⟨new.value_provider_eq_none_iff history selects,
      new.value_provider_of_mem history selects⟩
  · intro other same
    refine provider_congr (by simp) fun package => ?_
    rw [new.find?_insertAll, new.find?_insertAll]
    refine Option.ext fun record => ?_
    rw [find?_reverse_eq_some_iff, find?_reverse_eq_some_iff, same]
  · intro query uri addressed unselected
    refine value_provider_of_other _ addressed ?_
    rw [uri_insertAll]
    exact unselected.imp_right OverrideQuery.package?_eq_none
  · intro query malformed
    exact value_provider_of_error _ (OverrideQuery.contentUri_eq_error malformed)

/-- A store at an address of its own. -/
def shelf : MemoryStore := ⟨⟨"icons", "all"⟩, []⟩

/-- Two packages, one of which gets another icon. -/
def changes : List OverrideRecord := [⟨"chat", "old"⟩, ⟨"mail", "first"⟩, ⟨"chat", "new"⟩]

theorem isNew_shelf : shelf.IsNew := .emptyAt (show emptyAt "content://icons/all" = _ from rfl)

theorem selects_chat :
    (OverrideQuery.forPackage "content://icons/all" "chat").Selects shelf.uri "chat" :=
  ⟨rfl, rfl, rfl⟩

theorem insertAll_lastWriteWins_shelf :
    shelf.IsNew ∧ (shelf.insertAll changes).size = 2 ∧
      ∃ row, ((shelf.insertAll changes).provider
          (OverrideQuery.forPackage "content://icons/all" "chat")).value = .ok (some row) ∧
        row.get Column.iconBitmap = .ok "new" := by
  obtain ⟨-, size, -, answers, -, -, -⟩ := insertAll_lastWriteWins isNew_shelf changes
  refine ⟨isNew_shelf, size, ?_⟩
  have stored : ∃ record ∈ changes, record.package = "chat" := ⟨⟨"chat", "new"⟩, by decide, rfl⟩
  obtain ⟨last, row, latest, package, answer, carries⟩ := (answers _ _ selects_chat).2 stored
  have found := (find?_reverse_eq_some_iff changes "chat" last).mpr ⟨latest, package⟩
  obtain rfl : ⟨"chat", "new"⟩ = last := Option.some.inj found
  exact ⟨row, answer, (carries _ _).mpr ⟨by decide, rfl⟩⟩

end MemoryStore

end StatusIcon
