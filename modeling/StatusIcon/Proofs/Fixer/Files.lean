/-
# StatusIcon.Proofs.Fixer.Files -- icons in files of records

A file has an icon for a package if it holds records and the first one of that package has the text
of an icon (`FileStore.Stores`).  A later record of the package does not count, also when the first
one is broken.  Otherwise the file lacks an icon for the package, for one of five reasons
(`FileStore.Lacks`, `FileStore.lacks_iff`).

A fixer over the file uses the icon if overrides are on and it asks at the usual address, and uses
none in all other cases (`IconFixer.overrides_file_iff`).
-/
import StatusIcon.Proofs.Fixer.Lookup
import StatusIcon.Proofs.Override.Refinement
import StatusIcon.Proofs.Results

set_option autoImplicit false

namespace StatusIcon

namespace FileStore

/-! ## The icon of a package -/

section

/-- The file holds records, and the first one of the package has the text of this icon. -/
def Stores (library : Image.Library) (content : Except FileError (List UInt8)) (package : String)
    (icon : Bitmap) : Prop :=
  ∃ records record, Holds content records ∧ FirstIn records record ∧ record.package = package ∧
    Icon.ofText library record.icon = .ok icon

/-- Why a file has no icon for a package. -/
inductive Lacks (library : Image.Library) (content : Except FileError (List UInt8))
    (package : String) : Prop where
  /-- There is no file, or no way to it, or it is a folder. -/
  | unreadable {e : FileError} (failed : content = .error e)
  | notText {bytes : List UInt8} {e : FileError} (read : content = .ok bytes)
      (failed : textOfBytes bytes = .error e)
  | notRecords {text : String} (read : content = .ok (textBytes text))
      (other : ∀ records, ¬ OverrideRecord.ListText text records)
  | noRecord {records : List OverrideRecord} (holds : Holds content records)
      (none : ∀ record ∈ records, record.package ≠ package)
  /-- The first record of the package is broken, whatever the ones after it are. -/
  | broken {records : List OverrideRecord} {record : OverrideRecord} {e : IconError}
      (holds : Holds content records) (first : FirstIn records record)
      (owner : record.package = package) (failed : Icon.ofText library record.icon = .error e)

variable {library : Image.Library} {content : Except FileError (List UInt8)} {package : String}

theorem Holds.unique {records others : List OverrideRecord} (holds : Holds content records)
    (holds' : Holds content others) : records = others := by
  have read := (records_eq_ok_iff "").mpr holds
  rw [(records_eq_ok_iff "").mpr holds'] at read
  exact (Except.ok.inj read).symm

theorem stores_iff_of_holds {records : List OverrideRecord} (holds : Holds content records)
    (icon : Bitmap) :
    Stores library content package icon ↔
      ∃ record, records.find? (·.package == package) = some record ∧
        Icon.ofText library record.icon = .ok icon := by
  constructor
  · rintro ⟨others, record, holds', first, owner, read⟩
    obtain rfl := holds.unique holds'
    exact ⟨record, find?_eq_some_iff_firstIn.mpr ⟨first, owner⟩, read⟩
  · rintro ⟨record, found, read⟩
    obtain ⟨first, owner⟩ := find?_eq_some_iff_firstIn.mp found
    exact ⟨records, record, holds, first, owner, read⟩

theorem Stores.unique {icon other : Bitmap} (stores : Stores library content package icon)
    (stores' : Stores library content package other) : icon = other := by
  obtain ⟨records, _, holds, _⟩ := id stores
  obtain ⟨record, found, read⟩ := (stores_iff_of_holds holds icon).mp stores
  obtain ⟨record', found', read'⟩ := (stores_iff_of_holds holds other).mp stores'
  obtain rfl := Option.some.inj (found.symm.trans found')
  exact Except.ok.inj (read.symm.trans read')

theorem Lacks.not_stores (lacks : Lacks library content package) :
    ¬ ∃ icon, Stores library content package icon := by
  rintro ⟨icon, stores⟩
  obtain ⟨records, record, holds, first, owner, read⟩ := id stores
  cases lacks with
  | unreadable failed =>
      obtain ⟨text, rfl, -⟩ := holds
      cases failed
  | notText opened failed =>
      obtain ⟨text, rfl, -⟩ := holds
      rw [textOfBytes_eq_ok_iff.mpr (Except.ok.inj opened).symm] at failed
      cases failed
  | notRecords opened other =>
      obtain ⟨text, rfl, listed⟩ := holds
      have same := textOfBytes_eq_ok_iff.mpr (Except.ok.inj opened)
      rw [textOfBytes_eq_ok_iff.mpr rfl] at same
      obtain rfl := Except.ok.inj same
      exact other records listed
  | noRecord holds' none =>
      obtain rfl := holds.unique holds'
      obtain ⟨before, after, rfl, -⟩ := first
      exact none record (by simp) owner
  | broken holds' first' owner' failed =>
      obtain ⟨record', found, read'⟩ := (stores_iff_of_holds holds' icon).mp stores
      rw [find?_eq_some_iff_firstIn.mpr ⟨first', owner'⟩] at found
      obtain rfl := Option.some.inj found
      rw [read'] at failed
      cases failed

theorem stores_or_lacks (library : Image.Library) (content : Except FileError (List UInt8))
    (package : String) :
    (∃ icon, Stores library content package icon) ∨ Lacks library content package := by
  rcases content with e | bytes
  · exact .inr (.unreadable rfl)
  cases decoded : textOfBytes bytes with
  | error e => exact .inr (.notText rfl decoded)
  | ok text =>
      obtain rfl := textOfBytes_eq_ok_iff.mp decoded
      by_cases listed : ∃ records, OverrideRecord.ListText text records
      · obtain ⟨records, listed⟩ := listed
        have holds : Holds (.ok (textBytes text)) records := ⟨text, rfl, listed⟩
        cases found : records.find? (·.package == package) with
        | none =>
            refine .inr (.noRecord holds fun record member owner => ?_)
            exact List.find?_eq_none.mp found record member (beq_iff_eq.mpr owner)
        | some record =>
            obtain ⟨first, owner⟩ := find?_eq_some_iff_firstIn.mp found
            cases read : Icon.ofText library record.icon with
            | error e => exact .inr (.broken holds first owner read)
            | ok icon => exact .inl ⟨icon, records, record, holds, first, owner, read⟩
      · exact .inr (.notRecords rfl (not_exists.mp listed))

theorem lacks_iff :
    Lacks library content package ↔ ¬ ∃ icon, Stores library content package icon :=
  ⟨Lacks.not_stores, (stores_or_lacks library content package).resolve_left⟩

end

end FileStore

/-! ## Fixers over files -/

namespace IconFixer

open FileStore (Holds Stores)

variable {f : IconFixer}

/-- An icon is found in a row of the provider's answer. -/
theorem exists_row_of_lookupOverride {package : String} {icon : Bitmap}
    (found : (f.lookupOverride package).value = .ok (some icon)) :
    ∃ row, (f.provider (.forPackage f.overrideUri package)).value = .ok (some row) ∧
      row.icon f.library = .ok icon := by
  simp only [lookupOverride, Logged.value_bind] at found
  split at found
  · cases found
  · cases found
  · next row answer =>
      refine ⟨row, answer, ?_⟩
      split at found
      · next read =>
          cases found
          exact read
      · cases found

theorem not_overrides_empty (bare : f.provider = .empty) (package : String) :
    ¬ ∃ icon, f.Overrides package icon := by
  rintro ⟨icon, -, found⟩
  obtain ⟨row, answer, -⟩ := exists_row_of_lookupOverride found
  simp only [bare, OverrideProvider.empty] at answer
  split at answer <;> cases answer

/-- An icon is found in a store that is asked at its own address. -/
theorem value_lookupOverride_eq_some_iff {s : MemoryStore} (store : f.provider = s.provider)
    (package : String) (icon : Bitmap) :
    (f.lookupOverride package).value = .ok (some icon) ↔
      ContentUri.parse f.overrideUri = .ok s.uri ∧
        ∃ record, s.find? package = some record ∧ Icon.ofText f.library record.icon = .ok icon := by
  by_cases addressed : ContentUri.parse f.overrideUri = .ok s.uri
  · rw [value_lookupOverride_of_addressed store package addressed]
    cases first : s.find? package with
    | none => simp
    | some record =>
        have shown : (Icon.ofText f.library record.icon).map some = .ok (some icon) ↔
            Icon.ofText f.library record.icon = .ok icon := by
          simp [map_eq_ok_iff]
        simp [addressed, shown]
  · refine iff_of_false (fun found => ?_) fun other => addressed other.1
    by_cases formed : ∃ u, ContentUri.parse f.overrideUri = .ok u
    · obtain ⟨u, formed⟩ := formed
      have elsewhere : u ≠ s.uri := by
        rintro rfl
        exact addressed formed
      rw [value_lookupOverride_of_elsewhere store package formed elsewhere] at found
      cases found
    · rw [value_lookupOverride_of_malformed store package formed] at found
      cases found

/-- The usual address has one spelling. -/
theorem parse_eq_default_iff {uri : String} :
    ContentUri.parse uri = .ok .default ↔ uri = ContentUri.default.text := by
  have usual : ContentUri.parse ContentUri.default.text = .ok .default := by decide +kernel
  constructor
  · exact fun read => ContentUri.parse_inj read usual
  · rintro rfl
    exact usual

/-- An icon is found in a file that has it, by a fixer that asks at the usual address. -/
theorem value_lookupOverride_file_iff {path : String} {content : Except FileError (List UInt8)}
    (file : f.provider = FileStore.provider ⟨path, content⟩) (package : String) (icon : Bitmap) :
    (f.lookupOverride package).value = .ok (some icon) ↔
      f.overrideUri = ContentUri.default.text ∧ Stores f.library content package icon := by
  by_cases held : ∃ records, Holds content records
  · obtain ⟨records, holds⟩ := held
    have store : f.provider = MemoryStore.provider ⟨.default, records⟩ := by
      rw [file, FileStore.provider_eq_of_holds path holds]
    rw [value_lookupOverride_eq_some_iff store, parse_eq_default_iff,
      FileStore.stores_iff_of_holds holds]
    rfl
  · refine iff_of_false (fun found => ?_) ?_
    · obtain ⟨row, answer, -⟩ := exists_row_of_lookupOverride found
      obtain ⟨reason, failed⟩ := FileStore.provider_of_not_holds path (not_exists.mp held)
        (.forPackage f.overrideUri package)
      rw [file, failed] at answer
      cases answer
    · rintro ⟨-, records, _, holds, _⟩
      exact held ⟨records, holds⟩

/-- A fixer over a file uses the icon of the file if overrides are on and it asks at the usual
address. -/
theorem overrides_file_iff {path : String} {content : Except FileError (List UInt8)}
    (file : f.provider = FileStore.provider ⟨path, content⟩) (package : String) (icon : Bitmap) :
    f.Overrides package icon ↔
      f.useOverrides = true ∧ f.overrideUri = ContentUri.default.text ∧
        Stores f.library content package icon := by
  rw [Overrides, value_lookupOverride_file_iff file]

end IconFixer

end StatusIcon
