/-
# StatusIcon.Proofs.Fixer.Lookup -- a fixer finds what was stored last

A memory store is filled by changes: a record is inserted, or an icon is, which can fail.  A change
gives one package a text or does nothing at all (`change_of_stores`, `change_of_not_stores`), so
what a store holds for a package after a run of changes is the last text that it was given
(`find?_changeAll_of_last`).

A fixer asks for a package at the address of its configuration.  An address has one spelling
(`ContentUri.text_of_parse`), so a store is found under the very text that it was made with and
under no other, and the row of an answer has the icon's column (`OverrideRow.icon_ofRecord`).
`lookupOverride_findsLast` puts this together for every history, address and package.
-/
import StatusIcon.Proofs.Fixer.Steps
import StatusIcon.Proofs.Icon.RoundTrip
import StatusIcon.Proofs.Override.History
import StatusIcon.Proofs.Override.Uri
import StatusIcon.Proofs.Results

set_option autoImplicit false

namespace StatusIcon

theorem Icon.map_ofText_ne_missingColumn {α : Type} (library : Image.Library) (f : Bitmap → α)
    (text column : String) : (ofText library text).map f ≠ .error (.missingColumn column) := by
  unfold ofText
  split
  · nofun
  · split
    · nofun
    · nofun

namespace MemoryStore

variable (e : Png.Encoder) (s : MemoryStore)

/-! ## One change -/

theorem insertIconBy_eq_ok_iff {package : String} {icon : Bitmap} :
    (s.insertIconBy e package icon).1 = .ok () ↔ ∃ text, Icon.toTextBy e icon = .ok text := by
  unfold insertIconBy OverrideRecord.ofIconBy
  cases Icon.toTextBy e icon with
  | ok text => simp
  | error error => simp

/-- An insertion that fails leaves the store as it was. -/
theorem insertIconBy_of_error {package : String} {icon : Bitmap} {error : IconError}
    (failed : (s.insertIconBy e package icon).1 = .error error) :
    (s.insertIconBy e package icon).2 = s := by
  unfold insertIconBy at failed ⊢
  split at failed
  · cases failed
  · rfl

/-- What is done to a store: a record is inserted, or an icon for a package. -/
inductive Change where
  | insert (record : OverrideRecord)
  | insertIcon (package : String) (icon : Bitmap)

/-- The store after a change. -/
def change : Change → MemoryStore
  | .insert record => s.insert record
  | .insertIcon package icon => (s.insertIconBy e package icon).2

/-- The change gives the package this text. -/
def Change.Stores : Change → String → String → Prop
  | .insert record, package, text => record = ⟨package, text⟩
  | .insertIcon owner icon, package, text => owner = package ∧ Icon.toTextBy e icon = .ok text

theorem change_of_stores {c : Change} {package text : String} (stores : c.Stores e package text) :
    s.change e c = s.insert ⟨package, text⟩ := by
  cases c with
  | insert record =>
      obtain rfl : record = _ := stores
      rfl
  | insertIcon owner icon =>
      obtain ⟨rfl, written⟩ : owner = package ∧ _ := stores
      simp only [change, insertIconBy, OverrideRecord.ofIconBy, written]

theorem change_of_not_stores {c : Change} (nothing : ∀ package text, ¬ c.Stores e package text) :
    s.change e c = s := by
  cases c with
  | insert record => exact absurd rfl (nothing record.package record.icon)
  | insertIcon package icon =>
      cases inserted : (s.insertIconBy e package icon).1 with
      | error error => exact s.insertIconBy_of_error e inserted
      | ok _ =>
          obtain ⟨text, written⟩ := (s.insertIconBy_eq_ok_iff e).mp inserted
          exact absurd ⟨rfl, written⟩ (nothing package text)

theorem uri_change (c : Change) : (s.change e c).uri = s.uri := by
  by_cases stores : ∃ package text, c.Stores e package text
  · obtain ⟨package, text, stores⟩ := stores
    rw [s.change_of_stores e stores, uri_insert]
  · simp only [not_exists] at stores
    rw [s.change_of_not_stores e stores]

theorem find?_change_of_stores {c : Change} {package text : String}
    (stores : c.Stores e package text) : (s.change e c).find? package = some ⟨package, text⟩ := by
  rw [s.change_of_stores e stores]
  exact s.find?_insert_self ⟨package, text⟩

theorem find?_change_of_not_stores {c : Change} {package : String}
    (other : ∀ text, ¬ c.Stores e package text) :
    (s.change e c).find? package = s.find? package := by
  by_cases stores : ∃ owner text, c.Stores e owner text
  · -- the change drops and stores records of its own package only
    obtain ⟨owner, text, stores⟩ := stores
    have different : owner ≠ package := by
      rintro rfl
      exact other text stores
    rw [s.change_of_stores e stores, s.find?_insert_of_ne different]
  · simp only [not_exists] at stores
    rw [s.change_of_not_stores e stores]

/-! ## Runs of changes -/

/-- The store after these changes, first one first. -/
def changeAll (history : List Change) : MemoryStore := history.foldl (change e) s

/-- No change gives the package a text. -/
def Untouched (package : String) (history : List Change) : Prop :=
  ∀ c ∈ history, ∀ text, ¬ c.Stores e package text

/-- This is the text that the package is given last. -/
def LastText (package text : String) (history : List Change) : Prop :=
  ∃ earlier c later, history = earlier ++ c :: later ∧ c.Stores e package text ∧
    Untouched e package later

theorem uri_changeAll (history : List Change) : (s.changeAll e history).uri = s.uri := by
  unfold changeAll
  induction history generalizing s with
  | nil => rfl
  | cons c history ih => rw [List.foldl_cons, ih, uri_change]

theorem find?_changeAll_of_untouched {package : String} {history : List Change}
    (untouched : Untouched e package history) :
    (s.changeAll e history).find? package = s.find? package := by
  unfold changeAll
  induction history generalizing s with
  | nil => rfl
  | cons c history ih =>
      have ⟨here, later⟩ := List.forall_mem_cons.mp untouched
      rw [List.foldl_cons, ih _ later, s.find?_change_of_not_stores e here]

theorem find?_changeAll_of_last {package text : String} {history : List Change}
    (last : LastText e package text history) :
    (s.changeAll e history).find? package = some ⟨package, text⟩ := by
  obtain ⟨earlier, c, later, rfl, stores, untouched⟩ := last
  have split : s.changeAll e (earlier ++ c :: later) =
      ((s.changeAll e earlier).change e c).changeAll e later := List.foldl_append
  rw [split, find?_changeAll_of_untouched e _ untouched, find?_change_of_stores e _ stores]

theorem IsNew.find?_eq_none {s : MemoryStore} (new : s.IsNew) (package : String) :
    s.find? package = none := by
  rw [find?, new.records]
  rfl

/-- A package is given no text, or there is one that it is given last. -/
theorem untouched_or_last (package : String) (history : List Change) :
    Untouched e package history ∨ ∃ text, LastText e package text history := by
  rcases forall_not_or_exists_last (fun c => ∃ text, c.Stores e package text) history with
    untouched | ⟨earlier, c, later, rfl, ⟨text, stores⟩, untouched⟩
  · exact .inl fun c member => not_exists.mp (untouched c member)
  · exact .inr ⟨text, earlier, c, later, rfl, stores,
      fun c member => not_exists.mp (untouched c member)⟩

end MemoryStore

/-! ## Lookups in a store -/

namespace IconFixer

open MemoryStore (Change Untouched LastText shelf)
open Image (checkSize)

section

variable {f : IconFixer} {s : MemoryStore} (store : f.provider = s.provider) (package : String)

include store

theorem value_lookupOverride_of_malformed
    (malformed : ¬ ∃ u, ContentUri.parse f.overrideUri = .ok u) :
    (f.lookupOverride package).value = .error (.malformedUri f.overrideUri) := by
  have answer : (s.provider (.forPackage f.overrideUri package)).value = _ :=
    s.value_provider_of_error (OverrideQuery.contentUri_eq_error malformed)
  simp only [lookupOverride, store, Logged.value_bind, answer, Logged.value_pure]
  rfl

theorem value_lookupOverride_of_elsewhere {u : ContentUri}
    (addressed : ContentUri.parse f.overrideUri = .ok u) (elsewhere : u ≠ s.uri) :
    (f.lookupOverride package).value = .ok none := by
  have answer : (s.provider (.forPackage f.overrideUri package)).value = _ :=
    s.value_provider_of_other addressed (.inl elsewhere)
  simp only [lookupOverride, store, Logged.value_bind, answer, Logged.value_pure]

theorem value_lookupOverride_of_addressed
    (addressed : ContentUri.parse f.overrideUri = .ok s.uri) :
    (f.lookupOverride package).value =
      match s.find? package with
      | none => .ok none
      | some record => (Icon.ofText f.library record.icon).map some := by
  have answer : (s.provider (.forPackage f.overrideUri package)).value = _ :=
    s.value_provider_of_selects ⟨addressed, rfl, rfl⟩
  simp only [lookupOverride, store, Logged.value_bind, answer]
  cases s.find? package with
  | none => rfl
  | some record =>
      simp only [Option.map_some]
      rw [OverrideRow.icon_ofRecord f.library record (by simp [OverrideQuery.forPackage])]
      cases Icon.ofText f.library record.icon with
      | ok icon => rfl
      | error e => rfl

theorem value_lookupOverride_ne_missingColumn (column : String) :
    (f.lookupOverride package).value ≠ .error (.missingColumn column) := by
  by_cases addressed : ∃ u, ContentUri.parse f.overrideUri = .ok u
  · obtain ⟨u, addressed⟩ := addressed
    by_cases here : u = s.uri
    · subst here
      rw [value_lookupOverride_of_addressed store package addressed]
      split
      · nofun
      · next record _ => exact Icon.map_ofText_ne_missingColumn f.library some record.icon column
    · rw [value_lookupOverride_of_elsewhere store package addressed here]
      nofun
  · rw [value_lookupOverride_of_malformed store package addressed]
    nofun

end

/-- **A fixer finds what was stored last.**  Take a store that was made for one address, any changes
to it, and a fixer over it that is asked for a package.  If the address of its configuration is
malformed, the fixer says so.  At every other address than the one of the store it finds nothing,
nor for a package that was given no text; else it finds the icon of the text that the package was
given last.  No column is ever missing, and insertions that fail change no answer.  So an icon that
was inserted last is what becomes of every entry of its package, whatever icon was posted. -/
theorem lookupOverride_findsLast {start : MemoryStore} (new : start.IsNew) {uri : String}
    (served : ContentUri.parse uri = .ok start.uri) (e : Png.Encoder) (history : List Change)
    {f : IconFixer} (store : f.provider = (start.changeAll e history).provider) (package : String) :
    let address := f.overrideUri
    let found := (f.lookupOverride package).value
    ((¬ ∃ u, ContentUri.parse address = .ok u) → found = .error (.malformedUri address)) ∧
      ((∃ u, ContentUri.parse address = .ok u) →
        address ≠ uri ∨ Untouched e package history → found = .ok none) ∧
      (address = uri → ∀ text, LastText e package text history →
        found = (Icon.ofText f.library text).map some) ∧
      (Untouched e package history ∨ ∃ text, LastText e package text history) ∧
      (∀ column, found ≠ .error (.missingColumn column)) ∧
      (∀ (s : MemoryStore) owner icon error, (s.insertIconBy e owner icon).1 = .error error →
        ∀ query, (s.insertIconBy e owner icon).2.provider query = s.provider query) ∧
      (e.Lossless → f.useOverrides = true → address = uri →
        ∀ earlier icon later, history = earlier ++ .insertIcon package icon :: later →
          ((start.changeAll e earlier).insertIconBy e package icon).1 = .ok () →
          Untouched e package later → checkSize icon.width icon.height 4 = .ok () →
            ∀ entry, entry.package = package → (f.fix entry).value = .ok (.override icon)) := by
  intro address found
  have here (same : address = uri) :
      ContentUri.parse address = .ok (start.changeAll e history).uri := by
    rw [MemoryStore.uri_changeAll, same, served]
  have last (same : address = uri) (text : String) (stored : LastText e package text history) :
      found = (Icon.ofText f.library text).map some := by
    have lookup := value_lookupOverride_of_addressed store package (here same)
    rwa [start.find?_changeAll_of_last e stored] at lookup
  refine ⟨value_lookupOverride_of_malformed store package, ?_, last,
    MemoryStore.untouched_or_last e package history,
    value_lookupOverride_ne_missingColumn store package, ?_, ?_⟩
  · rintro ⟨u, addressed⟩ nothing
    -- the address is compared as it was read, and it has one spelling
    by_cases same : address = uri
    · have untouched := nothing.resolve_left (not_not_intro same)
      have lookup := value_lookupOverride_of_addressed store package (here same)
      rwa [start.find?_changeAll_of_untouched e untouched, new.find?_eq_none] at lookup
    · apply value_lookupOverride_of_elsewhere store package addressed
      rintro rfl
      rw [MemoryStore.uri_changeAll] at addressed
      exact same (ContentUri.parse_inj addressed served)
  · intro s owner icon error failed query
    rw [s.insertIconBy_of_error e failed]
  · intro lossless on same earlier icon later whole inserted untouched fits entry posted
    obtain ⟨text, written⟩ := (MemoryStore.insertIconBy_eq_ok_iff e _).mp inserted
    have stored : LastText e package text history :=
      ⟨earlier, _, later, whole, ⟨rfl, written⟩, untouched⟩
    have lookup := last same text stored
    rw [Icon.ofText_of_toTextBy f.library lossless written fits] at lookup
    subst posted
    exact f.value_fix_of_overrides ⟨on, lookup⟩

/-- An icon, a text for another package, and an icon that cannot be stored. -/
def attempts : List Change :=
  [.insertIcon "chat" Icon.pair, .insert ⟨"mail", "first"⟩,
    .insertIcon "chat" (.filled 0 0 .unset)]

/-- A fixer that asks at the address of the shelf. -/
def shelved : IconFixer :=
  .new .plain { overrideUri := "content://icons/all" } (shelf.changeAll .plain attempts).provider

theorem lookupOverride_findsLast_pair :
    shelf.IsNew ∧ ContentUri.parse "content://icons/all" = .ok shelf.uri ∧
      shelved.provider = (shelf.changeAll .plain attempts).provider ∧
      (shelved.lookupOverride "news").value = .ok none ∧
      (shelved.fix ⟨"chat", none⟩).value = .ok (.override Icon.pair) := by
  have served : ContentUri.parse "content://icons/all" = .ok shelf.uri := rfl
  refine ⟨MemoryStore.isNew_shelf, served, rfl, ?_, ?_⟩
  · obtain ⟨-, nothing, -⟩ := lookupOverride_findsLast MemoryStore.isNew_shelf served .plain
      attempts (rfl : shelved.provider = _) "news"
    refine nothing ⟨_, served⟩ (.inr ?_)
    simp [Untouched, attempts, Change.Stores]
  · obtain ⟨-, -, -, -, -, -, icon⟩ := lookupOverride_findsLast MemoryStore.isNew_shelf served
      .plain attempts (rfl : shelved.provider = _) "chat"
    refine icon Icon.plain_lossless rfl rfl [] Icon.pair _ rfl ?_ ?_ rfl _ rfl
    · exact (MemoryStore.insertIconBy_eq_ok_iff _ _).mpr ⟨_, Icon.toTextBy_plain_pair⟩
    · simp [Untouched, Change.Stores, Icon.toTextBy, Png.Encoder.write, Bitmap.filled]

end IconFixer

end StatusIcon
