/-
# StatusIcon.Proofs.Override.Refinement -- a file of records answers like a store in memory

A file store reads its file anew for each query.  While the file holds records it answers as a
memory store does that was filled with them from the last one to the first, because it looks for the
first record of a package where a memory store keeps the last one.  While it holds nothing of the
kind there are no answers at all, not even to queries that are malformed.

What happens around the file is a run of events: the folder changes in whatever way, or a query is
asked.  A run only goes on from the folder it has come to (`answers_append`), so what the file held
before does not matter.
-/
import StatusIcon.Proofs.Override.History
import StatusIcon.Proofs.Override.Records

set_option autoImplicit false

namespace StatusIcon

/-! ## Texts in files -/

/-- The bytes of a text, as they are kept in a file. -/
def textBytes (text : String) : List UInt8 := text.toUTF8.data.toList

theorem textOfBytes_eq_ok_iff {bytes : List UInt8} {text : String} :
    textOfBytes bytes = .ok text ↔ bytes = textBytes text := by
  have same : text.toUTF8 = ⟨bytes.toArray⟩ ↔ bytes = textBytes text := by
    constructor
    · intro same
      rw [textBytes, same]
    · rintro rfl
      rfl
  rw [← same, textOfBytes, String.fromUTF8?]
  by_cases valid : (ByteArray.mk bytes.toArray).IsValidUTF8
  · rw [dif_pos valid, Except.ok.injEq, ← String.toByteArray_inj]
    exact eq_comm
  · rw [dif_neg valid]
    refine ⟨nofun, fun same => absurd (same ▸ text.isValidUTF8) valid⟩

namespace FileStore

/-- The file was read and holds a list of these records. -/
def Holds (content : Except FileError (List UInt8)) (records : List OverrideRecord) : Prop :=
  ∃ text, content = .ok (textBytes text) ∧ OverrideRecord.ListText text records

theorem holds_render (style : Json.Style) (records : List OverrideRecord) :
    Holds (.ok (textBytes ((Json.Value.list (records.map OverrideRecord.toValue)).render style)))
      records :=
  ⟨_, rfl, OverrideRecord.listText_render style records⟩

/-! ## One query -/

variable (path : String)

theorem records_eq_ok_iff {content : Except FileError (List UInt8)}
    {records : List OverrideRecord} :
    FileStore.records ⟨path, content⟩ = .ok records ↔ Holds content records := by
  constructor
  · intro read
    simp only [FileStore.records] at read
    split at read
    · cases read
    next text decoded =>
    split at read
    · next listed =>
        obtain rfl := Except.ok.inj read
        split at decoded
        · next bytes =>
            refine ⟨text, congrArg _ (textOfBytes_eq_ok_iff.mp decoded), ?_⟩
            exact OverrideRecord.listOfJson_eq_ok_iff.mp listed
        · cases decoded
    · cases read
  · rintro ⟨text, rfl, listed⟩
    have read := textOfBytes_eq_ok_iff.mpr (rfl : textBytes text = textBytes text)
    have parsed := OverrideRecord.listOfJson_eq_ok_iff.mpr listed
    simp only [FileStore.records, read, parsed]

theorem records_eq_error {content : Except FileError (List UInt8)} {e : IconError}
    (failed : FileStore.records ⟨path, content⟩ = .error e) :
    ∃ reason, e = .providerUnavailable (path ++ ": " ++ reason) := by
  simp only [FileStore.records] at failed
  split at failed
  · exact ⟨_, (Except.error.inj failed).symm⟩
  split at failed
  · cases failed
  · exact ⟨_, (Except.error.inj failed).symm⟩

theorem provider_eq_of_holds {content : Except FileError (List UInt8)}
    {records : List OverrideRecord} (holds : Holds content records) :
    FileStore.provider ⟨path, content⟩ = MemoryStore.provider ⟨.default, records⟩ := by
  funext query
  simp only [provider, (records_eq_ok_iff path).mpr holds]
  rfl

/-- Where a memory store keeps the last record of a package, the first one counts here. -/
theorem provider_of_holds {content : Except FileError (List UInt8)}
    {records : List OverrideRecord} (holds : Holds content records) :
    FileStore.provider ⟨path, content⟩ =
      (MemoryStore.empty.insertAll records.reverse).provider := by
  rw [provider_eq_of_holds path holds]
  refine MemoryStore.provider_congr (by simp [MemoryStore.empty]) fun package => ?_
  rw [MemoryStore.IsNew.empty.find?_insertAll, List.reverse_reverse]
  rfl

theorem provider_of_not_holds {content : Except FileError (List UInt8)}
    (none : ∀ records, ¬ Holds content records) (query : OverrideQuery) :
    ∃ reason, (FileStore.provider ⟨path, content⟩ query).value =
      .error (.providerUnavailable (path ++ ": " ++ reason)) := by
  cases read : FileStore.records ⟨path, content⟩ with
  | ok records => exact absurd ((records_eq_ok_iff path).mp read) (none records)
  | error e =>
      obtain ⟨reason, rfl⟩ := records_eq_error path read
      exact ⟨reason, by simp only [provider, read]; rfl⟩

theorem value_provider_insertAll_nil (query : OverrideQuery) :
    ((MemoryStore.empty.insertAll []).provider query).value =
      (OverrideProvider.empty query).value := by
  cases addressed : query.contentUri with
  | error e =>
      rw [MemoryStore.value_provider_of_error _ addressed]
      simp only [OverrideProvider.empty, addressed]
      rfl
  | ok uri =>
      have empty : (OverrideProvider.empty query).value = .ok none := by
        simp only [OverrideProvider.empty, addressed]
        rfl
      rw [empty]
      simp only [MemoryStore.provider, OverrideProvider.ofRecords, addressed]
      split
      · split <;> rfl
      · rfl

/-! ## Runs -/

/-- What happens around a file: the folder becomes another one, or a query is asked. -/
inductive Event where
  | change (folder : Folder)
  | ask (query : OverrideQuery)

/-- The folder after these events. -/
def folderAfter : Folder → List Event → Folder
  | folder, [] => folder
  | _, .change folder :: events => folderAfter folder events
  | folder, .ask _ :: events => folderAfter folder events

/-- What the store at `path` answers to the queries of a run, first one first. -/
def answers : Folder → List Event → List (Logged OverrideAnswer)
  | _, [] => []
  | _, .change folder :: events => answers folder events
  | folder, .ask query :: events =>
    FileStore.provider ⟨path, folder.read path⟩ query :: answers folder events

theorem answers_append (start : Folder) (before after : List Event) :
    answers path start (before ++ after) =
      answers path start before ++ answers path (folderAfter start before) after := by
  induction before generalizing start with
  | nil => rfl
  | cons event before ih =>
      cases event with
      | change folder => exact ih folder
      | ask query =>
          simp only [List.cons_append, answers, folderAfter, ih]

/-- **A file of records refines a store in memory.**  In every run, a query is answered by what the
file holds when it is asked.  If that was written for some records, the answer is the one of a
memory store into which they were inserted from the last to the first; if it is no list of records,
or cannot be read at all, there is only an error that names the file.  Runs that agree on what the
file holds then agree on the answer, whatever it held before. -/
theorem answers_refine (start : Folder) (before after : List Event) (query : OverrideQuery) :
    let now := folderAfter start before
    ∃ answer,
      answers path start (before ++ .ask query :: after) =
        answers path start before ++ answer :: answers path now after ∧
      (∀ style records, now.read path =
          .ok (textBytes ((Json.Value.list (records.map OverrideRecord.toValue)).render style)) →
        Holds (now.read path) records) ∧
      (∀ records, Holds (now.read path) records →
        answer = (MemoryStore.empty.insertAll records.reverse).provider query ∧
          (records = [] → answer.value = (OverrideProvider.empty query).value)) ∧
      ((∀ records, ¬ Holds (now.read path) records) →
        ∃ reason, answer.value = .error (.providerUnavailable (path ++ ": " ++ reason))) ∧
      ∀ start' before' after', (folderAfter start' before').read path = now.read path →
        answers path start' (before' ++ .ask query :: after') =
          answers path start' before' ++ answer ::
            answers path (folderAfter start' before') after' := by
  intro now
  refine ⟨FileStore.provider ⟨path, now.read path⟩ query, answers_append path start before _,
    ?_, ?_, fun none => provider_of_not_holds path none query, ?_⟩
  · intro style records written
    rw [written]
    exact holds_render style records
  · intro records holds
    rw [provider_of_holds path holds]
    refine ⟨rfl, ?_⟩
    rintro rfl
    exact value_provider_insertAll_nil query
  · intro start' before' after' same
    rw [answers_append, ← same]
    rfl

/-- The first of these records is the one that counts in a file. -/
def twice : List OverrideRecord := [⟨"chat", "new"⟩, ⟨"mail", "first"⟩, ⟨"chat", "old"⟩]

/-- A folder with no file, and one with these records in a file. -/
def bare : Folder := ⟨[], [], []⟩

def stocked : Folder := ⟨[], [], [(["icons"], textBytes (OverrideRecord.listToJson twice))]⟩

def chat : OverrideQuery := .forPackage "content://top.easterNday.ICON/ICON" "chat"

theorem read_bare : bare.read "icons" = .error .missing := by decide

theorem read_stocked :
    stocked.read "icons" = .ok (textBytes (OverrideRecord.listToJson twice)) := by
  rfl

theorem answers_refine_rewritten :
    ∃ first last reason row, answers "icons" bare [.ask chat, .change stocked, .ask chat] =
        [first, last] ∧ first.value = .error (.providerUnavailable ("icons: " ++ reason)) ∧
      last.value = .ok (some row) ∧ row.get Column.iconBitmap = .ok "new" := by
  obtain ⟨first, run, -, -, unavailable, -⟩ :=
    answers_refine "icons" bare [] [.change stocked, .ask chat] chat
  obtain ⟨last, run', written, held, -, -⟩ :=
    answers_refine "icons" bare [.ask chat, .change stocked] [] chat
  have nothing : ∀ records, ¬ Holds (bare.read "icons") records := by
    rintro records ⟨text, read, -⟩
    rw [read_bare] at read
    cases read
  obtain ⟨reason, failed⟩ := unavailable nothing
  obtain ⟨refined, -⟩ := held twice (written .compact twice read_stocked)
  obtain ⟨rfl, -⟩ := List.cons.inj run
  refine ⟨_, last, reason, .ofRecord ⟨"chat", "new"⟩ chat.projection, run', failed, ?_, rfl⟩
  rw [refined]
  rfl

end FileStore

end StatusIcon
