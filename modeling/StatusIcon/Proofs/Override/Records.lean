/-
# StatusIcon.Proofs.Override.Records -- which files hold records

A list of records is a text of JSON with a language of its own (`OverrideRecord.ListText`), and the
reader accepts exactly the texts of it (`listOfJson_eq_ok_iff`).  What is written for records, in
either style, is such a text of the same records (`listText_render`).
-/
import StatusIcon.Override.FileStore
import StatusIcon.Proofs.Json.Records
import StatusIcon.Proofs.Json.Writing

set_option autoImplicit false

namespace StatusIcon

namespace OverrideRecord

open Json Json.Grammar

/-- The record with this text in the column; both columns are texts. -/
def put (column : String) (r : OverrideRecord) (text : String) : OverrideRecord :=
  if column = Column.packageName then { r with package := text } else { r with icon := text }

/-- What the value of a column makes of a record. -/
def ColumnText (column : String) (r : OverrideRecord) (w : List Char) (next : OverrideRecord) :
    Prop :=
  ∃ text, StringText w text ∧ next = r.put column text

/-- A record, as an object with both columns or as a list of their two values. -/
def Text (w : List Char) (r : OverrideRecord) : Prop := RecordText shape ColumnText ⟨"", ""⟩ w r

/-- A list of records, as a text between spaces. -/
def ListText (text : String) (records : List OverrideRecord) : Prop :=
  ∃ before w after, Blank before ∧ Json.ListText Text w records ∧ Blank after ∧
    text.toList = before ++ (w ++ after)

/-! ## Reading -/

theorem membersRead : MembersRead shape ColumnText := by
  intro m member record
  simp only [shape, List.mem_cons, List.not_mem_nil, or_false] at member
  rcases member with rfl | rfl
  · exact reads_readString.ofReader _ _ _ record
  · exact reads_readString.ofReader _ _ _ record

theorem reads_read : Reads read Text := reads_shape membersRead _

theorem listOfJson_eq_ok_iff {text : String} {records : List OverrideRecord} :
    listOfJson text = .ok records ↔ ListText text records :=
  reads_read.list.parse_eq_ok_iff

/-! ## Writing -/

theorem text_value (style : Style) (depth : Nat) (r : OverrideRecord) :
    Text (Printer.value style depth r.toValue) r := by
  obtain ⟨body, written, members⟩ := members_value_object style depth
    [(Column.packageName, .string r.package), (Column.iconBitmap, .string r.icon)]
  refine .inl ⟨_, body, members, ?_, written⟩
  have package :
      ColumnText Column.packageName ⟨"", ""⟩ (Printer.quoted r.package) ⟨r.package, ""⟩ :=
    ⟨_, stringText_quoted r.package, rfl⟩
  have icon : ColumnText Column.iconBitmap ⟨r.package, ""⟩ (Printer.quoted r.icon) r :=
    ⟨_, stringText_quoted r.icon, rfl⟩
  have fresh : Column.iconBitmap ∉ [Column.packageName] := by decide
  refine .known (body_escaped _) ⟨packageMember, by simp [shape], rfl⟩ (by simp) package ?_
  refine .known (body_escaped _) ⟨iconMember, by simp [shape], rfl⟩ fresh icon (.done ?_)
  intro m member
  simp only [shape, List.mem_cons, List.not_mem_nil, or_false] at member
  rcases member with rfl | rfl
  · simp [packageMember, Member.ofReader]
  · simp [iconMember, Member.ofReader]

theorem listText_render (style : Style) (records : List OverrideRecord) :
    ListText ((Value.list (records.map toValue)).render style) records := by
  obtain ⟨body, written, items⟩ := items_value_list style 0 (records.map toValue)
  have texts : List.Forall₂ Text
      ((records.map toValue).map (Printer.value style 1)) records := by
    rw [List.map_map, List.forall₂_map_left_iff]
    exact List.forall₂_same.mpr fun r _ => text_value style 1 r
  refine ⟨[], '[' :: body, [], blank_nil, ⟨_, body, items, texts, rfl⟩, blank_nil, ?_⟩
  simp [Value.render, written]

end OverrideRecord

end StatusIcon
