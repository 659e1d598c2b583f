/-
# StatusIcon.Override.Record -- stored overrides and the rows they answer with

A record is what a store keeps for a package: its name and the icon as text.  A row is what a query
gets to see of it, the columns that were asked for and exist.

Records are kept as JSON objects with both columns, in this order; both are required.
-/
import StatusIcon.Icon.Text
import StatusIcon.Json.Printer
import StatusIcon.Json.Shape
import StatusIcon.Override.Query

set_option autoImplicit false

namespace StatusIcon

structure OverrideRecord where
  package : String
  icon : String
  deriving DecidableEq, Repr

namespace OverrideRecord

/-- The record that gives a package this icon, as `encoder` writes it. -/
def ofIconBy (encoder : Png.Encoder) (package : String) (icon : Bitmap) :
    Except IconError OverrideRecord :=
  match Icon.toTextBy encoder icon with
  | .ok text => .ok ⟨package, text⟩
  | .error e => .error e

/-! ## Records as JSON -/

def packageMember : Json.Member OverrideRecord :=
  .ofReader Column.packageName true Json.readString fun r text => { r with package := text }

def iconMember : Json.Member OverrideRecord :=
  .ofReader Column.iconBitmap true Json.readString fun r text => { r with icon := text }

def shape : Json.Shape OverrideRecord := ⟨"OverrideRecord", [packageMember, iconMember]⟩

def read (s : List Char) : Json.Result OverrideRecord := shape.read ⟨"", ""⟩ s

def ofJson (text : String) : Except Json.Error OverrideRecord := Json.parse read text

def toValue (r : OverrideRecord) : Json.Value :=
  .object [(Column.packageName, .string r.package), (Column.iconBitmap, .string r.icon)]

def toJson (r : OverrideRecord) : String := r.toValue.render .compact

/-- The records of a text that is a list of them. -/
def listOfJson (text : String) : Except Json.Error (List OverrideRecord) :=
  Json.parse (Json.readList read) text

def listToJson (records : List OverrideRecord) : String :=
  (Json.Value.list (records.map toValue)).render .compact

/-- The value of a column, if records have it. -/
def column? (r : OverrideRecord) (name : String) : Option String :=
  if name = Column.packageName then some r.package
  else if name = Column.iconBitmap then some r.icon
  else none

end OverrideRecord

/-- Columns with their values. -/
structure OverrideRow where
  columns : List (String × String)
  deriving DecidableEq, Repr

namespace OverrideRow

/-- The columns of a record that are asked for and exist. -/
def ofRecord (record : OverrideRecord) (projection : List String) : OverrideRow :=
  ⟨projection.filterMap fun name => (record.column? name).map fun value => (name, value)⟩

def get (row : OverrideRow) (column : String) : Except IconError String :=
  match row.columns.lookup column with
  | some value => .ok value
  | none => .error (.missingColumn column)

/-- The icon of a row that has one. -/
def icon (library : Image.Library) (row : OverrideRow) : Except IconError Bitmap :=
  match row.get Column.iconBitmap with
  | .ok text => Icon.ofText library text
  | .error e => .error e

end OverrideRow

end StatusIcon
