/-
# StatusIcon.Override.Query -- questions to an override store

A query names a store, the columns it wants, and a selection with arguments.  Stores understand one
selection, the one for a single package; its first argument is the package and others are ignored.
-/
import StatusIcon.Override.Uri

set_option autoImplicit false

namespace StatusIcon

namespace Column

def packageName : String := "packageName"

def iconBitmap : String := "iconBitmap"

end Column

structure OverrideQuery where
  uri : String
  projection : List String
  selection : String
  arguments : List String
  deriving DecidableEq, Repr

namespace OverrideQuery

/-- The selection of a single package. -/
def packageSelection : String := Column.packageName ++ " = ?"

/-- Asks the store at `uri` for both columns of a package. -/
def forPackage (uri package : String) : OverrideQuery :=
  ⟨uri, [Column.packageName, Column.iconBitmap], packageSelection, [package]⟩

def contentUri (q : OverrideQuery) : Except IconError ContentUri := ContentUri.parse q.uri

/-- The package that is selected, if the selection is the one for packages. -/
def package? (q : OverrideQuery) : Option String :=
  if q.selection = packageSelection then q.arguments.head? else none

end OverrideQuery

end StatusIcon
