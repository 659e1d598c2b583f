/-
# StatusIcon.Override.Provider -- who answers queries

A provider answers a query with a row, with no row, or with an error, and may note what it did.
Every provider here refuses a malformed address.

A store with records serves one address and answers a query for a package with the first record of
that package.  A query to another address is no error, and is noted; a query without the selection
for packages has no row.
-/
import StatusIcon.Log
import StatusIcon.Override.Record

set_option autoImplicit false

namespace StatusIcon

/-- What a query is answered with. -/
abbrev OverrideAnswer := Except IconError (Option OverrideRow)

abbrev OverrideProvider := OverrideQuery → Logged OverrideAnswer

namespace OverrideProvider

/-- The provider with no rows. -/
def empty : OverrideProvider := fun query =>
  match query.contentUri with
  | .ok _ => pure (.ok none)
  | .error e => pure (.error e)

/-- The store of these records at the address `served`. -/
def ofRecords (served : ContentUri) (records : List OverrideRecord) : OverrideProvider :=
  fun query =>
    match query.contentUri with
    | .error e => pure (.error e)
    | .ok uri =>
      if uri = served then
        match query.package? with
        | none => pure (.ok none)
        | some package =>
          let found := records.find? fun record => record.package == package
          pure (.ok (found.map fun record => OverrideRow.ofRecord record query.projection))
      else do
        Logged.note .debug ("no override store at " ++ query.uri)
        return .ok none

end OverrideProvider

end StatusIcon
