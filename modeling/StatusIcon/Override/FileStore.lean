/-
# StatusIcon.Override.FileStore -- overrides kept in a file

The file holds a JSON list of records and is read anew for every query, before the query itself is
looked at.  A file that cannot be read, or that holds something else, makes the store unavailable,
which is not the same as a store without records.
-/
import StatusIcon.Override.Provider

set_option autoImplicit false

namespace StatusIcon

/-- A file as it is found at the time of a query. -/
structure FileStore where
  path : String
  content : Except FileError (List UInt8)

namespace FileStore

/-- The records of the file, or why there are none to be had. -/
def records (s : FileStore) : Except IconError (List OverrideRecord) :=
  let text : Except FileError String :=
    match s.content with
    | .ok bytes => textOfBytes bytes
    | .error e => .error e
  match text with
  | .error e => .error (.providerUnavailable (s.path ++ ": " ++ e.message))
  | .ok text =>
    match OverrideRecord.listOfJson text with
    | .ok records => .ok records
    | .error e => .error (.providerUnavailable (s.path ++ ": " ++ e.message))

def provider (s : FileStore) : OverrideProvider := fun query =>
  match s.records with
  | .ok records => OverrideProvider.ofRecords .default records query
  | .error e => pure (.error e)

end FileStore

end StatusIcon
