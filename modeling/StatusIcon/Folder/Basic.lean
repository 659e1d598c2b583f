/-
# StatusIcon.Folder.Basic -- files in folders

A folder is the list of the files in it and below it, each with the steps that lead to it, and one
place in it from which paths begin unless they begin at the top.  Whatever leads to a file is itself
a folder, and other folders are listed.

* Reading asks for a file: a folder has no bytes, a path through a file leads nowhere, and neither
  does a path with a step that is not there.
* Writing replaces the file at the path or adds one; the folder that is to hold it must be there.

All other files stay what they are.
-/
import StatusIcon.Folder.Path

set_option autoImplicit false

namespace StatusIcon

/-- Why a file cannot be read as asked. -/
inductive FileError where
  | missing
  | throughFile
  | isFolder
  | notText
  deriving DecidableEq, Repr

def FileError.message : FileError → String
  | .missing => "No such file or directory (os error 2)"
  | .throughFile => "Not a directory (os error 20)"
  | .isFolder => "Is a directory (os error 21)"
  | .notText => "stream did not contain valid UTF-8"

/-- The characters of bytes, which must be UTF-8. -/
def textOfBytes (bytes : List UInt8) : Except FileError String :=
  match String.fromUTF8? ⟨bytes.toArray⟩ with
  | some text => .ok text
  | none => .error .notText

structure Folder where
  here : List String
  folders : List (List String)
  files : List (List String × List UInt8)

namespace Folder

/-- The bytes of the file that these steps lead to. -/
def file? (f : Folder) (place : List String) : Option (List UInt8) := f.files.lookup place

/-- These steps lead to a folder. -/
def isFolder (f : Folder) (place : List String) : Bool :=
  place.isPrefixOf f.here || f.folders.any (place.isPrefixOf ·) ||
    f.files.any fun (other, _) => place.isPrefixOf other && place ≠ other

/-- Where the steps lead from `place`, which must be a folder for each of them.  The top is above
itself. -/
def walk (f : Folder) (place : List String) : List String → Except FileError (List String)
  | [] => .ok place
  | step :: steps =>
    if f.isFolder place then
      if step = ".." then walk f place.dropLast steps else walk f (place ++ [step]) steps
    else if (f.file? place).isSome then .error .throughFile
    else .error .missing

/-- Where a path leads; a path of no character leads nowhere. -/
def locate (f : Folder) (path : String) : Except FileError (List String) :=
  if path = "" then .error .missing
  else f.walk (if Path.beginsAtTop path then [] else f.here) (Path.steps path)

def read (f : Folder) (path : String) : Except FileError (List UInt8) := do
  let place ← f.locate path
  if f.isFolder place then .error .isFolder
  else
    match f.file? place with
    | none => .error .missing
    | some bytes => if Path.endsAtFolder path then .error .throughFile else .ok bytes

def readText (f : Folder) (path : String) : Except FileError String := do
  textOfBytes (← f.read path)

/-- The folder with these bytes in the file at `place`. -/
def put (f : Folder) (place : List String) (bytes : List UInt8) : Folder :=
  { f with files := (place, bytes) :: f.files.filter fun (other, _) => other ≠ place }

def write (f : Folder) (path : String) (bytes : List UInt8) : Except FileError Folder := do
  let place ← f.locate path
  if f.isFolder place then .error .isFolder
  else if Path.endsAtFolder path then
    if (f.file? place).isSome then .error .throughFile else .error .isFolder
  else .ok (f.put place bytes)

end Folder

end StatusIcon
