/-
# StatusIcon.Main -- the program

The only module that touches files.  It gathers what a request looks at into a `Folder`, runs the
request on it, and writes the file that came out different.  What is noted goes to the error output,
except what is noted for whoever looks for a fault.  The image library is the plain one.
-/
import StatusIcon.CommandLine.Run

set_option autoImplicit false

namespace StatusIcon.CommandLine

def pathOf (place : List String) : String := "/" ++ "/".intercalate place

def folderExists (place : List String) : IO Bool := do
  ((← IO.currentDir) / pathOf place).isDir

def bytesAt? (place : List String) : IO (Option (List UInt8)) := do
  try
    return some (← IO.FS.readBinFile (pathOf place)).toList
  catch _ => return none

/-- The files that the paths name, as far as they are there, and the folders they are in. -/
def gather (here : List String) (paths : List String) : IO Folder := do
  let mut folder : Folder := ⟨here, [], []⟩
  for path in paths do
    let place := Path.place here path
    if ← folderExists place then
      folder := { folder with folders := place :: folder.folders }
    else
      if ← folderExists place.dropLast then
        folder := { folder with folders := place.dropLast :: folder.folders }
      if let some bytes ← bytesAt? place then
        folder := { folder with files := (place, bytes) :: folder.files }
  return folder

def report (line : LogLine) : IO Unit :=
  if line.level.isLoud then IO.eprintln ("[" ++ line.level.name ++ "] " ++ line.text) else pure ()

/-- Carries out a request on the files of this computer. -/
def perform (request : Request) : IO UInt32 := do
  let here := Path.steps (← IO.currentDir).toString
  let before ← gather here request.paths
  let library := Image.Library.plain
  let run := request.run library before
  if let some output := request.output? then
    let place := Path.place here output
    if let some bytes := run.value.folder.file? place then
      if before.file? place ≠ some bytes then
        IO.FS.writeBinFile (pathOf place) ⟨bytes.toArray⟩
  run.lines.forM report
  if let some text := run.value.printed then IO.println text
  match run.value.result with
  | .ok () => return 0
  | .error e =>
    report ⟨.error, e.message library.describe⟩
    return 1

def refuse (e : UsageError) : IO UInt32 := do
  if e = .help || e = .version then
    IO.println e.message
    return 0
  else
    IO.eprintln e.message
    return 2

end StatusIcon.CommandLine

open StatusIcon.CommandLine in
def main (words : List String) : IO UInt32 :=
  match Request.ofWords words with
  | .ok request => perform request
  | .error e => refuse e
