/-
# StatusIcon.CommandLine.Run -- carrying out a request

A request is carried out on a folder: it reads files of it, and may end with one file written.

* `fix` runs the whole chain of overrides and silhouettes for one package,
* `silhouette` draws without asking anything,
* `encode` prints the text of an image, and `decode` makes an image of a text.

Images are read and written as what the extension of their file says, with the help of an image
library.  The file that is written is emptied first, so an image that its format refuses leaves what
was written of it by then.
-/
import StatusIcon.CommandLine.Request
import StatusIcon.Fixer.Basic
import StatusIcon.Override.FileStore

set_option autoImplicit false

namespace StatusIcon.CommandLine

/-- What a run leaves behind. -/
structure Run where
  folder : Folder
  printed : Option String
  result : Except IconError Unit

/-- A run that failed before it changed anything. -/
def Run.failed (folder : Folder) (e : IconError) : Run := ⟨folder, none, .error e⟩

/-! ## Images in files -/

def openImage (library : Image.Library) (folder : Folder) (path : String) :
    Except IconError Bitmap :=
  match folder.read path, Image.Format.ofPath? library path with
  | .error .missing, _ | .error .throughFile, _ => .error (.image .io)
  | _, none => .error (.image .unsupported)
  | .error _, _ => .error (.image .io)
  | .ok bytes, some format =>
    match format.read bytes with
    | .ok b => .ok b
    | .error e => .error (.image e)

def saveImage (library : Image.Library) (folder : Folder) (path : String) (b : Bitmap) :
    Folder × Except IconError Unit :=
  match Image.Format.ofPath? library path with
  | none => (folder, .error (.image .unsupported))
  | some format =>
    match folder.write path [] with
    | .error _ => (folder, .error (.image .io))
    | .ok emptied =>
      let (bytes, ended) := format.write library b
      match folder.write path bytes with
      | .error _ => (emptied, .error (.image .io))
      | .ok written => (written, ended.mapError .image)

/-- Ends a run by saving an image, which is noted. -/
def finish (library : Image.Library) (folder : Folder) (output : String) (b : Bitmap) :
    Logged Run :=
  match saveImage library folder output b with
  | (folder, .ok ()) => do
    Logged.note .info ("wrote " ++ output)
    return ⟨folder, none, .ok ()⟩
  | (folder, .error e) => return ⟨folder, none, .error e⟩

/-! ## The commands -/

def noteOutcome : FixOutcome → Logged Unit
  | .override _ => Logged.note .info "icon replaced by override"
  | .silhouette _ => Logged.note .info "icon replaced by silhouette"
  | .unchanged reason => Logged.note .info ("icon unchanged: " ++ reason.name)

/-- The configuration of a run of `fix`. -/
def loadConfig (folder : Folder) : Option String → Except IconError FixerConfig
  | none => .ok {}
  | some path => FixerConfig.ofFile (folder.read path)

/-- The overrides of a run of `fix`. -/
def overridesAt (folder : Folder) : Option String → OverrideProvider
  | none => .empty
  | some path => FileStore.provider ⟨path, folder.read path⟩

def runFix (library : Image.Library) (folder : Folder) (package : String)
    (overrides config : Option String) (input output : String) : Logged Run :=
  match loadConfig folder config with
  | .error e => return .failed folder e
  | .ok config =>
    match openImage library folder input with
    | .error e => return .failed folder e
    | .ok b => do
      let fixer := IconFixer.new library config (overridesAt folder overrides)
      let (outcome, entry) ← fixer.fixOrKeep ⟨package, some (.bitmap b)⟩
      noteOutcome outcome
      match entry.icon with
      | some (.bitmap icon) => finish library folder output icon
      | _ => return ⟨folder, none, .ok ()⟩

def runSilhouette (library : Image.Library) (folder : Folder) (input output : String) :
    Logged Run :=
  match openImage library folder input with
  | .error e => return .failed folder e
  | .ok b => do
    match ← b.silhouette Ratio.default with
    | .error e => return .failed folder e
    | .ok drawn => finish library folder output drawn

def runEncode (library : Image.Library) (folder : Folder) (input : String) : Run :=
  match openImage library folder input with
  | .error e => .failed folder e
  | .ok b =>
    match Icon.toTextBy library.png b with
    | .error e => .failed folder e
    | .ok text => ⟨folder, some text, .ok ()⟩

def runDecode (library : Image.Library) (folder : Folder) (input output : String) : Logged Run :=
  match folder.readText input with
  | .error e => return .failed folder (.io e)
  | .ok text =>
    match Icon.ofText library text with
    | .error e => return .failed folder e
    | .ok b => finish library folder output b

def Request.run (library : Image.Library) (folder : Folder) : Request → Logged Run
  | .fix package overrides config input output =>
    runFix library folder package overrides config input output
  | .silhouette input output => runSilhouette library folder input output
  | .encode input => return runEncode library folder input
  | .decode input output => runDecode library folder input output

end StatusIcon.CommandLine
