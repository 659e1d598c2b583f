/-
# StatusIcon.Fixer.Basic -- small icons fit for the status bar

A fixer decides what becomes of the small icon of a notification, in three steps of which the first
that applies counts:

* the *override* that the user stored for the package, whatever the icon is (`IconFixer.override`);
  a lookup that fails is noted and is as if there were none;
* the *silhouette* of an icon that is a bitmap and not grey (`IconFixer.redraw`);
* the icon stays *unchanged*.

Only the silhouette can fail, for a bitmap too small to be sampled.  Whoever cannot use a failure
keeps the icon as it is (`IconFixer.fixOrKeep`).

A fixer has settings of its own.  A configuration that is applied to it sets each of them, and the
configuration that it exports is put together from them again.  Its overrides are images that an
image library may have to read.
-/
import StatusIcon.Fixer.Config
import StatusIcon.Fixer.Entry
import StatusIcon.Override.Provider
import StatusIcon.Silhouette.Filter

set_option autoImplicit false

namespace StatusIcon

/-- Why an icon is left as it was posted. -/
inductive Unchanged where
  | alreadyGrayscale
  | notBitmap
  | noDrawable
  | disabled
  | failed
  deriving DecidableEq, Repr

def Unchanged.name : Unchanged → String
  | .alreadyGrayscale => "AlreadyGrayscale"
  | .notBitmap => "NotBitmap"
  | .noDrawable => "NoDrawable"
  | .disabled => "Disabled"
  | .failed => "Failed"

inductive FixOutcome where
  | override (icon : Bitmap)
  | silhouette (icon : Bitmap)
  | unchanged (reason : Unchanged)
  deriving DecidableEq, Repr

namespace FixOutcome

/-- The icon that takes the place of the posted one. -/
def icon? : FixOutcome → Option Bitmap
  | .override icon => some icon
  | .silhouette icon => some icon
  | .unchanged _ => none

def isChanged (o : FixOutcome) : Bool := o.icon?.isSome

end FixOutcome

structure IconFixer where
  library : Image.Library
  provider : OverrideProvider
  overrideUri : String
  useOverrides : Bool
  autoSilhouette : Bool
  silhouette : SilhouetteRule
  grayscale : GrayscaleRule

namespace IconFixer

/-- Takes over every setting of a configuration. -/
def applyConfig (f : IconFixer) (config : FixerConfig) : IconFixer :=
  { f with
    overrideUri := config.overrideUri
    useOverrides := config.useOverrides
    autoSilhouette := config.autoSilhouette
    silhouette := config.silhouette.toRule
    grayscale := config.grayscale.toRule }

/-- A fixer before it is configured. -/
def blank (library : Image.Library) (provider : OverrideProvider) : IconFixer where
  library
  provider
  overrideUri := ""
  useOverrides := true
  autoSilhouette := true
  silhouette := .default
  grayscale := {}

def new (library : Image.Library) (config : FixerConfig) (provider : OverrideProvider) :
    IconFixer :=
  (blank library provider).applyConfig config

def exportConfig (f : IconFixer) : FixerConfig where
  overrideUri := f.overrideUri
  useOverrides := f.useOverrides
  autoSilhouette := f.autoSilhouette
  silhouette := .ofRule f.silhouette
  grayscale := .ofRule f.grayscale

/-- The override stored for a package, if there is one. -/
def lookupOverride (f : IconFixer) (package : String) :
    Logged (Except IconError (Option Bitmap)) := do
  match ← f.provider (OverrideQuery.forPackage f.overrideUri package) with
  | .error e => return .error e
  | .ok none => return .ok none
  | .ok (some row) =>
    match row.icon f.library with
    | .ok icon => return .ok (some icon)
    | .error e => return .error e

/-- The override to use for a package; none if overrides are off or the lookup fails. -/
def override (f : IconFixer) (package : String) : Logged (Option Bitmap) :=
  if f.useOverrides then do
    match ← f.lookupOverride package with
    | .ok (some icon) => do
      Logged.note .info (package ++ ": using icon override")
      return some icon
    | .ok none => do
      Logged.note .debug (package ++ ": no icon override")
      return none
    | .error e => do
      Logged.note .warn
        (package ++ ": icon override lookup failed: " ++ e.message f.library.describe)
      return none
  else return none

/-- What becomes of an icon without an override. -/
def redraw (f : IconFixer) (entry : IconEntry) : Logged (Except IconError FixOutcome) :=
  match entry.icon with
  | none => return .ok (.unchanged .noDrawable)
  | some (.drawable _) => return .ok (.unchanged .notBitmap)
  | some (.bitmap b) =>
    if !f.autoSilhouette then return .ok (.unchanged .disabled)
    else if b.isGrayscale f.grayscale then do
      Logged.note .debug (entry.package ++ ": small icon already grayscale")
      return .ok (.unchanged .alreadyGrayscale)
    else do
      match ← b.silhouette f.silhouette.thresholdRatio with
      | .error e => return .error e
      | .ok drawn => do
        Logged.note .info (entry.package ++ ": generated silhouette icon")
        return .ok (.silhouette drawn)

/-- What should become of the small icon of an entry. -/
def fix (f : IconFixer) (entry : IconEntry) : Logged (Except IconError FixOutcome) := do
  match ← f.override entry.package with
  | some icon => return .ok (.override icon)
  | none => f.redraw entry

/-- What became of an entry's small icon, and the entry with it. -/
def fixOrKeep (f : IconFixer) (entry : IconEntry) : Logged (FixOutcome × IconEntry) := do
  match ← f.fix entry with
  | .ok outcome =>
    match outcome.icon? with
    | some icon => return (outcome, entry.setIcon icon)
    | none => return (outcome, entry)
  | .error e => do
    Logged.note .error
      (entry.package ++ ": keeping original icon: " ++ e.message f.library.describe)
    return (.unchanged .failed, entry)

end IconFixer

end StatusIcon
