/-
# StatusIcon.Fixer.Config -- what a fixer can be told

A configuration says where overrides are looked up and whether they are, whether silhouettes are
drawn and at which ratio, and when an icon counts as grey.

The settings for silhouettes and for greys are records of their own.  They are what is written down;
the filter and the detector have rules (`SilhouetteRule`, `GrayscaleRule`), and each kind is made of
the other field by field.  A ratio that is written down may be any number; that of a rule lies
between zero and one.

As JSON a configuration is an object with the settings as two more objects in it.  Every member may
be missing, at both levels, and then has its default.
-/
import StatusIcon.Grayscale.Basic
import StatusIcon.Json.Printer
import StatusIcon.Json.Shape
import StatusIcon.Override.Uri
import StatusIcon.Silhouette.Threshold

set_option autoImplicit false

namespace StatusIcon

/-! ## Settings and rules -/

structure SilhouetteSettings where
  thresholdRatio : Single := Ratio.default
  deriving DecidableEq, Repr

namespace SilhouetteSettings

def toRule (s : SilhouetteSettings) : SilhouetteRule := .ofRatio s.thresholdRatio

def ofRule (r : SilhouetteRule) : SilhouetteSettings where
  thresholdRatio := r.thresholdRatio

end SilhouetteSettings

/-- The defaults are those of the rule. -/
structure GrayscaleSettings where
  tolerance : UInt8 := GrayscaleRule.tolerance {}
  alphaTolerance : UInt8 := GrayscaleRule.alphaTolerance {}
  compactSize : UInt32 := GrayscaleRule.compactSize {}
  deriving DecidableEq, Repr

namespace GrayscaleSettings

def toRule (s : GrayscaleSettings) : GrayscaleRule where
  tolerance := s.tolerance
  alphaTolerance := s.alphaTolerance
  compactSize := s.compactSize

def ofRule (r : GrayscaleRule) : GrayscaleSettings where
  tolerance := r.tolerance
  alphaTolerance := r.alphaTolerance
  compactSize := r.compactSize

end GrayscaleSettings

/-! ## Configurations -/

structure FixerConfig where
  overrideUri : String := ContentUri.default.text
  useOverrides : Bool := true
  autoSilhouette : Bool := true
  silhouette : SilhouetteSettings := {}
  grayscale : GrayscaleSettings := {}
  deriving DecidableEq, Repr

namespace FixerConfig

/-! ## Reading -/

def silhouetteShape : Json.Shape SilhouetteSettings :=
  ⟨"SilhouetteSettings", [
    .ofReader "thresholdRatio" false Json.readSingle
      fun s ratio => { s with thresholdRatio := ratio }]⟩

def grayscaleShape : Json.Shape GrayscaleSettings :=
  ⟨"GrayscaleSettings", [
    .ofReader "tolerance" false (Json.readNatural 8)
      fun s n => { s with tolerance := UInt8.ofNat n },
    .ofReader "alphaTolerance" false (Json.readNatural 8)
      fun s n => { s with alphaTolerance := UInt8.ofNat n },
    .ofReader "compactSize" false (Json.readNatural 32)
      fun s n => { s with compactSize := UInt32.ofNat n }]⟩

def shape : Json.Shape FixerConfig :=
  ⟨"FixerConfig", [
    .ofReader "overrideUri" false Json.readString fun c text => { c with overrideUri := text },
    .ofReader "useOverrides" false Json.readBool fun c b => { c with useOverrides := b },
    .ofReader "autoSilhouette" false Json.readBool fun c b => { c with autoSilhouette := b },
    .ofReader "silhouette" false (silhouetteShape.read {}) fun c s => { c with silhouette := s },
    .ofReader "grayscale" false (grayscaleShape.read {}) fun c s => { c with grayscale := s }]⟩

def ofJson (text : String) : Except Json.Error FixerConfig := Json.parse (shape.read {}) text

/-- The configuration in the bytes of a file, if they could be had. -/
def ofFile (content : Except FileError (List UInt8)) : Except IconError FixerConfig :=
  match content with
  | .error e => .error (.io e)
  | .ok bytes =>
    match textOfBytes bytes with
    | .error e => .error (.io e)
    | .ok text =>
      match ofJson text with
      | .ok c => .ok c
      | .error e => .error (.config e)

/-! ## Writing -/

def toValue (c : FixerConfig) : Json.Value :=
  .object [
    ("overrideUri", .string c.overrideUri),
    ("useOverrides", .bool c.useOverrides),
    ("autoSilhouette", .bool c.autoSilhouette),
    ("silhouette", .object [("thresholdRatio", .single c.silhouette.thresholdRatio)]),
    ("grayscale", .object [
      ("tolerance", .natural c.grayscale.tolerance.toNat),
      ("alphaTolerance", .natural c.grayscale.alphaTolerance.toNat),
      ("compactSize", .natural c.grayscale.compactSize.toNat)])]

def toJson (style : Json.Style) (c : FixerConfig) : String := c.toValue.render style

end FixerConfig

end StatusIcon
