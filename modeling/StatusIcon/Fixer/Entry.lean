/-
# StatusIcon.Fixer.Entry -- notifications and their small icons

Of a posted notification only two things matter here: the package that posted it and its small icon.
The icon may be a bitmap, something else that only the host can draw, or not there at all.
-/
import StatusIcon.Bitmap

set_option autoImplicit false

namespace StatusIcon

inductive SmallIcon where
  | bitmap (b : Bitmap)
  /-- What the host draws itself, a vector for instance. -/
  | drawable (kind : String)
  deriving DecidableEq, Repr

def SmallIcon.bitmap? : SmallIcon → Option Bitmap
  | .bitmap b => some b
  | .drawable _ => none

/-- The sides of an icon that is a bitmap. -/
def SmallIcon.extent? (icon : SmallIcon) : Option Extent := icon.bitmap?.map Bitmap.extent

structure IconEntry where
  package : String
  icon : Option SmallIcon
  deriving DecidableEq, Repr

namespace IconEntry

def setIcon (e : IconEntry) (b : Bitmap) : IconEntry := { e with icon := some (.bitmap b) }

end IconEntry

end StatusIcon
