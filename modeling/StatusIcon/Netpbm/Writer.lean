/-
# StatusIcon.Netpbm.Writer -- writing a portable anymap

The only kind that holds an alpha is the one with a header of lines, so every bitmap is written as
that kind, whatever the name of the file promises.
-/
import StatusIcon.Bitmap
import StatusIcon.Netpbm.Header

set_option autoImplicit false

namespace StatusIcon.Netpbm

def write (b : Bitmap) : List UInt8 :=
  letters ("P7\nWIDTH " ++ Nat.repr b.width ++ "\nHEIGHT " ++ Nat.repr b.height ++
    "\nDEPTH 4\nMAXVAL 255\nTUPLTYPE RGB_ALPHA\nENDHDR\n") ++
    b.pixels.toList.flatMap fun p => [p.red, p.green, p.blue, p.alpha]

end StatusIcon.Netpbm
