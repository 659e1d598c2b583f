/-
# StatusIcon.Png.Checksum -- the checksum of a chunk

The remainder of the bytes, taken as a polynomial over two elements, low bits first, with all bits
turned over before and after.
-/

set_option autoImplicit false

namespace StatusIcon.Png

/-- One step of the division: the low bit leaves, and takes the divisor with it if it is one. -/
def crcStep (r : UInt32) : UInt32 :=
  if (r &&& 1) = 1 then (0xEDB88320 : UInt32) ^^^ (r >>> 1) else r >>> 1

def crcByte (r : UInt32) (b : UInt8) : UInt32 :=
  let r := r ^^^ b.toUInt32
  crcStep (crcStep (crcStep (crcStep (crcStep (crcStep (crcStep (crcStep r)))))))

def crc (bytes : List UInt8) : Nat := (bytes.foldl crcByte 0xFFFFFFFF ^^^ 0xFFFFFFFF).toNat

end StatusIcon.Png
