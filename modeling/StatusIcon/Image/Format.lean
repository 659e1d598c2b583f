/-
# StatusIcon.Image.Format -- which format an image is in

The format of bytes is told by how they begin (`Format.ofSignature?`), the format of a file by the
extension of its name, in capitals or not (`Format.ofPath?`).  The two need not agree: a file is
read as what its name says.

Bitmaps have four channels of a byte.  A PNG and a portable map can hold them; a farbfeld has wider
channels and is only read.  What further formats do is up to the library.
-/
import StatusIcon.Farbfeld
import StatusIcon.Folder.Path
import StatusIcon.Image.Library
import StatusIcon.Netpbm.Reader
import StatusIcon.Netpbm.Writer
import StatusIcon.Png.Reader

set_option autoImplicit false

namespace StatusIcon.Image

inductive Format where
  | png
  | netpbm
  | farbfeld
  | other (codec : Codec)

namespace Format

/-- The bytes begin as a portable map does, with a letter and a digit. -/
def beginsNetpbm : List UInt8 → Bool
  | 80 :: kind :: _ => 49 ≤ kind && kind ≤ 55
  | _ => false

def ofSignature? (library : Library) (bytes : List UInt8) : Option Format :=
  if bytes.take 8 = Png.signature then some .png
  else if bytes.take 8 = Farbfeld.signature then some .farbfeld
  else if beginsNetpbm bytes then some .netpbm
  else (library.recognized? bytes).map .other

/-- The format that an extension in small letters stands for. -/
def ofSmallExtension? (library : Library) (extension : String) : Option Format :=
  if ["png", "apng"].contains extension then some .png
  else if ["pbm", "pgm", "ppm", "pam", "pnm"].contains extension then some .netpbm
  else if extension = "ff" then some .farbfeld
  else (library.named? extension).map .other

def ofPath? (library : Library) (path : String) : Option Format :=
  match Path.extension? path with
  | none => none
  | some extension =>
    ofSmallExtension? library (String.ofList (extension.toList.map Char.toLower))

def read : Format → List UInt8 → Except Error Bitmap
  | .png => Png.read
  | .netpbm => Netpbm.read
  | .farbfeld => Farbfeld.read
  | .other codec => codec.read

/-- The bytes that come to be written of a bitmap.  The formats that are known here refuse it before
the first byte or not at all. -/
def write (library : Library) : Format → Bitmap → List UInt8 × Except Error Unit
  | .png, b =>
    match library.png.write b with
    | .ok bytes => (bytes, .ok ())
    | .error e => ([], .error e)
  | .netpbm, b => (Netpbm.write b, .ok ())
  | .farbfeld, _ => ([], .error .unsupported)
  | .other codec, b => codec.write b

end Format

/-- The bitmap of bytes that say themselves what they are. -/
def read (library : Library) (bytes : List UInt8) : Except Error Bitmap :=
  match Format.ofSignature? library bytes with
  | some format => format.read bytes
  | none => .error .unsupported

end StatusIcon.Image
