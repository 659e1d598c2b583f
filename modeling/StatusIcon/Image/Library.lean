/-
# StatusIcon.Image.Library -- what is left to a library of images

Three formats are read here, and two of them written.  Everything else about image files is left to
a library: how a PNG is packed, which further formats there are, how they are told, read and written
(`Codec`), and what is said of an error.

A writer that refuses a bitmap may have written part of a file before, the head of it for instance.
So it answers with the bytes that it came to, and with how it ended.
-/
import StatusIcon.Png.Writer

set_option autoImplicit false

namespace StatusIcon.Image

/-- A further format of images. -/
structure Codec where
  /-- The extensions of its files, in small letters. -/
  extensions : List String
  /-- Whether bytes begin as its files do. -/
  recognizes : List UInt8 → Bool
  read : List UInt8 → Except Error Bitmap
  /-- The bytes that come to be written of a bitmap, all of them if there is no error. -/
  write : Bitmap → List UInt8 × Except Error Unit
  /-- What is read can be held, at one byte for each pixel or more. -/
  area_le : ∀ {bytes : List UInt8} {b : Bitmap},
    read bytes = .ok b → b.width * b.height ≤ byteLimit

/-- What is written of the bitmap without an error is read as it. -/
def Codec.Restores (codec : Codec) (b : Bitmap) : Prop :=
  ∀ bytes, codec.write b = (bytes, .ok ()) → codec.read bytes = .ok b

/-- A format that is known by the names of its files alone. -/
def Codec.named (extensions : List String) : Codec where
  extensions
  recognizes _ := false
  read _ := .error .malformed
  write _ := ([], .error .unsupported)
  area_le := nofun

structure Library where
  /-- The writer of PNG files. -/
  png : Png.Encoder
  /-- The further formats, of which the first that fits counts. -/
  codecs : List Codec
  /-- What is said of an error. -/
  describe : Error → String

namespace Library

/-- The further format that bytes are in. -/
def recognized? (l : Library) (bytes : List UInt8) : Option Codec :=
  l.codecs.find? fun codec => codec.recognizes bytes

/-- The further format that an extension in small letters stands for. -/
def named? (l : Library) (extension : String) : Option Codec :=
  l.codecs.find? fun codec => codec.extensions.contains extension

/-- Packs nothing, and knows the names of further formats but neither reads nor writes them. -/
def plain : Library where
  png := .plain
  codecs := [.named ["avif", "jpg", "jpeg", "jfif", "gif", "webp", "tif", "tiff", "tga", "dds",
    "bmp", "ico", "hdr", "exr", "qoi", "pcx"]]
  describe
    | .io => "the image could not be read or written in full"
    | .malformed => "the image is malformed"
    | .unencodable => "the image has no form in this format"
    | .parameter => "the image cannot be written as asked"
    | .limits => "the image is too large"
    | .unsupported => "the image format is not supported"

end Library

end StatusIcon.Image
