/-
# StatusIcon.Image.Error -- why an image cannot be read or written

A file that ends too early, or that is not there, is an input failure (`io`); a file that says
something an image cannot mean is `malformed`; an image too large to be held is past the `limits`;
and a format that is not known, or that cannot hold the image, is `unsupported`.  Two more reasons
are given by writers only: the image has no form in the format (`unencodable`), or what is asked of
the writer makes no sense (`parameter`).
-/

set_option autoImplicit false

namespace StatusIcon.Image

inductive Error where
  | io
  | malformed
  | unencodable
  | parameter
  | limits
  | unsupported
  deriving DecidableEq, Repr

/-- The bytes that the pixels of one image may take while it is read. -/
def byteLimit : Nat := 512 * 1024 * 1024

/-- Refuses an image whose pixels, `size` bytes each, would take too much. -/
def checkSize (width height size : Nat) : Except Error Unit :=
  if byteLimit < width * height * size then .error .limits else .ok ()

end StatusIcon.Image
