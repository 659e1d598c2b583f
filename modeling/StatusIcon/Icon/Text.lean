/-
# StatusIcon.Icon.Text -- icons as text

An icon is stored as the base64 text of an image file.  Writing makes a PNG, by any writer of such
files (`toTextBy`).  Reading is lenient about how the text was kept and exact about what it says:
every character outside the base64 alphabet is skipped (line ends, dots, letters of other scripts),
`=` signs may be missing, and the bytes may be an image of any format that can be told by how it
begins, those of the image library included.
-/
import StatusIcon.Icon.Error
import StatusIcon.Image.Format

set_option autoImplicit false

namespace StatusIcon.Icon

/-- The text of a bitmap, as `encoder` writes it; a bitmap without pixels has none. -/
def toTextBy (encoder : Png.Encoder) (b : Bitmap) : Except IconError String :=
  match encoder.write b with
  | .ok bytes => .ok (String.ofList (Base64.encode bytes))
  | .error e => .error (.image e)

/-- The bitmap that a text stands for. -/
def ofText (library : Image.Library) (text : String) : Except IconError Bitmap :=
  match Base64.decode (text.toList.filter Base64.isAlphabetic) with
  | .error e => .error (.base64 e)
  | .ok bytes =>
    match Image.read library bytes with
    | .ok b => .ok b
    | .error e => .error (.image e)

end StatusIcon.Icon
