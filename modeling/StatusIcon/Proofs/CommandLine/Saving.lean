/-
# StatusIcon.Proofs.CommandLine.Saving -- images that a run leaves behind

A run ends by saving an image (`value_finish`).  Saving stops before the file is touched, if its
name says no format or it cannot be written, and else leaves in the file what the writer of the
format came to, whether that is the whole image or not (`SavingEnds`).

If it works, the file holds the image in the format of its name (`ShownAt`, `shownAt_of_saveImage`).
It is then opened as the very bitmap that was saved (`ShownAt.openImage`): the formats that are
written here lose no pixel, and of a further format that much has to be known (`read_of_write`).
Whether it works or not, no other file is touched (`file?_saveImage`).
-/
import StatusIcon.CommandLine.Run
import StatusIcon.Proofs.Folder.Writing
import StatusIcon.Proofs.Icon.RoundTrip
import StatusIcon.Proofs.Netpbm.RoundTrip
import StatusIcon.Proofs.Results

set_option autoImplicit false

namespace StatusIcon.CommandLine

open Image (checkSize Format)

variable {library : Image.Library} {folder : Folder} {path : String} {b : Bitmap}

theorem value_finish (library : Image.Library) (folder : Folder) (output : String) (b : Bitmap) :
    (finish library folder output b).value =
      ⟨(saveImage library folder output b).1, none, (saveImage library folder output b).2⟩ := by
  unfold finish
  split
  · next saved => rw [saved]; rfl
  · next saved => rw [saved]; rfl

/-! ## Ends -/

/-- How saving a bitmap ends: the folder afterwards, and the result. -/
inductive SavingEnds (library : Image.Library) (folder : Folder) (path : String) (b : Bitmap) :
    Folder × Except IconError Unit → Prop where
  | unnamed (unknown : Format.ofPath? library path = none) :
      SavingEnds library folder path b (folder, .error (.image .unsupported))
  | closed {e : FileError} (failed : folder.write path [] = .error e) :
      SavingEnds library folder path b (folder, .error (.image .io))
  | written {format : Format} {bytes : List UInt8} {ended : Except Image.Error Unit} {g : Folder}
      (known : Format.ofPath? library path = some format)
      (image : format.write library b = (bytes, ended))
      (written : folder.write path bytes = .ok g) :
      SavingEnds library folder path b (g, ended.mapError .image)

theorem saveImage_ends (library : Image.Library) (folder : Folder) (path : String) (b : Bitmap) :
    SavingEnds library folder path b (saveImage library folder path b) := by
  unfold saveImage
  split
  · next unknown => exact .unnamed unknown
  next format known =>
  split
  · next failed => exact .closed failed
  next emptied first =>
  -- what could be emptied can be written
  obtain ⟨g, second⟩ := Folder.exists_write first (format.write library b).1
  simp only [second]
  exact .written known rfl second

theorem saveImage_of_write {format : Format} {bytes : List UInt8} {ended : Except Image.Error Unit}
    {g : Folder} (known : Format.ofPath? library path = some format)
    (image : format.write library b = (bytes, ended)) (written : folder.write path bytes = .ok g) :
    saveImage library folder path b = (g, ended.mapError .image) := by
  obtain ⟨emptied, first⟩ := Folder.exists_write written []
  simp only [saveImage, known, first, image, written]

/-- An image is saved if its format can hold it and the file can be written. -/
theorem saveImage_eq_ok_iff :
    (saveImage library folder path b).2 = .ok () ↔
      ∃ format bytes g, Format.ofPath? library path = some format ∧
        format.write library b = (bytes, .ok ()) ∧ folder.write path bytes = .ok g := by
  constructor
  · intro saved
    have ends := saveImage_ends library folder path b
    generalize saveImage library folder path b = result at ends saved
    cases ends with
    | unnamed => cases saved
    | closed => cases saved
    | @written format bytes ended g known image written =>
        obtain rfl := mapError_eq_ok_iff.mp saved
        exact ⟨format, bytes, g, known, image, written⟩
  · rintro ⟨format, bytes, g, known, image, written⟩
    rw [saveImage_of_write known image written]
    rfl

/-- Whatever becomes of the image, no other file is touched. -/
theorem file?_saveImage {place : List String} (elsewhere : folder.locate path ≠ .ok place) :
    (saveImage library folder path b).1.file? place = folder.file? place := by
  have ends := saveImage_ends library folder path b
  generalize saveImage library folder path b = result at ends ⊢
  cases ends with
  | unnamed => rfl
  | closed => rfl
  | written known image written => exact Folder.file?_of_write written elsewhere

/-! ## Images afterwards -/

/-- The file at this path holds the bitmap, in the format that its name says. -/
def ShownAt (library : Image.Library) (folder : Folder) (path : String) (b : Bitmap) : Prop :=
  ∃ format bytes, Format.ofPath? library path = some format ∧
    format.write library b = (bytes, .ok ()) ∧ folder.read path = .ok bytes

theorem shownAt_of_saveImage (saved : (saveImage library folder path b).2 = .ok ()) :
    ShownAt library (saveImage library folder path b).1 path b := by
  obtain ⟨format, bytes, g, known, image, written⟩ := saveImage_eq_ok_iff.mp saved
  rw [saveImage_of_write known image written]
  exact ⟨format, bytes, known, image, Folder.read_of_write written⟩

theorem read_of_write_png {e : Png.Encoder} (lossless : e.Lossless) {bytes : List UInt8}
    (written : e.write b = .ok bytes) (fits : checkSize b.width b.height 4 = .ok ()) :
    Png.read bytes = .ok b := by
  obtain ⟨width, height, rfl⟩ := Png.Encoder.write_eq_ok_iff.mp written
  rw [Png.Encoder.read_file lossless b width height
    (Image.area_le_of_checkSize (by decide) fits), fits]
  rfl

/-- What is written of a bitmap is read as it, in a further format if that one restores it.  The
sides are numbers of 32 bits. -/
theorem read_of_write (lossless : library.png.Lossless) {format : Format} {bytes : List UInt8}
    (written : format.write library b = (bytes, .ok ())) (wide : b.width < 0x100000000)
    (high : b.height < 0x100000000) (fits : checkSize b.width b.height 4 = .ok ())
    (restores : ∀ codec, format = .other codec → codec.Restores b) :
    format.read bytes = .ok b := by
  cases format with
  | png =>
      cases packed : library.png.write b with
      | error e => simp [Format.write, packed] at written
      | ok file =>
          obtain rfl : file = bytes := by simpa [Format.write, packed] using written
          exact read_of_write_png lossless packed fits
  | netpbm =>
      obtain rfl := congrArg Prod.fst written
      exact Netpbm.read_write b wide high fits
  | farbfeld => cases written
  | other codec => exact restores codec rfl bytes written

/-- An image that was saved is opened as the bitmap that it shows. -/
theorem ShownAt.openImage (shown : ShownAt library folder path b)
    (lossless : library.png.Lossless) (wide : b.width < 0x100000000)
    (high : b.height < 0x100000000) (fits : checkSize b.width b.height 4 = .ok ())
    (restores : ∀ codec, Format.ofPath? library path = some (.other codec) → codec.Restores b) :
    openImage library folder path = .ok b := by
  obtain ⟨format, bytes, known, written, read⟩ := shown
  have reread : format.read bytes = .ok b := by
    apply read_of_write lossless written wide high fits
    rintro codec rfl
    exact restores codec known
  simp only [CommandLine.openImage, read, known, reread]

end StatusIcon.CommandLine
