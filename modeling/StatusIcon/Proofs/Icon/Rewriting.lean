/-
# StatusIcon.Proofs.Icon.Rewriting -- stored icons are written again

The text of an icon may hold an image of any format.  Whoever reads it and stores the bitmap again
makes a PNG of it, and the bitmap stays the same (`ofText_rewrites`), with two exceptions that the
formats force.  A bitmap without pixels, which a PNG never is and the others may be, has no text.
And an image of narrow pixels may have so many of them that four bytes for each are more than a
reader holds: the text is written, and refused.
-/
import StatusIcon.Proofs.Icon.RoundTrip
import StatusIcon.Proofs.Image.Sizes

set_option autoImplicit false

namespace StatusIcon.Icon

open Image (byteLimit checkSize checkSize_eq_ok checkSize_eq_limits)

/-- A text that stands for a bitmap holds bytes that are read as it. -/
theorem exists_bytes_of_ofText {library : Image.Library} {text : String} {b : Bitmap}
    (read : ofText library text = .ok b) :
    ∃ bytes, Base64.decode (text.toList.filter Base64.isAlphabetic) = .ok bytes ∧
      Image.read library bytes = .ok b := by
  unfold ofText at read
  split at read
  · cases read
  next bytes decoded =>
    split at read
    · next image =>
        cases read
        exact ⟨bytes, decoded, image⟩
    · cases read

section

variable (library : Image.Library) {e : Png.Encoder} {b : Bitmap}

/-- The text of a bitmap of any size that some reader holds, read again. -/
theorem exists_toTextBy_of_heldAt (lossless : e.Lossless) {size : Nat} (held : b.HeldAt size)
    (width : 0 < b.width) (height : 0 < b.height) :
    ∃ again, toTextBy e b = .ok again ∧
      ofText library again = ((checkSize b.width b.height 4).map fun _ => b).mapError .image := by
  refine ⟨_, toTextBy_of_pos e width height, ?_⟩
  rw [ofText_encode, read_file_eq library lossless width height held.area_le]

end

/-- **Stored icons are written again.**  A bitmap that is read from a text has a text of its own if
it has pixels, and that one is read as the same bitmap as long as four bytes a pixel are not too
many.  Which of this can fail depends on the format of the first text: a PNG has pixels, and a
farbfeld has pixels of more than four bytes. -/
theorem ofText_rewrites (library : Image.Library) (e : Png.Encoder) (lossless : e.Lossless)
    (text : String) (b : Bitmap) (read : ofText library text = .ok b) :
    (1 ≤ b.width → 1 ≤ b.height →
      ∃ again, toTextBy e b = .ok again ∧
        (b.width * b.height * 4 ≤ byteLimit → ofText library again = .ok b) ∧
        (byteLimit < b.width * b.height * 4 →
          ofText library again = .error (.image .limits))) ∧
      (b.width = 0 ∨ b.height = 0 → toTextBy e b = .error (.image .io)) ∧
      ∃ bytes format, Base64.decode (text.toList.filter Base64.isAlphabetic) = .ok bytes ∧
        Image.Format.ofSignature? library bytes = some format ∧
        (format = .png → 1 ≤ b.width ∧ 1 ≤ b.height) ∧
        (format = .farbfeld → b.width * b.height * 4 ≤ byteLimit) := by
  obtain ⟨bytes, decoded, image⟩ := exists_bytes_of_ofText read
  obtain ⟨format, known, image⟩ := Image.exists_format_of_read image
  obtain ⟨size, held⟩ := Image.Format.heldAt_of_read image
  refine ⟨fun width height => ?_, toTextBy_of_empty e, bytes, format, decoded, known, ?_, ?_⟩
  · obtain ⟨again, written, reread⟩ := exists_toTextBy_of_heldAt library lossless held width height
    refine ⟨again, written, fun fits => ?_, fun large => ?_⟩
    · rw [reread, checkSize_eq_ok.mpr fits]
      rfl
    · rw [reread, checkSize_eq_limits.mpr large]
      rfl
  · rintro rfl
    obtain ⟨width, height, -⟩ := Png.heldAt_of_read image
    exact ⟨width, height⟩
  · rintro rfl
    have wide := Farbfeld.heldAt_of_read image
    exact checkSize_eq_ok.mp (wide.mono (by decide) (by decide)).held

/-- A graymap of two pixels, and the bitmap that it is. -/
def graymap : String × Bitmap :=
  ("UDUgMiAxIDI1NQoHyA==", ⟨2, 1, #[⟨7, 7, 7, 255⟩, ⟨200, 200, 200, 255⟩], rfl⟩)

theorem ofText_rewrites_graymap :
    Png.Encoder.plain.Lossless ∧ ofText .plain graymap.1 = .ok graymap.2 ∧
      ∃ again, toTextBy .plain graymap.2 = .ok again ∧ ofText .plain again = .ok graymap.2 := by
  have read : ofText .plain graymap.1 = .ok graymap.2 := by decide +kernel
  have rewritten := ofText_rewrites .plain .plain plain_lossless graymap.1 graymap.2 read
  obtain ⟨again, written, reread, -⟩ := rewritten.1 (by decide) (by decide)
  exact ⟨plain_lossless, read, again, written, reread (by decide)⟩

/-- The text of a farbfeld without pixels. -/
def hollowText : String := "ZmFyYmZlbGQAAAAAAAAAAA=="

/-- A farbfeld may be empty, and then its bitmap has no text. -/
theorem toTextBy_hollow :
    ofText .plain hollowText = .ok (.filled 0 0 .unset) ∧
      ∀ e, ¬ ∃ again, toTextBy e (.filled 0 0 .unset) = .ok again := by
  refine ⟨by decide +kernel, ?_⟩
  rintro e ⟨again, written⟩
  rw [toTextBy_of_empty e (.inl rfl)] at written
  cases written

end StatusIcon.Icon
