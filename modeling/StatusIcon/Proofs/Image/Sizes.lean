/-
# StatusIcon.Proofs.Image.Sizes -- how large an image can be that is read

A reader refuses an image whose pixels would take more bytes than it is willing to hold, counted in
the bytes that a pixel takes in the file's own kind of colour (`Bitmap.HeldAt`).  So an image of few
and narrow channels may have more pixels than one with four (`Image.Format.heldAt_of_read`); a
farbfeld has eight bytes a pixel (`Farbfeld.heldAt_of_read`).

A PNG has pixels by its header (`Png.heldAt_of_read`).  The other two formats have no such rule, and
an image of theirs may be empty.  Of a further format it is known that its images can be held at one
byte a pixel.
-/
import StatusIcon.Image.Format
import StatusIcon.Proofs.Png.RoundTrip
import StatusIcon.Proofs.Results

set_option autoImplicit false

namespace StatusIcon

namespace Bitmap

theorem sides_of_ofPixels? {width height : Nat} {pixels : Array Pixel} {b : Bitmap}
    (made : ofPixels? width height pixels = some b) : b.width = width ∧ b.height = height := by
  unfold ofPixels? at made
  split at made
  · cases made
    exact ⟨rfl, rfl⟩
  · cases made

/-- A reader holds the bitmap at this many bytes a pixel, of which there are some. -/
structure HeldAt (b : Bitmap) (size : Nat) : Prop where
  pos : 0 < size
  held : Image.checkSize b.width b.height size = .ok ()

theorem HeldAt.of_ofPixels? {width height size : Nat} {pixels : Array Pixel} {b : Bitmap}
    (pos : 0 < size) (held : Image.checkSize width height size = .ok ())
    (made : ofPixels? width height pixels = some b) : b.HeldAt size := by
  obtain ⟨sameWidth, sameHeight⟩ := sides_of_ofPixels? made
  rw [← sameWidth, ← sameHeight] at held
  exact ⟨pos, held⟩

end Bitmap

open Image (Error checkSize)

/-! ## PNG -/

namespace Png

theorem Header.sides_pos_of_ofBytes? {data : List UInt8} {h : Header}
    (read : Header.ofBytes? data = some h) : 0 < h.width ∧ 0 < h.height := by
  unfold Header.ofBytes? at read
  split at read
  · dsimp only at read
    split at read
    · cases read
    · split at read
      · cases read
      · next known =>
          obtain rfl := Option.some.inj read
          simp only [Bool.or_eq_true, decide_eq_true_eq, not_or] at known
          obtain ⟨⟨⟨⟨⟨width, height⟩, -⟩, -⟩, -⟩, -⟩ := known
          exact ⟨Nat.pos_of_ne_zero width, Nat.pos_of_ne_zero height⟩
  · cases read

theorem sides_pos_of_readHeader {s rest : List UInt8} {h : Header}
    (read : readHeader s = .ok (h, rest)) : 0 < h.width ∧ 0 < h.height := by
  unfold readHeader at read
  obtain ⟨⟨⟨length, name⟩, s⟩, -, read⟩ := bind_eq_ok_iff.mp read
  dsimp only at read
  split at read
  · cases read
  obtain ⟨⟨⟨data, sound⟩, s⟩, -, read⟩ := bind_eq_ok_iff.mp read
  dsimp only at read
  split at read
  · next known =>
      split at read
      · cases read
        exact Header.sides_pos_of_ofBytes? known
      · cases read
  · cases read

theorem Head.pixelBytes_pos (h : Head) : 0 < h.pixelBytes := by
  unfold Head.pixelBytes
  cases h.header.kind <;> dsimp only <;> split <;> omega

theorem heldAt_of_read {s : List UInt8} {b : Bitmap} (read : Png.read s = .ok b) :
    0 < b.width ∧ 0 < b.height ∧ ∃ size, b.HeldAt size := by
  unfold Png.read at read
  obtain ⟨s, -, read⟩ := bind_eq_ok_iff.mp read
  obtain ⟨⟨header, s⟩, headed, read⟩ := bind_eq_ok_iff.mp read
  obtain ⟨⟨⟨head, length⟩, s⟩, -, read⟩ := bind_eq_ok_iff.mp read
  obtain ⟨⟨⟩, held, read⟩ := bind_eq_ok_iff.mp read
  obtain ⟨pixels, -, read⟩ := bind_eq_ok_iff.mp read
  obtain ⟨width, height⟩ := sides_pos_of_readHeader headed
  split at read
  · cases read
  split at read
  · next made =>
      obtain rfl := Except.ok.inj read
      obtain ⟨sameWidth, sameHeight⟩ := Bitmap.sides_of_ofPixels? made
      exact ⟨sameWidth ▸ width, sameHeight ▸ height, _,
        .of_ofPixels? head.pixelBytes_pos held made⟩
  · cases read

end Png

/-! ## Formats without a rule for the sides -/

theorem Netpbm.Layout.pixelBytes_pos (l : Netpbm.Layout) : 0 < l.pixelBytes := by
  unfold Netpbm.Layout.pixelBytes Netpbm.Channels.count
  cases l.channels <;> dsimp only <;> split <;> omega

theorem Netpbm.heldAt_of_read {s : List UInt8} {b : Bitmap} (read : Netpbm.read s = .ok b) :
    ∃ size, b.HeldAt size := by
  unfold Netpbm.read at read
  obtain ⟨⟨layout, s⟩, -, read⟩ := bind_eq_ok_iff.mp read
  dsimp only at read
  split at read
  · cases read
  obtain ⟨⟨⟩, held, read⟩ := bind_eq_ok_iff.mp read
  obtain ⟨samples, -, read⟩ := bind_eq_ok_iff.mp read
  split at read
  · next made =>
      obtain rfl := Except.ok.inj read
      exact ⟨_, .of_ofPixels? layout.pixelBytes_pos held made⟩
  · cases read

theorem Farbfeld.heldAt_of_read {s : List UInt8} {b : Bitmap} (read : Farbfeld.read s = .ok b) :
    b.HeldAt 8 := by
  unfold Farbfeld.read at read
  split at read
  · cases read
  split at read
  · dsimp only at read
    split at read
    · cases read
    obtain ⟨⟨⟩, held, read⟩ := bind_eq_ok_iff.mp read
    split at read
    · cases read
    split at read
    · next made =>
        obtain rfl := Except.ok.inj read
        exact .of_ofPixels? (by decide) held made
    · cases read
  · cases read

/-! ## Any format -/

namespace Image

/-- An image that is read in some format. -/
theorem exists_format_of_read {library : Library} {bytes : List UInt8} {b : Bitmap}
    (read : read library bytes = .ok b) :
    ∃ format, Format.ofSignature? library bytes = some format ∧ format.read bytes = .ok b := by
  unfold Image.read at read
  split at read
  · next format known => exact ⟨format, known, read⟩
  · cases read

theorem Format.heldAt_of_read {format : Format} {bytes : List UInt8} {b : Bitmap}
    (read : format.read bytes = .ok b) : ∃ size, b.HeldAt size := by
  cases format with
  | png =>
      obtain ⟨-, -, held⟩ := Png.heldAt_of_read read
      exact held
  | netpbm => exact Netpbm.heldAt_of_read read
  | farbfeld => exact ⟨8, Farbfeld.heldAt_of_read read⟩
  | other codec =>
      have fits : b.width * b.height * 1 ≤ byteLimit := by
        rw [Nat.mul_one]
        exact codec.area_le read
      exact ⟨1, Nat.one_pos, checkSize_eq_ok.mpr fits⟩

end Image

namespace Bitmap

variable {b : Bitmap} {size : Nat}

theorem HeldAt.area_le (held : b.HeldAt size) : b.width * b.height ≤ Image.byteLimit :=
  Image.area_le_of_checkSize held.pos held.held

theorem HeldAt.mono (held : b.HeldAt size) {fewer : Nat} (pos : 0 < fewer) (le : fewer ≤ size) :
    b.HeldAt fewer :=
  ⟨pos, Image.checkSize_eq_ok.mpr
    (Nat.le_trans (Nat.mul_le_mul_left _ le) (Image.checkSize_eq_ok.mp held.held))⟩

end Bitmap

end StatusIcon
