/-
# StatusIcon.Proofs.Png.RoundTrip -- an image file gives its bitmap back

What any lossless writer makes of a bitmap is read as that bitmap (`Encoder.read_file`), pixel for
pixel, whichever filters the writer chose for the rows and however many chunks the stream needed.
The bitmap must have pixels, and if they are more than a reader is willing to hold it says so.
-/
import Mathlib.Tactic.Common
import StatusIcon.Image.Format
import StatusIcon.Proofs.Deflate.Stored
import StatusIcon.Proofs.Png.Chunk
import StatusIcon.Proofs.Png.Scanline

set_option autoImplicit false

namespace StatusIcon.Image

theorem checkSize_eq_ok {width height size : Nat} :
    checkSize width height size = .ok () ↔ width * height * size ≤ byteLimit := by
  unfold checkSize
  split
  · rename_i past
    simpa using past
  · rename_i fits
    simpa using fits

theorem checkSize_eq_limits {width height size : Nat} :
    checkSize width height size = .error .limits ↔ byteLimit < width * height * size := by
  unfold checkSize
  split
  · rename_i past
    simpa using past
  · rename_i fits
    simpa using fits

theorem area_le_of_checkSize {width height size : Nat} (pos : 0 < size)
    (fits : checkSize width height size = .ok ()) : width * height ≤ byteLimit :=
  Nat.le_trans (Nat.le_mul_of_pos_right _ pos) (checkSize_eq_ok.mp fits)

end StatusIcon.Image

namespace StatusIcon.Png

open Image (Error checkSize checkSize_eq_ok byteLimit)

theorem afterSignature_signature (s : List UInt8) : afterSignature (signature ++ s) = .ok s := by
  have long : ¬ s.length + 8 < 4 ∧ ¬ s.length + 8 < 8 := by omega
  simp only [afterSignature, signature, List.cons_append, List.nil_append, List.length_cons,
    List.take_succ_cons, List.take_zero, List.drop_succ_cons, List.drop_zero, ne_eq,
    not_true_eq_false, reduceIte, long]

theorem ofSignature?_signature (library : Image.Library) (s : List UInt8) :
    Image.Format.ofSignature? library (signature ++ s) = some .png := by
  have first : (signature ++ s).take 8 = signature := List.take_left' rfl
  simp only [Image.Format.ofSignature?, first, reduceIte]

/-- A bitmap of which a reader would hold a byte a pixel has sides that fit into a header. -/
theorem headerOf_valid {b : Bitmap} (width : 0 < b.width) (height : 0 < b.height)
    (bound : b.width * b.height ≤ byteLimit) : (headerOf b).Valid where
  width_pos := width
  width_lt := by
    have := Nat.le_mul_of_pos_right b.width height
    simp only [byteLimit, headerOf] at bound ⊢
    omega
  height_pos := height
  height_lt := by
    have := Nat.le_mul_of_pos_left b.height width
    simp only [byteLimit, headerOf] at bound ⊢
    omega
  depth_mem := List.mem_cons_self

theorem length_le_flatMap_chunk (name : Name) (data : List (List UInt8)) :
    data.length ≤ (data.flatMap (chunk name)).length := by
  induction data with
  | nil => exact Nat.le_refl 0
  | cons piece data ih =>
      rw [List.flatMap_cons, List.length_append, List.length_cons]
      simp only [chunk, fourBytes, List.length_append, List.length_cons]
      omega

namespace Encoder

variable {e : Encoder} (lossless : e.Lossless)

theorem write_of_pos (e : Encoder) {b : Bitmap} (width : 0 < b.width) (height : 0 < b.height) :
    e.write b = .ok (e.file b) := by
  have pixels : ¬ (b.width = 0 ∨ b.height = 0) := by omega
  simp only [write, Bool.or_eq_true, decide_eq_true_eq, pixels, reduceIte]

theorem write_of_empty (e : Encoder) {b : Bitmap} (empty : b.width = 0 ∨ b.height = 0) :
    e.write b = .error .io := by
  simp only [write, Bool.or_eq_true, decide_eq_true_eq, empty, reduceIte]

theorem write_eq_ok_iff {b : Bitmap} {bytes : List UInt8} :
    e.write b = .ok bytes ↔ 0 < b.width ∧ 0 < b.height ∧ e.file b = bytes := by
  by_cases empty : b.width = 0 ∨ b.height = 0
  · rw [e.write_of_empty empty]
    refine iff_of_false nofun ?_
    omega
  · have width : 0 < b.width := by omega
    have height : 0 < b.height := by omega
    rw [e.write_of_pos width height, Except.ok.injEq]
    exact ⟨fun same => ⟨width, height, same⟩, fun sides => sides.2.2⟩

include lossless

/-- Nothing expands to a complete stream. -/
theorem stream_ne_nil (b : Bitmap) : e.stream b ≠ [] := by
  intro empty
  have expands := lossless (rowBytes (e.filter b) b.width b.height 0 #[] b.pixels.toList)
  rw [stream] at empty
  rw [empty] at expands
  have complete : Deflate.Zlib.Ending.short = .complete := congrArg Deflate.Zlib.ending expands
  cases complete

/-- The stream of a bitmap is sound and holds its pixels. -/
theorem content_pixels (b : Bitmap) :
    (Content.ofData (e.stream b, none)).fault = none ∧
      (Content.ofData (e.stream b, none)).pixels ⟨headerOf b, none, none⟩ = .ok b.pixels := by
  let rows := rowBytes (e.filter b) b.width b.height 0 #[] b.pixels.toList
  let c := Head.coloring ⟨headerOf b, none, none⟩
  have content : Content.ofData (e.stream b, none) = ⟨rows, none⟩ := by
    rw [Content.ofData, stream, lossless]
  have size : b.pixels.toList.length = b.width * b.height := by
    rw [Array.length_toList, b.size_eq]
  have read : readRows c true .malformed b.width b.height #[] #[] rows = .ok (b.pixels, []) := by
    have all := readRows_rowBytes (c := c) rfl rfl .malformed (e.filter b) _ _ _ size 0 #[] #[]
    rwa [Array.empty_append] at all
  have plain : Content.pixels ⟨rows, none⟩ ⟨headerOf b, none, none⟩ =
      (readRows c true .malformed b.width b.height #[] #[] rows >>= fun result => pure result.1) :=
    rfl
  rw [content, plain, read]
  exact ⟨rfl, rfl⟩

/-- What is written is read as the bitmap, unless that is more than a reader holds. -/
theorem read_file (b : Bitmap) (width : 0 < b.width) (height : 0 < b.height)
    (bound : b.width * b.height ≤ byteLimit) :
    read (e.file b) = (checkSize b.width b.height 4).map fun _ => b := by
  have valid := headerOf_valid width height bound
  obtain ⟨first, more, cut⟩ := List.exists_cons_of_ne_nil
    (show pieces longestData (e.stream b) ≠ [] by
      rw [pieces_of_ne_nil (by decide) (stream_ne_nil lossless b)]
      exact List.cons_ne_nil _ _)
  have small : ∀ piece ∈ first :: more, piece.length < 4294967296 := by
    intro piece member
    rw [← cut] at member
    exact Nat.lt_of_le_of_lt (length_le_of_mem_pieces member) (by decide)
  have stream : (first :: more).flatten = e.stream b := by
    rw [← cut]
    exact flatten_pieces (by decide) _
  have data (fuel : Nat) (enough : more.length < fuel) :
      readData fuel first.length [] (first ++ (fourBytes (crc (Name.data.bytes ++ first)) ++
        (more.flatMap (chunk .data) ++ chunk .finish []))) = (e.stream b, none) := by
    have read := readData_pieces fuel first more
      (fun piece member => small piece (List.mem_cons_of_mem _ member)) enough [] []
    rwa [List.append_nil, List.reverse_nil, List.nil_append, stream] at read
  obtain ⟨fault, pixels⟩ := content_pixels lossless b
  have size : Head.pixelBytes ⟨headerOf b, none, none⟩ = 4 := rfl
  have same : Bitmap.ofPixels? (headerOf b).width (headerOf b).height b.pixels = some b :=
    dif_pos b.size_eq
  simp only [read, file, afterSignature_signature, bind, Except.bind, readHeader_chunk valid]
  rw [cut, List.flatMap_cons, List.append_assoc,
    readHead_data _ _ _ _ (small first List.mem_cons_self)]
  simp only [size]
  rw [data]
  · simp only [pixels, fault, same]
    rfl
  · have := length_le_flatMap_chunk .data more
    simp only [List.length_append]
    omega

end Encoder

end StatusIcon.Png
