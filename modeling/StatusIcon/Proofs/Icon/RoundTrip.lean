/-
# StatusIcon.Proofs.Icon.RoundTrip -- stored icons come back

An icon is stored as text and read again: by then the text may have lost `=` signs and picked up
foreign characters, and still it stands for the same bitmap, pixel for pixel
(`ofText_strewn`).  That holds for every writer of image files whose compressed streams expand
again, of which `Png.Encoder.plain` is one (`plain_lossless`), and with every image library, since
what is written begins as a PNG.
-/
import StatusIcon.Icon.Text
import StatusIcon.Proofs.Base64.Lenient
import StatusIcon.Proofs.Png.RoundTrip

set_option autoImplicit false

namespace StatusIcon.Icon

open Base64 (IsSymbol Strewn)
open Image (area_le_of_checkSize byteLimit checkSize)

theorem plain_lossless : Png.Encoder.plain.Lossless := Deflate.unzlib_zlib

theorem toTextBy_of_pos (e : Png.Encoder) {b : Bitmap} (width : 0 < b.width)
    (height : 0 < b.height) : toTextBy e b = .ok (String.ofList (Base64.encode (e.file b))) := by
  simp only [toTextBy, e.write_of_pos width height]

theorem toTextBy_of_empty (e : Png.Encoder) {b : Bitmap} (empty : b.width = 0 ∨ b.height = 0) :
    toTextBy e b = .error (.image .io) := by
  simp only [toTextBy, e.write_of_empty empty]

variable (library : Image.Library)

/-- What is written is read as the bitmap, unless that is more than a reader holds. -/
theorem read_file_eq {e : Png.Encoder} (lossless : e.Lossless) {b : Bitmap} (width : 0 < b.width)
    (height : 0 < b.height) (bound : b.width * b.height ≤ byteLimit) :
    Image.read library (e.file b) = (checkSize b.width b.height 4).map fun _ => b := by
  have png : Image.Format.ofSignature? library (e.file b) = some .png :=
    Png.ofSignature?_signature library _
  rw [Image.read, png]
  exact Png.Encoder.read_file lossless b width height bound

theorem read_file {e : Png.Encoder} (lossless : e.Lossless) {b : Bitmap} (width : 0 < b.width)
    (height : 0 < b.height) (fits : checkSize b.width b.height 4 = .ok ()) :
    Image.read library (e.file b) = .ok b := by
  rw [read_file_eq library lossless width height (area_le_of_checkSize (by decide) fits), fits]
  rfl

/-- Once there are bytes, only the image reader is left to fail. -/
theorem ofText_of_decode {text : String} {bytes : List UInt8}
    (decoded : Base64.decode (text.toList.filter Base64.isAlphabetic) = .ok bytes) :
    ofText library text = (Image.read library bytes).mapError .image := by
  simp only [ofText, decoded]
  cases Image.read library bytes with
  | ok b => rfl
  | error e => rfl

/-- The text of some bytes is read as the image they are. -/
theorem ofText_encode (bytes : List UInt8) :
    ofText library (String.ofList (Base64.encode bytes)) =
      (Image.read library bytes).mapError .image := by
  have whole : Base64.encode bytes = Base64.encode bytes ++ List.replicate 0 '=' := by
    rw [List.replicate_zero, List.append_nil]
  apply ofText_of_decode
  rw [String.toList_ofList, Base64.decode_of_strewn whole (.refl _)]

/-- A text that is left as it was written is read as its bitmap. -/
theorem ofText_of_toTextBy {e : Png.Encoder} (lossless : e.Lossless) {b : Bitmap} {text : String}
    (written : toTextBy e b = .ok text) (fits : checkSize b.width b.height 4 = .ok ()) :
    ofText library text = .ok b := by
  by_cases empty : b.width = 0 ∨ b.height = 0
  · rw [toTextBy_of_empty e empty] at written
    cases written
  · have width : 0 < b.width := by omega
    have height : 0 < b.height := by omega
    rw [toTextBy_of_pos e width height] at written
    obtain rfl := Except.ok.inj written
    rw [ofText_encode, read_file library lossless width height fits]
    rfl

/-- **Stored icons come back.**  A bitmap without pixels has no text.  Every other one that a
reader would hold has a text in whole groups of the alphabet, and every text that is left of it
once signs are cut off its end and foreign characters are strewn in is read as the bitmap. -/
theorem ofText_strewn (e : Png.Encoder) (lossless : e.Lossless) (b : Bitmap) :
    (b.width = 0 ∨ b.height = 0 → ∃ error, toTextBy e b = .error error) ∧
      (1 ≤ b.width → 1 ≤ b.height → checkSize b.width b.height 4 = .ok () →
        ∃ text : String, toTextBy e b = .ok text ∧ 4 ∣ text.length ∧
          (∃ body pads, text.toList = body ++ List.replicate pads '=' ∧ ∀ c ∈ body, IsSymbol c) ∧
          ∀ (kept : List Char) (cut : Nat) (noisy : String),
            text.toList = kept ++ List.replicate cut '=' → Strewn kept noisy.toList →
              ofText library noisy = .ok b) := by
  refine ⟨fun empty => ⟨_, toTextBy_of_empty e empty⟩, fun width height fits => ?_⟩
  · refine ⟨_, toTextBy_of_pos e width height, ?_, ?_, fun kept cut noisy text strewn => ?_⟩
    · rw [String.length_ofList]
      exact Base64.length_encode _
    · rw [String.toList_ofList]
      exact ⟨_, _, Base64.encode_eq_symbols _, fun c => Base64.isSymbol_of_mem_symbols⟩
    · rw [String.toList_ofList] at text
      simp only [ofText, Base64.decode_of_strewn text strewn,
        read_file library lossless width height fits]

/-- A visible pixel beside one that hides a colour. -/
def pair : Bitmap := ⟨2, 1, #[⟨255, 0, 0, 255⟩, ⟨1, 2, 3, 0⟩], rfl⟩

/-- The text of the pair up to its sign, in two halves. -/
def pairText : String × String :=
  ("iVBORw0KGgoAAAANSUhEUgAAAAIAAAABCAYAAAD0In+KAAAAFElEQVR4AQEJAPb/",
    "AP8AAP8BAgMADQwCBeZUTdcAAAAASUVORK5CYII")

theorem toTextBy_plain_pair :
    toTextBy .plain pair = .ok (pairText.1 ++ (pairText.2 ++ "=")) := by
  decide +kernel

/-- A dot in front, a line break in the middle, and the sign gone. -/
theorem ofText_strewn_pair :
    Png.Encoder.plain.Lossless ∧ 1 ≤ pair.width ∧ 1 ≤ pair.height ∧
      checkSize pair.width pair.height 4 = .ok () ∧
      ofText .plain ("." ++ (pairText.1 ++ ("\n" ++ pairText.2))) = .ok pair := by
  refine ⟨plain_lossless, by decide, by decide, rfl, ?_⟩
  obtain ⟨text, written, -, -, read⟩ :=
    (ofText_strewn .plain .plain plain_lossless pair).2 (by decide) (by decide) rfl
  rw [toTextBy_plain_pair] at written
  obtain rfl := Except.ok.inj written
  refine read (pairText.1.toList ++ pairText.2.toList) 1 _ ?_ ?_
  · simp only [String.toList_append, List.append_assoc]
    rfl
  · have dot : ¬ (IsSymbol '.' ∨ '.' = '=') := by
      rw [← Base64.isAlphabetic_iff]
      decide
    have line : ¬ (IsSymbol '\n' ∨ '\n' = '=') := by
      rw [← Base64.isAlphabetic_iff]
      decide
    simp only [String.toList_append]
    exact .insert dot ((Strewn.refl _).append (.insert line (.refl _)))

end StatusIcon.Icon
