/-
# StatusIcon.Proofs.Png.Scanline -- rows that are written are read

A filter's differences restore the row they were taken from, whatever the filter, the row above and
the stride (`restore_differences`), because reader and writer predict from the same known bytes.  A
restored row of four channels in eight bits is cut into the pixels that made it (`row_pixelBytes`).
So a run over the rows of a bitmap gives its pixels back (`readRows_rowBytes`), whichever filter
each row chose.
-/
import Mathlib.Tactic.Common
import StatusIcon.Png.Reader
import StatusIcon.Png.Writer

set_option autoImplicit false

namespace StatusIcon.Png

open Image (Error)

/-! ## Differences -/

namespace Filter

theorem ofByte?_code (f : Filter) : ofByte? f.code = some f := by
  cases f <;> rfl

theorem length_differencesFrom (f : Filter) (stride : Nat) (above : Array UInt8) (row : List UInt8)
    (known : Array UInt8) : (f.differencesFrom stride above row known).length = row.length := by
  induction row generalizing known with
  | nil => rfl
  | cons b row ih => rw [differencesFrom, List.length_cons, List.length_cons, ih]

theorem length_differences (f : Filter) (stride : Nat) (above : Array UInt8) (row : List UInt8) :
    (f.differences stride above row).length = row.length :=
  length_differencesFrom f stride above row #[]

theorem restoreFrom_differencesFrom (f : Filter) (stride : Nat) (above : Array UInt8)
    (row : List UInt8) (known : Array UInt8) :
    f.restoreFrom stride above (f.differencesFrom stride above row known) known =
      known ++ row.toArray := by
  induction row generalizing known with
  | nil => simp [differencesFrom, restoreFrom]
  | cons b row ih =>
      rw [differencesFrom, restoreFrom, UInt8.sub_add_cancel, ih]
      simp

theorem restore_differences (f : Filter) (stride : Nat) (above : Array UInt8) (row : List UInt8) :
    f.restore stride above (f.differences stride above row) = row.toArray := by
  rw [restore, differences, restoreFrom_differencesFrom, Array.empty_append]

end Filter

/-! ## Pieces -/

section Pieces

variable {α β : Type} {size : Nat}

theorem pieces_nil : pieces size ([] : List α) = [] := by
  rw [pieces, if_pos (Or.inr rfl)]

theorem pieces_of_ne_nil (positive : 0 < size) {s : List α} (ne : s ≠ []) :
    pieces size s = s.take size :: pieces size (s.drop size) := by
  rw [pieces, if_neg]
  rintro (zero | empty)
  · omega
  · exact ne empty

theorem flatten_pieces (positive : 0 < size) (s : List α) : (pieces size s).flatten = s := by
  induction s using pieces.induct size with
  | case1 s h =>
      rcases h with zero | rfl
      · omega
      · rw [pieces_nil, List.flatten_nil]
  | case2 s h ih =>
      have ne : s ≠ [] := fun empty => h (Or.inr empty)
      rw [pieces_of_ne_nil positive ne, List.flatten_cons, ih, List.take_append_drop]

theorem length_le_of_mem_pieces {s piece : List α} (member : piece ∈ pieces size s) :
    piece.length ≤ size := by
  induction s using pieces.induct size with
  | case1 s h => simp [pieces, h] at member
  | case2 s h ih =>
      rw [pieces, if_neg h] at member
      rcases List.mem_cons.1 member with rfl | later
      · exact List.length_take_le _ _
      · exact ih later

/-- What was put together from pieces of one size is cut into these pieces. -/
theorem pieces_flatMap (positive : 0 < size) (f : α → List β) (even : ∀ x, (f x).length = size)
    (xs : List α) : pieces size (xs.flatMap f) = xs.map f := by
  induction xs with
  | nil => exact pieces_nil
  | cons x xs ih =>
      have ne : f x ++ xs.flatMap f ≠ [] := by
        intro empty
        have := even x
        rw [(List.append_eq_nil_iff.1 empty).1] at this
        exact absurd this (Nat.ne_of_lt positive)
      rw [List.flatMap_cons, pieces_of_ne_nil positive ne, List.take_left' (even x),
        List.drop_left' (even x), ih, List.map_cons]

end Pieces

/-! ## Rows of four channels in eight bits -/

theorem length_flatMap_pixelBytes (pixels : List Pixel) :
    (pixels.flatMap pixelBytes).length = pixels.length * 4 := by
  induction pixels with
  | nil => rfl
  | cons p pixels ih =>
      rw [List.flatMap_cons, List.length_append, ih, List.length_cons]
      simp only [pixelBytes, List.length_cons, List.length_nil]
      omega

theorem toByte_eight (v : UInt8) : toByte 8 v.toNat = v := by
  have one : 255 / (Nat.pow 2 8 - 1) = 1 := rfl
  rw [toByte, if_neg (by decide), one, Nat.mul_one, UInt8.ofNat_toNat]

section Rows

variable {c : Coloring} (rgba : c.header.kind = .rgba) (eight : c.header.depth = 8)

include rgba eight

theorem pixel_pixelBytes (p : Pixel) : c.pixel ((pixelBytes p).map UInt8.toNat) = p := by
  simp only [Coloring.pixel, pixelBytes, List.map_cons, List.map_nil, rgba, eight, toByte_eight]

theorem row_pixelBytes (pixels : List Pixel) :
    c.row pixels.length (pixels.flatMap pixelBytes) = pixels := by
  have bytes : samples 8 (pixels.flatMap pixelBytes) =
      pixels.flatMap fun p => (pixelBytes p).map UInt8.toNat := by
    rw [samples, if_neg (by decide), if_pos rfl, List.map_flatMap]
  have all : (samples 8 (pixels.flatMap pixelBytes)).length = pixels.length * 4 := by
    rw [samples, if_neg (by decide), if_pos rfl, List.length_map, length_flatMap_pixelBytes]
  have cut : pieces 4 (pixels.flatMap fun p => (pixelBytes p).map UInt8.toNat) =
      pixels.map fun p => (pixelBytes p).map UInt8.toNat :=
    pieces_flatMap (by decide) (fun p => (pixelBytes p).map UInt8.toNat) (fun p => rfl) pixels
  simp only [Coloring.row, rgba, eight, ColorKind.channels,
    List.take_of_length_le (Nat.le_of_eq all)]
  rw [bytes, cut, List.map_map]
  calc pixels.map (c.pixel ∘ fun p => (pixelBytes p).map UInt8.toNat)
      = pixels.map id := List.map_congr_left fun p _ => pixel_pixelBytes rgba eight p
    _ = pixels := List.map_id _

/-- One row is read, and the reader goes on with the rest as the writer did. -/
theorem readRows_row (missing : Error) (filter : Nat → Filter) (width count : Nat)
    (row : List Pixel) (whole : row.length = width) (y : Nat) (above : Array UInt8)
    (done : Array Pixel) (rest : List UInt8) :
    readRows c true missing width (count + 1) above done
        ((filter y).code :: ((filter y).differences 4 above (row.flatMap pixelBytes) ++ rest)) =
      readRows c true missing width count (row.flatMap pixelBytes).toArray
        (done ++ row.toArray) rest := by
  have size : c.header.rowBytes width =
      ((filter y).differences 4 above (row.flatMap pixelBytes)).length := by
    rw [Filter.length_differences, length_flatMap_pixelBytes, whole, Header.rowBytes,
      Header.bitsPerPixel, rgba, eight]
    simp only [ColorKind.channels]
    omega
  have stride : c.header.stride = 4 := by
    rw [Header.stride, Header.bitsPerPixel, rgba, eight]
    rfl
  subst whole
  rw [readRows]
  simp only [size, List.take_left, List.drop_left, Nat.lt_irrefl, reduceIte, Filter.ofByte?_code,
    stride, Filter.restore_differences, List.toList_toArray, row_pixelBytes rgba eight,
    Bool.not_true, Bool.false_eq_true]

theorem readRows_rowBytes (missing : Error) (filter : Nat → Filter) (width count : Nat)
    (pixels : List Pixel) (size : pixels.length = width * count) (y : Nat) (above : Array UInt8)
    (done : Array Pixel) :
    readRows c true missing width count above done
        (Png.rowBytes filter width count y above pixels) = .ok (done ++ pixels.toArray, []) := by
  induction count generalizing pixels y above done with
  | zero =>
      obtain rfl : pixels = [] := List.eq_nil_of_length_eq_zero size
      simp [Png.rowBytes, readRows]
  | succ count ih =>
      have first : (pixels.take width).length = width := by
        rw [List.length_take, size, Nat.mul_succ]
        omega
      have others : (pixels.drop width).length = width * count := by
        rw [List.length_drop, size, Nat.mul_succ]
        omega
      have whole : (pixels.take width).toArray ++ (pixels.drop width).toArray = pixels.toArray := by
        simp
      rw [Png.rowBytes, readRows_row rgba eight missing filter width count _ first, ih _ others,
        Array.append_assoc, whole]

end Rows

end StatusIcon.Png
