/-
# StatusIcon.Proofs.Png.Chunk -- chunks that are written are read

Writer and reader agree on the frame of a chunk: the head gives back length and name
(`chunkHead_chunk`), the body gives back the data and finds the checksum right
(`chunkBody_chunk`).  From these two come the header (`readHeader_chunk`) and the image data, which
are one piece again however they were cut (`readData_pieces`).
-/
import Mathlib.Tactic.Common
import StatusIcon.Png.Reader
import StatusIcon.Png.Writer

set_option autoImplicit false

namespace StatusIcon.Png

open Image (Error)

/-! ## Frames -/

theorem number_fourBytes {n : Nat} (small : n < 4294967296) :
    number (UInt8.ofNat (n / 16777216)) (UInt8.ofNat (n / 65536 % 256))
      (UInt8.ofNat (n / 256 % 256)) (UInt8.ofNat (n % 256)) = n := by
  simp only [number, UInt8.toNat_ofNat']
  omega

theorem chunk_append (name : Name) (data rest : List UInt8) :
    chunk name data ++ rest = fourBytes data.length ++
      (name.bytes ++ (data ++ (fourBytes (crc (name.bytes ++ data)) ++ rest))) := by
  simp only [chunk, List.append_assoc]

theorem chunkHead_chunk (name : Name) (four : name.bytes.length = 4) (data rest : List UInt8)
    (small : data.length < 4294967296) :
    chunkHead (chunk name data ++ rest) =
      .ok ((data.length, name), data ++ (fourBytes (crc (name.bytes ++ data)) ++ rest)) := by
  match name, four with
  | ⟨[e, f, g, h]⟩, _ =>
      rw [chunk_append]
      simp only [fourBytes, List.cons_append, List.nil_append, chunkHead, number_fourBytes small]

theorem chunkBody_chunk (name : Name) (data rest : List UInt8) :
    chunkBody data.length name (data ++ (fourBytes (crc (name.bytes ++ data)) ++ rest)) =
      .ok ((data, true), rest) := by
  have small : crc (name.bytes ++ data) < 4294967296 := UInt32.toNat_lt _
  simp only [chunkBody, List.take_left, List.drop_left, fourBytes, List.cons_append,
    List.nil_append, number_fourBytes small, beq_self_eq_true]

/-! ## The header -/

theorem ColorKind.ofCode?_code (kind : ColorKind) : ofCode? kind.code = some kind := by
  cases kind <;> rfl

theorem ColorKind.lt_of_mem_depths {kind : ColorKind} {depth : Nat} (member : depth ∈ kind.depths) :
    depth < 256 := by
  cases kind <;> simp [depths] at member <;> omega

namespace Header

/-- Sides that four bytes can hold, and a depth that goes with the colours. -/
structure Valid (h : Header) : Prop where
  width_pos : 0 < h.width
  width_lt : h.width < 4294967296
  height_pos : 0 < h.height
  height_lt : h.height < 4294967296
  depth_mem : h.depth ∈ h.kind.depths

theorem ofBytes?_toBytes {h : Header} (valid : h.Valid) : ofBytes? h.toBytes = some h := by
  obtain ⟨width, height, depth, kind, interlaced⟩ := h
  have widthPos : 0 < width := valid.width_pos
  have widthLt : width < 4294967296 := valid.width_lt
  have heightPos : 0 < height := valid.height_pos
  have heightLt : height < 4294967296 := valid.height_lt
  have depthMem : depth ∈ kind.depths := valid.depth_mem
  have depthByte : (UInt8.ofNat depth).toNat = depth := by
    rw [UInt8.toNat_ofNat']
    exact Nat.mod_eq_of_lt (ColorKind.lt_of_mem_depths depthMem)
  simp only [toBytes, fourBytes, List.cons_append, List.nil_append, ofBytes?,
    number_fourBytes widthLt, number_fourBytes heightLt, ColorKind.ofCode?_code, depthByte]
  cases interlaced <;> simp [depthMem] <;> omega

end Header

theorem readHeader_chunk {h : Header} (valid : h.Valid) (rest : List UInt8) :
    readHeader (chunk .header h.toBytes ++ rest) = .ok (h, rest) := by
  have length : h.toBytes.length = 13 := rfl
  have body := chunkBody_chunk .header h.toBytes rest
  rw [readHeader, chunkHead_chunk .header rfl _ _ (by omega)]
  simp only [bind, Except.bind]
  rw [body]
  simp [length, Header.ofBytes?_toBytes valid]

theorem readHead_data (fuel : Nat) (h : Head) (data rest : List UInt8)
    (small : data.length < 4294967296) :
    readHead (fuel + 1) h (chunk .data data ++ rest) =
      .ok ((h, data.length), data ++ (fourBytes (crc (Name.data.bytes ++ data)) ++ rest)) := by
  rw [readHead, chunkHead_chunk .data rfl data rest small]
  rfl

/-! ## Image data -/

/-- A chunk of image data is taken, and the head behind it says whether more follow. -/
theorem readData_step (fuel : Nat) (data rest : List UInt8) (read : List (List UInt8)) :
    readData (fuel + 1) data.length read
        (data ++ (fourBytes (crc (Name.data.bytes ++ data)) ++ rest)) =
      match chunkHead rest with
      | .error e => ((data :: read).reverse.flatten, some e)
      | .ok ((length, name), s) =>
        if name = .data then readData fuel length (data :: read) s
        else ((data :: read).reverse.flatten, none) := by
  rw [readData, chunkBody_chunk, List.take_left]
  rfl

theorem readData_pieces (fuel : Nat) (data : List UInt8) (more : List (List UInt8))
    (small : ∀ piece ∈ more, piece.length < 4294967296) (enough : more.length < fuel)
    (read : List (List UInt8)) (rest : List UInt8) :
    readData fuel data.length read (data ++ (fourBytes (crc (Name.data.bytes ++ data)) ++
        (more.flatMap (chunk .data) ++ (chunk .finish [] ++ rest)))) =
      ((read.reverse ++ data :: more).flatten, none) := by
  induction fuel generalizing data more read with
  | zero => omega
  | succ fuel ih =>
      rw [readData_step]
      cases more with
      | nil =>
          rw [List.flatMap_nil, List.nil_append, chunkHead_chunk .finish rfl [] rest (by decide),
            List.reverse_cons]
          rfl
      | cons next more =>
          have shorter : more.length < fuel := by simpa using enough
          have smallNext : next.length < 4294967296 := small next (by simp)
          have smallMore : ∀ piece ∈ more, piece.length < 4294967296 :=
            fun piece member => small piece (by simp [member])
          rw [List.flatMap_cons, List.append_assoc, chunkHead_chunk .data rfl next _ smallNext]
          simp only [reduceIte]
          rw [ih next more smallMore shorter, List.reverse_cons, List.append_assoc]
          rfl

end StatusIcon.Png
