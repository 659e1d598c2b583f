/-
# StatusIcon.Proofs.Deflate.Stored -- stored streams expand to what was stored

A stored block is read by its four bytes of length alone, so it expands to its bytes whatever
follows (`stored_storedBlock`).  A run over stored blocks appends one block after the other and
stops behind the last one (`blocks_storedBlocks`); the fuel of a run is one for each byte and more,
and no block but the last is empty.
-/
import Mathlib.Tactic.Common
import StatusIcon.Deflate.Zlib

set_option autoImplicit false

namespace StatusIcon.Deflate

/-- The bit that marks the last block, as a byte. -/
def mark (last : Bool) : UInt8 := if last then 1 else 0

/-- Three bits of the mark are read, and the rest of its byte is left over. -/
theorem take?_mark (last : Bool) (rest : List UInt8) :
    (Bits.ofBytes (mark last :: rest)).take? 3 =
      some ((mark last).toNat, ⟨mark last :: rest, 3⟩) := by
  cases last <;> simp [Bits.take?, Bits.next?, Bits.ofBytes, mark]

theorem stored_storedBlock (last : Bool) (bytes rest : List UInt8) (short : bytes.length ≤ 65535)
    (out : Array UInt8) :
    stored ⟨storedBlock last bytes ++ rest, 3⟩ out =
      ⟨out ++ bytes.toArray, .complete ⟨rest, 0⟩⟩ := by
  have length : bytes.length % 256 % 2 ^ 8 + 256 * (bytes.length / 256 % 2 ^ 8) =
      bytes.length := by omega
  have complement : (65535 - bytes.length) % 256 % 2 ^ 8 +
      256 * ((65535 - bytes.length) / 256 % 2 ^ 8) = 65535 - bytes.length := by omega
  have enough : ¬ bytes.length + rest.length < bytes.length := by omega
  simp only [stored, Bits.wholeBytes, storedBlock, List.cons_append, List.drop_succ_cons,
    List.drop_zero, Nat.reduceEqDiff, reduceIte, UInt8.toNat_ofNat', length, complement]
  simp [enough]

/-- One step of a run over stored blocks. -/
theorem blocks_storedBlock (fuel : Nat) (last : Bool) (bytes rest : List UInt8)
    (short : bytes.length ≤ 65535) (out : Array UInt8) :
    blocks (fuel + 1) (.ofBytes (storedBlock last bytes ++ rest)) out =
      if last then ⟨out ++ bytes.toArray, .complete (.ofBytes rest)⟩
      else blocks fuel (.ofBytes rest) (out ++ bytes.toArray) := by
  have head : (Bits.ofBytes (storedBlock last bytes ++ rest)).take? 3 =
      some ((mark last).toNat, ⟨storedBlock last bytes ++ rest, 3⟩) := take?_mark last _
  have body := stored_storedBlock last bytes rest short out
  rw [blocks, head]
  cases last with
  | false => simp [mark, body, Bits.ofBytes]
  | true => simp [mark, body, Bits.ofBytes]

theorem blocks_storedBlocks (fuel : Nat) (bytes rest : List UInt8) (enough : bytes.length < fuel)
    (out : Array UInt8) :
    blocks fuel (.ofBytes (storedBlocks bytes ++ rest)) out =
      ⟨out ++ bytes.toArray, .complete (.ofBytes rest)⟩ := by
  induction fuel generalizing bytes out with
  | zero => omega
  | succ fuel ih =>
      rw [storedBlocks]
      split
      · rename_i short
        rw [blocks_storedBlock fuel true bytes rest short out]
        rfl
      · rename_i long
        have full : (bytes.take 65535).length ≤ 65535 := List.length_take_le _ _
        have fewer : (bytes.drop 65535).length < fuel := by
          rw [List.length_drop]
          omega
        rw [List.append_assoc, blocks_storedBlock fuel false _ _ full out]
        have whole : (bytes.take 65535).toArray ++ (bytes.drop 65535).toArray = bytes.toArray := by
          simp
        simp only [Bool.false_eq_true, reduceIte]
        rw [ih _ fewer, Array.append_assoc, whole]

theorem length_le_storedBlocks (bytes : List UInt8) :
    bytes.length ≤ (storedBlocks bytes).length := by
  induction bytes using storedBlocks.induct with
  | case1 bytes short =>
      rw [storedBlocks, if_pos short]
      simp only [storedBlock, List.length_cons]
      omega
  | case2 bytes long ih =>
      rw [storedBlocks, if_neg long]
      simp only [storedBlock, List.length_append, List.length_cons, List.length_take,
        List.length_drop] at ih ⊢
      omega

/-- What is stored in a stream expands to itself. -/
theorem unzlib_zlib (bytes : List UInt8) : unzlib (zlib bytes) = ⟨bytes.toArray, .complete⟩ := by
  have enough := length_le_storedBlocks bytes
  simp only [zlib, unzlib, inflate]
  rw [blocks_storedBlocks]
  · simp [Bits.ofBytes, Bits.wholeBytes]
  · rw [List.length_append]
    omega

end StatusIcon.Deflate
