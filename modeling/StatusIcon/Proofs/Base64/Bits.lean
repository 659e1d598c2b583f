/-
# StatusIcon.Proofs.Base64.Bits -- bytes and symbols as one row of bits

Six bits of each symbol and eight of each byte, the high ones first: written one after the other
these are the same bits, but for zeros that are left over behind the last byte (`valueBits_eq`).
Bytes are determined by how many they are and by their bits (`byteBits_inj`), so there is one list
of bytes that a body of symbols packs (`Packs`, `packs_symbols_iff`), and `pack` is its definition
by groups.
-/
import Mathlib.Algebra.BigOperators.Group.List.Basic
import StatusIcon.Proofs.Base64.Acceptance

set_option autoImplicit false

namespace StatusIcon.Base64

/-! ## Bits -/

/-- The bits of a number, the high ones first. -/
def bitsOf (width n : Nat) : List Bool := (List.range width).reverse.map n.testBit

theorem length_bitsOf (width n : Nat) : (bitsOf width n).length = width := by
  simp [bitsOf]

/-- A number whose low bits are another number. -/
theorem bitsOf_append (high low x : Nat) {y : Nat} (small : y < 2 ^ low) :
    bitsOf high x ++ bitsOf low y = bitsOf (high + low) (x * 2 ^ low + y) := by
  rw [Nat.mul_comm, Nat.add_comm high low]
  simp only [bitsOf, List.range_add, List.reverse_append, List.map_append, List.map_reverse,
    List.map_map]
  congr 2
  · apply List.map_congr_left
    intro i _
    rw [Function.comp_apply, Nat.testBit_two_pow_mul_add x small, if_neg (by omega),
      Nat.add_sub_cancel_left]
  · apply List.map_congr_left
    intro i member
    have below : i < low := List.mem_range.mp member
    rw [Nat.testBit_two_pow_mul_add x small, if_pos below]

theorem bitsOf_split (high low n : Nat) :
    bitsOf (high + low) n = bitsOf high (n / 2 ^ low) ++ bitsOf low (n % 2 ^ low) := by
  rw [bitsOf_append high low _ (Nat.mod_lt n (Nat.two_pow_pos low)), Nat.div_add_mod']

theorem bitsOf_zero (width : Nat) : bitsOf width 0 = List.replicate width false := by
  rw [List.eq_replicate_iff]
  simp [bitsOf]

theorem bitsOf_inj {width m n : Nat} (small : m < 2 ^ width) (small' : n < 2 ^ width)
    (same : bitsOf width m = bitsOf width n) : m = n := by
  apply Nat.eq_of_testBit_eq
  intro i
  by_cases below : i < width
  · exact List.map_inj_left.mp same i (by simpa using below)
  · have far : 2 ^ width ≤ 2 ^ i := Nat.pow_le_pow_right (by decide) (by omega)
    rw [Nat.testBit_lt_two_pow (by omega), Nat.testBit_lt_two_pow (by omega)]

/-! ## Groups -/

/-- The bits of bytes. -/
def byteBits (bytes : List UInt8) : List Bool := bytes.flatMap fun b => bitsOf 8 b.toNat

/-- The bits of numbers of six bits. -/
def valueBits (values : List (Fin 64)) : List Bool := values.flatMap fun v => bitsOf 6 v.val

theorem length_byteBits (bytes : List UInt8) : (byteBits bytes).length = 8 * bytes.length := by
  simp [byteBits, List.length_flatMap, length_bitsOf, Nat.mul_comm]

theorem valueBits_two (x y : Fin 64) : valueBits [x, y] = bitsOf 12 (x.val * 64 + y.val) := by
  have joined := bitsOf_append 6 6 x.val y.isLt
  simpa [valueBits] using joined

theorem valueBits_three (x y z : Fin 64) :
    valueBits [x, y, z] = bitsOf 18 ((x.val * 64 + y.val) * 64 + z.val) := by
  have joined := bitsOf_append 12 6 (x.val * 64 + y.val) z.isLt
  rw [← valueBits_two] at joined
  simpa [valueBits] using joined

theorem valueBits_four (x y z w : Fin 64) :
    valueBits [x, y, z, w] =
      bitsOf 24 (((x.val * 64 + y.val) * 64 + z.val) * 64 + w.val) := by
  have joined := bitsOf_append 18 6 ((x.val * 64 + y.val) * 64 + z.val) w.isLt
  rw [← valueBits_three] at joined
  simpa [valueBits] using joined

theorem byteBits_one {n : Nat} (small : n < 256) : byteBits [UInt8.ofNat n] = bitsOf 8 n := by
  simp [byteBits, UInt8.toNat_ofNat_of_lt' small]

theorem byteBits_two {n : Nat} (small : n < 65536) :
    byteBits [UInt8.ofNat (n / 256), UInt8.ofNat (n % 256)] = bitsOf 16 n := by
  have halves : bitsOf 16 n = bitsOf 8 (n / 256) ++ bitsOf 8 (n % 256) := bitsOf_split 8 8 n
  rw [halves, ← byteBits_one (n := n / 256) (by omega), ← byteBits_one (n := n % 256) (by omega)]
  simp [byteBits]

theorem byteBits_three {n : Nat} (small : n < 16777216) :
    byteBits [UInt8.ofNat (n / 65536), UInt8.ofNat (n / 256 % 256), UInt8.ofNat (n % 256)] =
      bitsOf 24 n := by
  have parts : bitsOf 24 n = bitsOf 16 (n / 256) ++ bitsOf 8 (n % 256) := bitsOf_split 16 8 n
  have high := byteBits_two (n := n / 256) (by omega)
  rw [Nat.div_div_eq_div_mul] at high
  rw [parts, ← high, ← byteBits_one (n := n % 256) (by omega)]
  simp [byteBits]

/-- The bits of whole numbers are the bits of their bytes and zeros. -/
theorem valueBits_eq {values : List (Fin 64)} (whole : Whole values) :
    valueBits values = byteBits (pack values) ++ List.replicate (2 * room values) false := by
  induction values using Whole.induct with
  | case1 x y z w rest ih =>
      have group : valueBits [x, y, z, w] = byteBits (pack [x, y, z, w]) := by
        simp only [pack]
        rw [valueBits_four, byteBits_three (by omega)]
      calc valueBits (x :: y :: z :: w :: rest)
        _ = valueBits [x, y, z, w] ++ valueBits rest := by simp [valueBits]
        _ = byteBits (pack [x, y, z, w]) ++
              (byteBits (pack rest) ++ List.replicate (2 * room rest) false) := by
            rw [group, ih whole]
        _ = _ := by simp [byteBits, pack, room]
  | case2 x y z =>
      have zero : z.val % 4 = 0 := whole
      simp only [pack]
      generalize number : (x.val * 64 + y.val) * 64 + z.val = n
      have parts : bitsOf 18 n = bitsOf 16 (n / 4) ++ bitsOf 2 (n % 4) := bitsOf_split 16 2 n
      have bytes := byteBits_two (n := n / 4) (by omega)
      rw [Nat.div_div_eq_div_mul] at bytes
      have low : n % 4 = 0 := by omega
      rw [valueBits_three, number, parts, low, bitsOf_zero, ← bytes]
      rfl
  | case3 x y =>
      have zero : y.val % 16 = 0 := whole
      simp only [pack]
      generalize number : x.val * 64 + y.val = n
      have parts : bitsOf 12 n = bitsOf 8 (n / 16) ++ bitsOf 4 (n % 16) := bitsOf_split 8 4 n
      have low : n % 16 = 0 := by omega
      rw [valueBits_two, number, parts, low, bitsOf_zero, byteBits_one (by omega)]
      rfl
  | case4 x => exact absurd whole id
  | case5 => rfl

/-! ## The bytes of symbols -/

/-- Three bytes for four symbols, and one or two for the two or three symbols at the end, hold the
bits of the symbols as far as they go. -/
structure Packs (body : List Char) (bytes : List UInt8) : Prop where
  length : bytes.length = body.length / 4 * 3 + (body.length % 4 - 1)
  bits : byteBits bytes = (body.flatMap fun c => bitsOf 6 (value c)).take (8 * bytes.length)

theorem length_pack (values : List (Fin 64)) :
    (pack values).length = values.length / 4 * 3 + (values.length % 4 - 1) := by
  induction values using Whole.induct with
  | case1 x y z w rest ih =>
      simp only [pack, List.length_cons, ih]
      omega
  | case2 x y z => simp [pack]
  | case3 x y => simp [pack]
  | case4 x => simp [pack]
  | case5 => simp [pack]

theorem packs_symbols {values : List (Fin 64)} (whole : Whole values) :
    Packs (symbols values) (pack values) where
  length := by rw [length_pack, symbols, List.length_map]
  bits := by
    have same : ((symbols values).flatMap fun c => bitsOf 6 (value c)) = valueBits values := by
      simp only [symbols, List.flatMap_map, value_symbol, valueBits]
    rw [same, valueBits_eq whole, List.take_left' (length_byteBits _)]

theorem byteBits_inj {a b : List UInt8} (length : a.length = b.length)
    (same : byteBits a = byteBits b) : a = b := by
  induction a generalizing b with
  | nil => exact (List.eq_nil_of_length_eq_zero length.symm).symm
  | cons x a ih =>
      cases b with
      | nil => cases length
      | cons y b =>
          simp only [byteBits, List.flatMap_cons] at same
          obtain ⟨first, others⟩ := List.append_inj same (by rw [length_bitsOf, length_bitsOf])
          have head : x = y := UInt8.toNat_inj.mp (bitsOf_inj x.toNat_lt y.toNat_lt first)
          rw [head, ih (Nat.succ.inj length) others]

theorem packs_symbols_iff {values : List (Fin 64)} (whole : Whole values) {bytes : List UInt8} :
    Packs (symbols values) bytes ↔ bytes = pack values := by
  constructor
  · intro packs
    have packs' := packs_symbols whole
    have length : bytes.length = (pack values).length := by rw [packs.length, packs'.length]
    apply byteBits_inj length
    rw [packs.bits, packs'.bits, length]
  · rintro rfl
    exact packs_symbols whole

end StatusIcon.Base64
