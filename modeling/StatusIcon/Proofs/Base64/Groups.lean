/-
# StatusIcon.Proofs.Base64.Groups -- texts as groups of six-bit numbers

Between bytes and characters stand numbers of six bits.  `pack` makes bytes of them, four numbers
for three bytes and two or three numbers for the one or two bytes at the end; `unpack` takes bytes
apart again (`pack_unpack`).  Not every list of numbers comes from bytes: a last number must not
stand alone, and the bits that no byte has room for must be zero (`Whole`).

* Reading: the symbols of whole numbers, with as many `=` signs behind them as there is room for or
  fewer, are read as the packed bytes (`decode_symbols`).
* Writing: bytes are written as the symbols of their numbers, with all `=` signs there is room for
  (`encode_eq_symbols`).
-/
import Mathlib.Tactic.SplitIfs
import StatusIcon.Base64

set_option autoImplicit false

namespace StatusIcon.Base64

/-! ## Characters -/

/-- A letter or digit of ASCII, a plus or a slash. -/
def IsSymbol (c : Char) : Prop := c.isAlphanum = true ∨ c = '+' ∨ c = '/'

theorem isAlphanum_iff (c : Char) :
    c.isAlphanum = true ↔ 65 ≤ c.toNat ∧ c.toNat ≤ 90 ∨ 97 ≤ c.toNat ∧ c.toNat ≤ 122 ∨
      48 ≤ c.toNat ∧ c.toNat ≤ 57 := by
  have spelled : c.isAlphanum =
      ((decide (65 ≤ c.val ∧ c.val ≤ 90) ||
          decide (97 ≤ c.val) && decide (c.val ≤ 122)) ||
        decide (48 ≤ c.val) && decide (c.val ≤ 57)) := rfl
  rw [spelled]
  simp only [Bool.or_eq_true, Bool.and_eq_true, decide_eq_true_eq, UInt32.le_iff_toNat_le]
  exact or_assoc

theorem bits?_isSome_iff (c : Char) : (bits? c).isSome = true ↔ IsSymbol c := by
  rw [IsSymbol, isAlphanum_iff]
  simp only [bits?, Bool.and_eq_true, decide_eq_true_eq]
  split_ifs <;> simp_all

theorem isAlphabetic_iff (c : Char) : isAlphabetic c = true ↔ IsSymbol c ∨ c = '=' := by
  rw [isAlphabetic, Bool.or_eq_true, bits?_isSome_iff, beq_iff_eq]

theorem bits?_symbol (v : Fin 64) : bits? (symbol v.val) = some v.val := by
  revert v
  decide

theorem symbol_ne_pad (v : Fin 64) : symbol v.val ≠ '=' := by
  revert v
  decide

theorem isSymbol_symbol (v : Fin 64) : IsSymbol (symbol v.val) := by
  rw [← bits?_isSome_iff, bits?_symbol]
  rfl

theorem bitsAt_symbol (offset : Nat) (v : Fin 64) : bitsAt offset (symbol v.val) = .ok v.val := by
  rw [bitsAt, bits?_symbol]

/-! ## Numbers of six bits -/

/-- The bytes of numbers of six bits, the high bits first. -/
def pack : List (Fin 64) → List UInt8
  | x :: y :: z :: w :: rest =>
    let n := ((x.val * 64 + y.val) * 64 + z.val) * 64 + w.val
    UInt8.ofNat (n / 65536) :: UInt8.ofNat (n / 256 % 256) :: UInt8.ofNat (n % 256) :: pack rest
  | [x, y, z] =>
    let n := (x.val * 64 + y.val) * 64 + z.val
    [UInt8.ofNat (n / 1024), UInt8.ofNat (n / 4 % 256)]
  | [x, y] => [UInt8.ofNat ((x.val * 64 + y.val) / 16)]
  | _ => []

/-- No number stands alone at the end, and the bits behind the last byte are zero. -/
def Whole : List (Fin 64) → Prop
  | _ :: _ :: _ :: _ :: rest => Whole rest
  | [_, _, z] => z.val % 4 = 0
  | [_, y] => y.val % 16 = 0
  | [_] => False
  | [] => True

/-- How many signs fill the last group. -/
def room : List (Fin 64) → Nat
  | _ :: _ :: _ :: _ :: rest => room rest
  | [_, _, _] => 1
  | [_, _] => 2
  | _ => 0

/-- The symbols of numbers. -/
def symbols (values : List (Fin 64)) : List Char := values.map fun v => symbol v.val

theorem isSymbol_of_mem_symbols {values : List (Fin 64)} {c : Char} (member : c ∈ symbols values) :
    IsSymbol c := by
  obtain ⟨v, -, rfl⟩ := List.mem_map.1 member
  exact isSymbol_symbol v

theorem ne_pad_of_mem_symbols {values : List (Fin 64)} {c : Char} (member : c ∈ symbols values) :
    c ≠ '=' := by
  obtain ⟨v, -, rfl⟩ := List.mem_map.1 member
  exact symbol_ne_pad v

/-- The numbers of bytes; bits behind the last byte are zero. -/
def unpack : List UInt8 → List (Fin 64)
  | [] => []
  | [a] =>
    let n := a.toNat * 16
    [Fin.ofNat 64 (n / 64), Fin.ofNat 64 n]
  | [a, b] =>
    let n := (a.toNat * 256 + b.toNat) * 4
    [Fin.ofNat 64 (n / 4096), Fin.ofNat 64 (n / 64), Fin.ofNat 64 n]
  | a :: b :: c :: rest =>
    let n := (a.toNat * 256 + b.toNat) * 256 + c.toNat
    Fin.ofNat 64 (n / 262144) :: Fin.ofNat 64 (n / 4096) :: Fin.ofNat 64 (n / 64) ::
      Fin.ofNat 64 n :: unpack rest

/-- Four numbers of six bits hold a number of twenty-four. -/
theorem regroup {n : Nat} (small : n < 16777216) :
    ((n / 262144 % 64 * 64 + n / 4096 % 64) * 64 + n / 64 % 64) * 64 + n % 64 = n := by
  omega

theorem pack_unpack (bytes : List UInt8) : pack (unpack bytes) = bytes := by
  induction bytes using unpack.induct with
  | case1 => rfl
  | case2 a =>
      have := a.toNat_lt
      simp only [unpack, pack, Fin.val_ofNat, List.cons.injEq, and_true,
        UInt8.ofNat_eq_iff_mod_eq_toNat]
      omega
  | case3 a b =>
      have := a.toNat_lt
      have := b.toNat_lt
      simp only [unpack, pack, Fin.val_ofNat, List.cons.injEq, and_true,
        UInt8.ofNat_eq_iff_mod_eq_toNat]
      omega
  | case4 a b c rest ih =>
      have := a.toNat_lt
      have := b.toNat_lt
      have := c.toNat_lt
      simp only [unpack, pack, Fin.val_ofNat, ih, List.cons.injEq, and_true,
        UInt8.ofNat_eq_iff_mod_eq_toNat]
      rw [regroup (by omega)]
      omega

theorem whole_unpack (bytes : List UInt8) : Whole (unpack bytes) := by
  induction bytes using unpack.induct with
  | case1 => trivial
  | case2 a => simp only [unpack, Whole, Fin.val_ofNat]; omega
  | case3 a b => simp only [unpack, Whole, Fin.val_ofNat]; omega
  | case4 a b c rest ih => simpa only [unpack, Whole] using ih

/-! ## Reading -/

theorem decodeLast_symbols (offset : Nat) (values : List (Fin 64)) (whole : Whole values)
    (short : values.length ≤ 4) (pads : Nat) (fits : pads ≤ room values) :
    decodeLast offset (symbols values ++ List.replicate pads '=') = .ok (pack values) := by
  match values, whole, short with
  | [], _, _ =>
      obtain rfl : pads = 0 := by simpa [room] using fits
      rfl
  | [x, y], whole, _ =>
      have zero : y.val % 16 = 0 := whole
      match pads, fits with
      | 0, _ | 1, _ | 2, _ =>
          simp [symbols, decodeLast, bitsAt_symbol, zero, pack, List.replicate, bind, Except.bind]
  | [x, y, z], whole, _ =>
      have zero : z.val % 4 = 0 := whole
      match pads, fits with
      | 0, _ | 1, _ =>
          simp [symbols, decodeLast, bitsAt_symbol, symbol_ne_pad, zero, pack, List.replicate,
            bind, Except.bind]
  | [x, y, z, w], _, _ =>
      obtain rfl : pads = 0 := by simpa [room] using fits
      simp [symbols, decodeLast, bitsAt_symbol, symbol_ne_pad, pack, bind, Except.bind]

theorem decodeFrom_short (offset : Nat) (bytes : List UInt8) (group : List Char)
    (short : group.length ≤ 4) :
    decodeFrom offset bytes group =
      match decodeLast offset group with
      | .ok last => .ok (bytes.reverse ++ last)
      | .error e => .error e := by
  match group, short with
  | [], _ | [_], _ | [_, _], _ | [_, _, _], _ | [_, _, _, _], _ => rfl
  | _ :: _ :: _ :: _ :: _ :: _, short =>
      simp only [List.length_cons] at short
      omega

/-- A last group with its signs is read at once. -/
theorem decodeFrom_last (values : List (Fin 64)) (whole : Whole values) (pads : Nat)
    (fits : pads ≤ room values) (short : values.length + room values ≤ 4) (offset : Nat)
    (bytes : List UInt8) :
    decodeFrom offset bytes (symbols values ++ List.replicate pads '=') =
      .ok (bytes.reverse ++ pack values) := by
  rw [decodeFrom_short, decodeLast_symbols offset values whole (by omega) pads fits]
  rw [List.length_append, List.length_replicate, symbols, List.length_map]
  omega

theorem decodeFrom_symbols (values : List (Fin 64)) (whole : Whole values) (pads : Nat)
    (fits : pads ≤ room values) (offset : Nat) (bytes : List UInt8) :
    decodeFrom offset bytes (symbols values ++ List.replicate pads '=') =
      .ok (bytes.reverse ++ pack values) := by
  induction values using Whole.induct generalizing offset bytes with
  | case1 x y z w rest ih =>
      cases behind : symbols rest ++ List.replicate pads '=' with
      | nil =>
          obtain rfl : rest = [] := by simpa [symbols] using (List.append_eq_nil_iff.1 behind).1
          exact decodeFrom_last [x, y, z, w] whole pads fits (by simp [room]) offset bytes
      | cons e more =>
          have text : symbols (x :: y :: z :: w :: rest) ++ List.replicate pads '=' =
              symbol x :: symbol y :: symbol z :: symbol w :: e :: more := by
            rw [← behind]
            rfl
          rw [text, decodeFrom]
          simp only [bitsAt_symbol]
          rw [← behind, ih whole fits]
          simp [pack]
  | case2 x y z => exact decodeFrom_last [x, y, z] whole pads fits (by simp [room]) offset bytes
  | case3 x y => exact decodeFrom_last [x, y] whole pads fits (by simp [room]) offset bytes
  | case4 x => exact absurd whole id
  | case5 => exact decodeFrom_last [] whole pads fits (by simp [room]) offset bytes

/-- Whole numbers are read, whatever part of the last signs is there. -/
theorem decode_symbols (values : List (Fin 64)) (whole : Whole values) (pads : Nat)
    (fits : pads ≤ room values) :
    decode (symbols values ++ List.replicate pads '=') = .ok (pack values) := by
  rw [decode, decodeFrom_symbols values whole pads fits, List.reverse_nil, List.nil_append]

/-! ## Writing -/

theorem symbol_ofNat {n m : Nat} (same : n % 64 = m) : symbol m = symbol (Fin.ofNat 64 n).val := by
  rw [Fin.val_ofNat, same]

theorem encode_eq_symbols (bytes : List UInt8) :
    encode bytes = symbols (unpack bytes) ++ List.replicate (room (unpack bytes)) '=' := by
  induction bytes using unpack.induct with
  | case1 => rfl
  | case2 a =>
      have := a.toNat_lt
      simp only [encode, unpack, symbols, room, List.map_cons, List.map_nil, List.cons_append,
        List.nil_append, List.cons.injEq]
      exact ⟨symbol_ofNat (by omega), symbol_ofNat (by omega), rfl⟩
  | case3 a b =>
      have := a.toNat_lt
      have := b.toNat_lt
      simp only [encode, unpack, symbols, room, List.map_cons, List.map_nil, List.cons_append,
        List.nil_append, List.cons.injEq]
      exact ⟨symbol_ofNat (by omega), symbol_ofNat (by omega), symbol_ofNat (by omega), rfl⟩
  | case4 a b c rest ih =>
      have := a.toNat_lt
      have := b.toNat_lt
      have := c.toNat_lt
      simp only [encode, unpack, symbols, room, List.map_cons, List.cons_append, List.cons.injEq]
      exact ⟨symbol_ofNat (by omega), symbol_ofNat (by omega), symbol_ofNat (by omega),
        symbol_ofNat (by omega), ih⟩

theorem length_encode (bytes : List UInt8) : 4 ∣ (encode bytes).length := by
  induction bytes using unpack.induct with
  | case1 => exact Nat.dvd_zero 4
  | case2 a => exact Nat.dvd_refl 4
  | case3 a b => exact Nat.dvd_refl 4
  | case4 a b c rest ih =>
      simp only [encode, List.length_cons]
      omega

end StatusIcon.Base64
