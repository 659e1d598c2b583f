/-
# StatusIcon.Proofs.Base64.Acceptance -- which texts are read

A text is read exactly if it is the symbols of whole numbers and then signs, no more of them than
there is room for (`decode_eq_ok_iff`).  Reading goes group by group, and the last group has rules
of its own, so the signs are the end of a text by two arguments: a group before the last one has
four symbols, and in the last one no symbol comes after a sign.

The same is said of the characters alone in `Complete`: how many there are of each kind, and which
symbol may be the last one (`complete_symbols_iff`).
-/
import Mathlib.Tactic.SplitIfs
import StatusIcon.Proofs.Base64.Groups
import StatusIcon.Proofs.Results

set_option autoImplicit false

namespace StatusIcon.Base64

/-! ## Symbols -/

theorem symbol_bits? {c : Char} {n : Nat} (known : bits? c = some n) : n < 64 ∧ symbol n = c := by
  have again {m : Nat} (same : m = c.toNat) : Char.ofNat m = c := by
    rw [same, Char.ofNat_toNat]
  simp only [bits?, Bool.and_eq_true, decide_eq_true_eq] at known
  split_ifs at known with upper lower digit plus slash
  · obtain rfl := Option.some.inj known
    refine ⟨by omega, ?_⟩
    rw [symbol, if_pos (by omega)]
    exact again (by omega)
  · obtain rfl := Option.some.inj known
    refine ⟨by omega, ?_⟩
    rw [symbol, if_neg (by omega), if_pos (by omega)]
    exact again (by omega)
  · obtain rfl := Option.some.inj known
    refine ⟨by omega, ?_⟩
    rw [symbol, if_neg (by omega), if_neg (by omega), if_pos (by omega)]
    exact again (by omega)
  · obtain rfl := Option.some.inj known
    exact ⟨by decide, plus.symm⟩
  · obtain rfl := Option.some.inj known
    exact ⟨by decide, slash.symm⟩

theorem bitsAt_eq_ok_iff {offset n : Nat} {c : Char} :
    bitsAt offset c = .ok n ↔ ∃ v : Fin 64, n = v.val ∧ c = symbol v.val := by
  constructor
  · intro read
    unfold bitsAt at read
    split at read
    · next known =>
        obtain rfl := Except.ok.inj read
        obtain ⟨small, same⟩ := symbol_bits? known
        exact ⟨⟨_, small⟩, rfl, same.symm⟩
    · cases read
  · rintro ⟨v, rfl, rfl⟩
    exact bitsAt_symbol offset v

/-! ## Texts in terms of their numbers -/

/-- The text is the symbols of whole numbers, and no more signs behind them than there is room
for. -/
structure Spells (text : List Char) (values : List (Fin 64)) (pads : Nat) : Prop where
  text : text = symbols values ++ List.replicate pads '='
  whole : Whole values
  fits : pads ≤ room values

section

variable {x y z : Fin 64} {pads : Nat} {bytes : List UInt8} {e : Error}

theorem exists_spells_two (fits : pads ≤ 2)
    (read : (if y.val % 16 = 0 then .ok [UInt8.ofNat ((x.val * 64 + y.val) / 16)]
      else .error e) = Except.ok bytes) :
    ∃ values signs, Spells (symbol x :: symbol y :: List.replicate pads '=') values signs ∧
      bytes = pack values := by
  split at read
  · next zero =>
      cases read
      exact ⟨[x, y], pads, ⟨rfl, zero, fits⟩, rfl⟩
  · cases read

theorem exists_spells_three (fits : pads ≤ 1)
    (read : (if z.val % 4 = 0 then
        .ok [UInt8.ofNat (((x.val * 64 + y.val) * 64 + z.val) / 1024),
          UInt8.ofNat (((x.val * 64 + y.val) * 64 + z.val) / 4 % 256)]
      else .error e) = Except.ok bytes) :
    ∃ values signs,
      Spells (symbol x :: symbol y :: symbol z :: List.replicate pads '=') values signs ∧
        bytes = pack values := by
  split at read
  · next zero =>
      cases read
      exact ⟨[x, y, z], pads, ⟨rfl, zero, fits⟩, rfl⟩
  · cases read

end

theorem exists_spells_of_decodeLast {offset : Nat} {group : List Char} {bytes : List UInt8}
    (short : group.length ≤ 4) (read : decodeLast offset group = .ok bytes) :
    ∃ values pads, Spells group values pads ∧ bytes = pack values := by
  match group, short, read with
  | [], _, read =>
      cases read
      exact ⟨[], 0, ⟨rfl, trivial, Nat.le_refl 0⟩, rfl⟩
  | [a], _, read =>
      obtain ⟨_, -, impossible⟩ := bind_eq_ok_iff.mp read
      cases impossible
  | a :: b :: more, short, read =>
      obtain ⟨_, first, read₁⟩ := bind_eq_ok_iff.mp read
      obtain ⟨_, second, read₂⟩ := bind_eq_ok_iff.mp read₁
      obtain ⟨x, rfl, rfl⟩ := bitsAt_eq_ok_iff.mp first
      obtain ⟨y, rfl, rfl⟩ := bitsAt_eq_ok_iff.mp second
      match more, short, read₂ with
      | [], _, read₂ => exact exists_spells_two (Nat.zero_le 2) read₂
      | c :: more, short, read₂ =>
          dsimp only at read₂
          split at read₂
          · next sign =>
              subst sign
              split at read₂
              · next signs =>
                  have all : '=' :: more = List.replicate (more.length + 1) '=' := by
                    rw [List.replicate_succ, ← List.eq_replicate_of_mem]
                    simpa using signs
                  simp only [List.length_cons] at short
                  rw [all]
                  exact exists_spells_two (by omega) read₂
              · cases read₂
          · obtain ⟨_, third, read₃⟩ := bind_eq_ok_iff.mp read₂
            obtain ⟨z, rfl, rfl⟩ := bitsAt_eq_ok_iff.mp third
            match more, short, read₃ with
            | [], _, read₃ => exact exists_spells_three (Nat.zero_le 1) read₃
            | [d], _, read₃ =>
                dsimp only at read₃
                split at read₃
                · next sign =>
                    subst sign
                    exact exists_spells_three (Nat.le_refl 1) read₃
                · obtain ⟨_, fourth, read₄⟩ := bind_eq_ok_iff.mp read₃
                  obtain ⟨w, rfl, rfl⟩ := bitsAt_eq_ok_iff.mp fourth
                  cases read₄
                  exact ⟨[x, y, z, w], 0, ⟨rfl, trivial, Nat.le_refl 0⟩, rfl⟩

theorem length_le_of_short {group : List Char}
    (short : ∀ a b c d e rest, group = a :: b :: c :: d :: e :: rest → False) :
    group.length ≤ 4 := by
  match group, short with
  | [], _ | [_], _ | [_, _], _ | [_, _, _], _ | [_, _, _, _], _ => simp
  | a :: b :: c :: d :: e :: rest, short => exact (short a b c d e rest rfl).elim

theorem exists_spells_of_decodeFrom {offset : Nat} {before : List UInt8} {text : List Char}
    {bytes : List UInt8} (read : decodeFrom offset before text = .ok bytes) :
    ∃ values pads, Spells text values pads ∧ bytes = before.reverse ++ pack values := by
  fun_induction decodeFrom offset before text generalizing bytes with
  | case1 offset before a b c d e rest x y z w fourth third second first n =>
      rename_i ih
      obtain ⟨values, pads, spells, rfl⟩ := ih read
      obtain ⟨x, rfl, rfl⟩ := bitsAt_eq_ok_iff.mp first
      obtain ⟨y, rfl, rfl⟩ := bitsAt_eq_ok_iff.mp second
      obtain ⟨z, rfl, rfl⟩ := bitsAt_eq_ok_iff.mp third
      obtain ⟨w, rfl, rfl⟩ := bitsAt_eq_ok_iff.mp fourth
      refine ⟨x :: y :: z :: w :: values, pads, ⟨?_, spells.whole, spells.fits⟩, ?_⟩
      · rw [spells.text]
        rfl
      · simp [pack, n]
  | case6 offset before group short last found =>
      obtain ⟨values, pads, spells, rfl⟩ :=
        exists_spells_of_decodeLast (length_le_of_short short) found
      exact ⟨values, pads, spells, (Except.ok.inj read).symm⟩
  | _ => cases read

theorem decode_eq_ok_iff {text : List Char} {bytes : List UInt8} :
    decode text = .ok bytes ↔ ∃ values pads, Spells text values pads ∧ bytes = pack values := by
  constructor
  · exact exists_spells_of_decodeFrom
  · rintro ⟨values, pads, ⟨rfl, whole, fits⟩, rfl⟩
    exact decode_symbols values whole pads fits

/-! ## Texts in terms of their characters -/

/-- The symbols in the order of their values. -/
def alphabet : List Char :=
  ['A', 'B', 'C', 'D', 'E', 'F', 'G', 'H', 'I', 'J', 'K', 'L', 'M', 'N', 'O', 'P', 'Q', 'R', 'S',
    'T', 'U', 'V', 'W', 'X', 'Y', 'Z', 'a', 'b', 'c', 'd', 'e', 'f', 'g', 'h', 'i', 'j', 'k', 'l',
    'm', 'n', 'o', 'p', 'q', 'r', 's', 't', 'u', 'v', 'w', 'x', 'y', 'z', '0', '1', '2', '3', '4',
    '5', '6', '7', '8', '9', '+', '/']

def value (c : Char) : Nat := alphabet.idxOf c

theorem value_symbol (v : Fin 64) : value (symbol v.val) = v.val := by
  revert v
  decide +kernel

/-- Characters that make whole bytes with this many signs behind them: the last group is not one
character alone, the signs do not overfill it, and the bits that no byte has room for are zero. -/
structure Complete (body : List Char) (pads : Nat) : Prop where
  noSign : '=' ∉ body
  length : body.length % 4 ≠ 1
  padsNone : body.length % 4 = 0 → pads = 0
  padsTwo : body.length % 4 = 2 → pads ≤ 2
  padsThree : body.length % 4 = 3 → pads ≤ 1
  lastTwo : body.length % 4 = 2 → ∀ c ∈ body.getLast?, value c % 16 = 0
  lastThree : body.length % 4 = 3 → ∀ c ∈ body.getLast?, value c % 4 = 0

/-! A group of four in front changes neither of the two. -/

section

variable {α : Type} (x y z w : α)

theorem length_group (rest : List α) : (x :: y :: z :: w :: rest).length % 4 = rest.length % 4 := by
  simp only [List.length_cons]
  omega

theorem getLast?_group {rest : List α} (more : rest ≠ []) :
    (x :: y :: z :: w :: rest).getLast? = rest.getLast? := by
  cases rest with
  | nil => exact absurd rfl more
  | cons _ _ => simp only [List.getLast?_cons_cons]

end

theorem room_eq (values : List (Fin 64)) :
    room values =
      if values.length % 4 = 2 then 2 else if values.length % 4 = 3 then 1 else 0 := by
  induction values using Whole.induct with
  | case1 x y z w rest ih =>
      rw [length_group]
      exact ih
  | case2 x y z => rfl
  | case3 x y => rfl
  | case4 x => rfl
  | case5 => rfl

theorem whole_iff (values : List (Fin 64)) :
    Whole values ↔ values.length % 4 ≠ 1 ∧
      (values.length % 4 = 2 → ∀ v ∈ values.getLast?, v.val % 16 = 0) ∧
      (values.length % 4 = 3 → ∀ v ∈ values.getLast?, v.val % 4 = 0) := by
  induction values using Whole.induct with
  | case1 x y z w rest ih =>
      rw [Whole, ih, length_group]
      -- the last number is the same, where it is asked for
      have last (n : Nat) (odd : rest.length % 4 = n + 1) :
          (x :: y :: z :: w :: rest).getLast? = rest.getLast? := by
        apply getLast?_group
        rintro rfl
        cases odd
      refine and_congr_right fun _ => and_congr ?_ ?_
      · exact imp_congr_right fun two => by rw [last 1 two]
      · exact imp_congr_right fun three => by rw [last 2 three]
  | case2 x y z => simp [Whole]
  | case3 x y => simp [Whole]
  | case4 x => simp [Whole]
  | case5 => simp [Whole]

theorem complete_symbols_iff (values : List (Fin 64)) (pads : Nat) :
    Complete (symbols values) pads ↔ Whole values ∧ pads ≤ room values := by
  have length : (symbols values).length = values.length := List.length_map _
  have last (p : Nat → Prop) :
      (∀ c ∈ (symbols values).getLast?, p (value c)) ↔ ∀ v ∈ values.getLast?, p v.val := by
    rw [symbols, List.getLast?_map]
    cases values.getLast? with
    | none => simp
    | some v => simp [value_symbol]
  rw [whole_iff, room_eq]
  constructor
  · rintro ⟨-, lone, none, two, three, lastTwo, lastThree⟩
    rw [length] at lone none two three lastTwo lastThree
    rw [last (· % 16 = 0)] at lastTwo
    rw [last (· % 4 = 0)] at lastThree
    refine ⟨⟨lone, lastTwo, lastThree⟩, ?_⟩
    split_ifs <;> omega
  · rintro ⟨⟨lone, lastTwo, lastThree⟩, fits⟩
    rw [← length] at lone fits lastTwo lastThree
    exact {
      noSign := fun member => ne_pad_of_mem_symbols member rfl
      length := lone
      padsNone := fun none => by simpa [none] using fits
      padsTwo := fun two => by simpa [two] using fits
      padsThree := fun three => by simpa [three] using fits
      lastTwo := fun two => (last (· % 16 = 0)).mpr (lastTwo two)
      lastThree := fun three => (last (· % 4 = 0)).mpr (lastThree three) }

theorem exists_symbols {body : List Char} (known : ∀ c ∈ body, IsSymbol c) :
    ∃ values, body = symbols values := by
  induction body with
  | nil => exact ⟨[], rfl⟩
  | cons c body ih =>
      obtain ⟨first, others⟩ := List.forall_mem_cons.mp known
      obtain ⟨values, rfl⟩ := ih others
      obtain ⟨n, bits⟩ := Option.isSome_iff_exists.mp ((bits?_isSome_iff c).mpr first)
      obtain ⟨small, rfl⟩ := symbol_bits? bits
      exact ⟨⟨n, small⟩ :: values, rfl⟩

theorem exists_values_of_complete {body : List Char} {pads : Nat}
    (alphabetic : ∀ c ∈ body, isAlphabetic c = true) (complete : Complete body pads) :
    ∃ values, body = symbols values ∧ Whole values ∧ pads ≤ room values := by
  have known : ∀ c ∈ body, IsSymbol c := by
    intro c member
    apply ((isAlphabetic_iff c).mp (alphabetic c member)).resolve_right
    rintro rfl
    exact complete.noSign member
  obtain ⟨values, rfl⟩ := exists_symbols known
  exact ⟨values, rfl, (complete_symbols_iff values pads).mp complete⟩

end StatusIcon.Base64
