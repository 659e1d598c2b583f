/-
# StatusIcon.Proofs.Json.Writing -- what is written is JSON

Texts of the printer, in either style, put into the terms of the grammar: a string is written as a
string that says the same (`stringText_quoted`), and a list or an object as what its parts are
written as, in their order (`items_value_list`, `members_value_object`).
-/
import StatusIcon.Json.Printer
import StatusIcon.Proofs.Json.Reading

set_option autoImplicit false

namespace StatusIcon.Json

open Grammar

/-! ## Strings -/

theorem hexDigit?_hexDigit {n : Nat} (digit : n < 16) :
    hexDigit? (Printer.hexDigit n) = some n := by
  decide +revert

theorem hex_byte {n : Nat} (small : n < 256) :
    Hex ['0', '0', Printer.hexDigit (n / 16), Printer.hexDigit (n % 16)] n := by
  have digits := Hex.digits (hexDigit?_hexDigit (n := 0) (by decide))
    (hexDigit?_hexDigit (n := 0) (by decide)) (hexDigit?_hexDigit (n := n / 16) (by omega))
    (hexDigit?_hexDigit (Nat.mod_lt n (by decide)))
  have value : ((0 * 16 + 0) * 16 + n / 16) * 16 + n % 16 = n := by omega
  rwa [value] at digits

theorem written_escaped (c : Char) : Written (Printer.escaped c) c := by
  unfold Printer.escaped
  split
  · next same => exact .letter (by simp [same, letters])
  next noQuote =>
  split
  · next same => exact .letter (by simp [same, letters])
  next noBackslash =>
  split
  · next same => exact .letter (by simp [same, letters])
  split
  · next same => exact .letter (by simp [same, letters])
  split
  · next same => exact .letter (by simp [same, letters])
  split
  · next same => exact .letter (by simp [same, letters])
  split
  · next same => exact .letter (by simp [same, letters])
  split
  · next control =>
      have written := Written.unicode (hex_byte (n := c.toNat) (by omega)) (.inl (by omega))
      rwa [Char.ofNat_toNat] at written
  · next printed => exact .plain (Nat.le_of_not_lt printed) noQuote noBackslash

theorem body_escaped (s : List Char) : Body (s.flatMap Printer.escaped) s := by
  induction s with
  | nil => exact .nil
  | cons c s ih => exact .cons (written_escaped c) ih

theorem stringText_quoted (text : String) : StringText (Printer.quoted text) text :=
  ⟨_, body_escaped text.toList, rfl⟩

/-! ## Lists and objects -/

theorem blank_lead (style : Style) (depth : Nat) : Blank (Printer.lead style depth) := by
  cases style with
  | compact => exact blank_nil
  | pretty =>
      refine .cons rfl ?_
      intro c member
      rw [List.eq_of_mem_replicate member]
      rfl

theorem colon_eq (style : Style) : ∃ sp, Blank sp ∧ Printer.colon style = ':' :: sp := by
  cases style with
  | compact => exact ⟨[], blank_nil, rfl⟩
  | pretty => exact ⟨[' '], .cons rfl blank_nil, rfl⟩

theorem items_value (style : Style) (depth : Nat) {close : List Char} (blank : Blank close)
    (vs : List Value) :
    Items false (vs.map (Printer.value style depth))
      (Printer.items style depth vs ++ (close ++ [']'])) := by
  induction vs with
  | nil => exact .close blank
  | cons v vs ih =>
      have led : Lead false (',' :: Printer.lead style depth) :=
        .next blank_nil (blank_lead style depth)
      simpa [Printer.items] using Items.item led ih

theorem items_value_list (style : Style) (depth : Nat) (vs : List Value) :
    ∃ body, Printer.value style depth (.list vs) = '[' :: body ∧
      Items true (vs.map (Printer.value style (depth + 1))) body := by
  cases vs with
  | nil => exact ⟨_, by simp [Printer.value], .close blank_nil⟩
  | cons v vs =>
      refine ⟨_, by rw [Printer.value], ?_⟩
      have rest := items_value style (depth + 1) (blank_lead style depth) vs
      simpa using Items.item (.first (blank_lead style (depth + 1))) rest

/-- A member as it is written: what stands between the quotes of its name, and its value. -/
def memberText (style : Style) (depth : Nat) (m : String × Value) : List Char × List Char :=
  (m.1.toList.flatMap Printer.escaped, Printer.value style depth m.2)

theorem members_value (style : Style) (depth : Nat) {close : List Char} (blank : Blank close)
    (ms : List (String × Value)) :
    Members false (ms.map (memberText style depth))
      (Printer.members style depth ms ++ (close ++ ['\x7d'])) := by
  induction ms with
  | nil => exact .close blank
  | cons m ms ih =>
      obtain ⟨name, v⟩ := m
      obtain ⟨sp, after, pair⟩ := colon_eq style
      have led : Lead false (',' :: Printer.lead style depth) :=
        .next blank_nil (blank_lead style depth)
      have member := Members.member led blank_nil after ih
        (n := name.toList.flatMap Printer.escaped) (v := Printer.value style depth v)
      simpa [Printer.members, Printer.quoted, memberText, pair] using member

theorem members_value_object (style : Style) (depth : Nat) (ms : List (String × Value)) :
    ∃ body, Printer.value style depth (.object ms) = '\x7b' :: body ∧
      Members true (ms.map (memberText style (depth + 1))) body := by
  cases ms with
  | nil => exact ⟨_, by simp [Printer.value], .close blank_nil⟩
  | cons m ms =>
      obtain ⟨name, v⟩ := m
      obtain ⟨sp, after, pair⟩ := colon_eq style
      refine ⟨_, by rw [Printer.value], ?_⟩
      have rest := members_value style (depth + 1) (blank_lead style depth) ms
      have member := Members.member (.first (blank_lead style (depth + 1))) blank_nil after rest
        (n := name.toList.flatMap Printer.escaped) (v := Printer.value style (depth + 1) v)
      simpa [Printer.quoted, memberText, pair] using member

end StatusIcon.Json
