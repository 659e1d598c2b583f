/-
# StatusIcon.Proofs.Json.Printed -- what is printed is a value

Whatever value is printed, in either style, its text is a value of JSON (`isValue_value`), and the
text of an object has the members of the object, in their order (`objectOf_render`).  A single that
is not finite is printed as `null`, which is a value like any other; only a reader that asks for a
number refuses it.
-/
import StatusIcon.Proofs.Json.Decimals
import StatusIcon.Proofs.Json.Objects
import StatusIcon.Proofs.Json.Writing

set_option autoImplicit false

namespace StatusIcon.Json

open Grammar

variable {style : Style} {depth : Nat}

/-! ## Values -/

theorem isValue_natural (n : Nat) : IsValue (Printer.value style depth (.natural n)) := by
  have text : NaturalText (n.log2 + 1) (Nat.repr n).toList n := naturalText_repr Nat.lt_log2_self
  have digits := Unsigned.parts text.1 .none .none
  rw [List.append_nil, List.append_nil] at digits
  rw [Printer.value]
  exact .number digits

theorem isValue_single (x : Single) : IsValue (Printer.value style depth (.single x)) := by
  rw [Printer.value]
  cases printed : Binary.text? .single x with
  | none => exact .null
  | some text =>
      obtain ⟨y, means⟩ := exists_singleText printed
      exact reads_readSingle.value means

theorem isValue_value (style : Style) (depth : Nat) (v : Value) :
    IsValue (Printer.value style depth v) := by
  match v with
  | .null =>
      rw [Printer.value]
      exact .null
  | .bool b =>
      rw [Printer.value]
      exact reads_readBool.value (a := b) rfl
  | .natural n => exact isValue_natural n
  | .single x => exact isValue_single x
  | .string text =>
      rw [Printer.value]
      exact reads_readString.value (stringText_quoted text)
  | .list vs =>
      obtain ⟨body, written, items⟩ := items_value_list style depth vs
      rw [written]
      refine .list items ?_
      intro w member
      obtain ⟨v, inside, rfl⟩ := List.mem_map.mp member
      exact isValue_value style (depth + 1) v
  | .object ms =>
      obtain ⟨body, written, members⟩ := members_value_object style depth ms
      rw [written]
      refine .object members ?_ ?_
      · intro raw member
        obtain ⟨m, inside, rfl⟩ := List.mem_map.mp member
        exact (body_escaped m.1.toList).pieces
      · intro raw member
        obtain ⟨m, inside, rfl⟩ := List.mem_map.mp member
        exact isValue_value style (depth + 1) m.2
termination_by sizeOf v
decreasing_by
  · have smaller := List.sizeOf_lt_of_mem inside
    simp only [Value.list.sizeOf_spec]
    omega
  · have smaller := List.sizeOf_lt_of_mem inside
    cases m
    simp only [Prod.mk.sizeOf_spec, Value.object.sizeOf_spec] at *
    omega

/-! ## Objects -/

/-- What is printed for members: their names, and the texts of their values. -/
def printed (style : Style) (depth : Nat) (ms : List (String × Value)) :
    List (String × List Char) :=
  ms.map fun m => (m.1, Printer.value style depth m.2)

theorem objectText_value (style : Style) (depth : Nat) (ms : List (String × Value)) :
    ObjectText (Printer.value style depth (.object ms)) (printed style (depth + 1) ms) := by
  obtain ⟨body, written, members⟩ := members_value_object style depth ms
  refine ⟨_, body, members, ?_, written⟩
  rw [printed, List.forall₂_map_left_iff, List.forall₂_map_right_iff, List.forall₂_same]
  intro m member
  exact ⟨body_escaped _, isValue_value style (depth + 1) m.2, rfl⟩

theorem around_render (style : Style) (v : Value) :
    Around (v.render style) (Printer.value style 0 v) :=
  ⟨[], [], blank_nil, blank_nil, by simp [Value.render]⟩

theorem objectOf_render (style : Style) (ms : List (String × Value)) :
    ObjectOf ((Value.object ms).render style) (printed style 1 ms) :=
  ⟨_, around_render style _, objectText_value style 0 ms⟩

end StatusIcon.Json
