/-
# StatusIcon.Proofs.Base64.Lenient -- texts that were kept carelessly

A text on its way through files, mails and editors picks up characters that are no base64 (`Strewn`)
and loses `=` signs at its end.  Neither changes what it says: once the foreign characters are
skipped, what is left is the text with some of its signs, and that is read as the same bytes
(`decode_of_strewn`).
-/
import Mathlib.Tactic.Common
import StatusIcon.Proofs.Base64.Groups

set_option autoImplicit false

namespace StatusIcon.Base64

/-- The second text is the first with characters from outside the alphabet put in anywhere. -/
inductive Strewn : List Char → List Char → Prop where
  | nil : Strewn [] []
  | keep (c : Char) {kept noisy : List Char} : Strewn kept noisy → Strewn (c :: kept) (c :: noisy)
  | insert {c : Char} (outside : ¬ (IsSymbol c ∨ c = '=')) {kept noisy : List Char} :
      Strewn kept noisy → Strewn kept (c :: noisy)

namespace Strewn

theorem refl (text : List Char) : Strewn text text := by
  induction text with
  | nil => exact nil
  | cons c text ih => exact ih.keep c

theorem append {kept noisy kept' noisy' : List Char} (first : Strewn kept noisy)
    (second : Strewn kept' noisy') : Strewn (kept ++ kept') (noisy ++ noisy') := by
  induction first with
  | nil => exact second
  | keep c _ ih => exact ih.keep c
  | insert outside _ ih => exact ih.insert outside

/-- Skipping the foreign characters undoes the strewing. -/
theorem filter_eq {kept noisy : List Char} (strewn : Strewn kept noisy)
    (alphabetic : ∀ c ∈ kept, isAlphabetic c = true) : noisy.filter isAlphabetic = kept := by
  induction strewn with
  | nil => rfl
  | keep c strewn ih =>
      rw [List.filter_cons_of_pos (alphabetic c List.mem_cons_self),
        ih fun d member => alphabetic d (List.mem_cons_of_mem c member)]
  | insert outside strewn ih =>
      rw [List.filter_cons_of_neg (fun inside => outside ((isAlphabetic_iff _).1 inside)),
        ih alphabetic]

end Strewn

/-- What is left of a text when signs are taken from its end. -/
theorem exists_pads {body kept : List Char} {pads cut : Nat} (free : ∀ c ∈ body, c ≠ '=')
    (text : body ++ List.replicate pads '=' = kept ++ List.replicate cut '=') :
    ∃ left ≤ pads, kept = body ++ List.replicate left '=' := by
  rcases List.append_eq_append_iff.1 text with ⟨signs, rfl, both⟩ | ⟨signs, rfl, both⟩
  · obtain ⟨length, left, -⟩ := List.append_eq_replicate_iff.1 both.symm
    exact ⟨signs.length, by omega, by rw [← left]⟩
  · obtain ⟨-, left, -⟩ := List.append_eq_replicate_iff.1 both.symm
    cases signs with
    | nil => exact ⟨0, Nat.zero_le _, by simp⟩
    | cons c signs =>
        have sign : c = '=' := List.eq_of_mem_replicate (left ▸ List.mem_cons_self)
        exact absurd sign (free c (by simp))

theorem decode_of_strewn {bytes : List UInt8} {kept noisy : List Char} {cut : Nat}
    (text : encode bytes = kept ++ List.replicate cut '=') (strewn : Strewn kept noisy) :
    decode (noisy.filter isAlphabetic) = .ok bytes := by
  rw [encode_eq_symbols] at text
  obtain ⟨left, fits, rfl⟩ := exists_pads (fun _ => ne_pad_of_mem_symbols) text
  rw [strewn.filter_eq, decode_symbols _ (whole_unpack bytes) left fits, pack_unpack]
  intro c member
  rw [isAlphabetic_iff]
  rcases List.mem_append.1 member with symbol | sign
  · exact .inl (isSymbol_of_mem_symbols symbol)
  · exact .inr (List.eq_of_mem_replicate sign)

end StatusIcon.Base64
