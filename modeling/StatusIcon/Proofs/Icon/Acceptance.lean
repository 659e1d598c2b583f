/-
# StatusIcon.Proofs.Icon.Acceptance -- which texts are icons

Reading the text of an icon has two steps, and each has errors of its own.  The first one turns
characters into bytes and hangs on the form of the text alone (`Base64.Complete`); the second one
looks at the bytes, which are determined by their bits (`Base64.Packs`).  So a text of the wrong
form is refused before any image is looked at, and for a text of the right form there is only the
answer of the image reader (`ofText_complete`).
-/
import StatusIcon.Proofs.Base64.Bits
import StatusIcon.Proofs.Icon.RoundTrip

set_option autoImplicit false

namespace StatusIcon.Icon

open Base64 (Complete Packs isAlphabetic symbols)

/-- The characters of a text that are not skipped. -/
def kept (text : String) : List Char :=
  text.toList.filter fun c => c.isAlphanum || c == '+' || c == '/' || c == '='

theorem filter_isAlphabetic (text : String) : text.toList.filter isAlphabetic = kept text := by
  apply List.filter_congr
  intro c _
  rw [Bool.eq_iff_iff, Base64.isAlphabetic_iff, Base64.IsSymbol]
  simp only [Bool.or_eq_true, beq_iff_eq, or_assoc]

theorem ofText_eq_base64_iff {library : Image.Library} {text : String} {e : Base64.Error} :
    ofText library text = .error (.base64 e) ↔ Base64.decode (kept text) = .error e := by
  rw [← filter_isAlphabetic]
  cases decoded : Base64.decode (text.toList.filter isAlphabetic) with
  | ok bytes =>
      rw [ofText_of_decode library decoded]
      cases Image.read library bytes with
      | ok b => simp [Except.mapError]
      | error e => simp [Except.mapError]
  | error e => simp [ofText, decoded]

/-- The numbers behind a text of the right form, which is read as their bytes. -/
theorem exists_decode_of_complete {text : String} {body : List Char} {pads : Nat}
    (parts : kept text = body ++ List.replicate pads '=') (complete : Complete body pads) :
    ∃ bytes, Base64.decode (kept text) = .ok bytes ∧ ∀ other, Packs body other ↔ other = bytes := by
  have alphabetic : ∀ c ∈ body, isAlphabetic c = true := by
    intro c member
    have inside : c ∈ kept text := by
      rw [parts]
      exact List.mem_append_left _ member
    rw [← filter_isAlphabetic] at inside
    exact (List.mem_filter.mp inside).2
  obtain ⟨values, rfl, whole, fits⟩ := Base64.exists_values_of_complete alphabetic complete
  refine ⟨Base64.pack values, ?_, fun other => Base64.packs_symbols_iff whole⟩
  rw [parts]
  exact Base64.decode_symbols values whole pads fits

/-- **Which texts are icons.**  Of a text only letters, digits, `+`, `/` and `=` count.  If these
are not symbols and signs in the right numbers, with zeros where no byte has room for bits, the text
is refused as base64.  If they are, it is not: the symbols pack one list of bytes, and whether these
are an image, and which one, is all that is left to say. -/
theorem ofText_complete (library : Image.Library) (text : String) :
    ((∃ e, ofText library text = .error (.base64 e)) ↔
        ¬ ∃ body pads, kept text = body ++ List.replicate pads '=' ∧ Complete body pads) ∧
      ∀ body pads, kept text = body ++ List.replicate pads '=' → Complete body pads →
        (∃ bytes, Packs body bytes) ∧
          ∀ bytes, Packs body bytes →
            ofText library text = (Image.read library bytes).mapError .image := by
  refine ⟨?_, fun body pads parts complete => ?_⟩
  · simp only [ofText_eq_base64_iff]
    constructor
    · rintro ⟨e, refused⟩ ⟨body, pads, parts, complete⟩
      obtain ⟨bytes, decoded, -⟩ := exists_decode_of_complete parts complete
      rw [decoded] at refused
      cases refused
    · intro incomplete
      cases decoded : Base64.decode (kept text) with
      | error e => exact ⟨e, rfl⟩
      | ok bytes =>
          obtain ⟨values, pads, spells, -⟩ := Base64.decode_eq_ok_iff.mp decoded
          refine absurd ⟨symbols values, pads, spells.text, ?_⟩ incomplete
          exact (Base64.complete_symbols_iff values pads).mpr ⟨spells.whole, spells.fits⟩
  · obtain ⟨bytes, decoded, packs⟩ := exists_decode_of_complete parts complete
    refine ⟨⟨bytes, (packs bytes).mpr rfl⟩, fun other packed => ?_⟩
    obtain rfl := (packs other).mp packed
    apply ofText_of_decode
    rw [filter_isAlphabetic, decoded]

/-- A graymap of two pixels as a text with a line break, and with one of its two signs. -/
def torn : String := "UDUgMiAx\nIDI1NQoHyA="

def tornBody : List Char :=
  ['U', 'D', 'U', 'g', 'M', 'i', 'A', 'x', 'I', 'D', 'I', '1', 'N', 'Q', 'o', 'H', 'y', 'A']

/-- `P5 2 1 255`, a line break and two greys. -/
def tornBytes : List UInt8 := [80, 53, 32, 50, 32, 49, 32, 50, 53, 53, 10, 7, 200]

theorem complete_torn : Complete tornBody 1 where
  noSign := by decide
  length := by decide
  padsNone := by decide
  padsTwo := by decide
  padsThree := by decide
  lastTwo := by
    intro _ c last
    obtain rfl : 'A' = c := Option.some.inj last
    rfl
  lastThree three := by cases three

theorem packs_torn : Packs tornBody tornBytes where
  length := by decide +kernel
  bits := by decide +kernel

theorem ofText_complete_torn :
    kept torn = tornBody ++ List.replicate 1 '=' ∧ Complete tornBody 1 ∧
      Packs tornBody tornBytes ∧
      ofText .plain torn = .ok ⟨2, 1, #[⟨7, 7, 7, 255⟩, ⟨200, 200, 200, 255⟩], rfl⟩ := by
  have parts : kept torn = tornBody ++ List.replicate 1 '=' := by decide +kernel
  have decoded := (ofText_complete .plain torn).2 tornBody 1 parts complete_torn
  have read := decoded.2 tornBytes packs_torn
  refine ⟨parts, complete_torn, packs_torn, read.trans ?_⟩
  decide +kernel

end StatusIcon.Icon
