/-
# StatusIcon.Proofs.Fixer.Printing -- configurations written and read again

What is written for a configuration gives all of its leaves, in either style, so it is read as the
same configuration, but for the ratio: that is whatever its printed number is read as
(`partialText_toJson`).  Where the number comes back the configuration does (`ofJson_toJson`).

A ratio that is not finite has no number.  A text can still make one, since a double past the
singles becomes infinite, and then what is written has a `null` where only a number is read.  So a
configuration can be read again exactly when its ratio is finite (`ofJson_toJson_accepts`).
-/
import StatusIcon.Proofs.Fixer.Overlay
import StatusIcon.Proofs.Json.Printed

set_option autoImplicit false

namespace StatusIcon

open Json Json.Grammar

namespace FixerConfig

/-! ## All leaves -/

/-- All leaves of a configuration, with another ratio. -/
def leaves (c : FixerConfig) (ratio : Single) : Leaves where
  overrideUri := some c.overrideUri
  useOverrides := some c.useOverrides
  autoSilhouette := some c.autoSilhouette
  thresholdRatio := some ratio
  tolerance := some c.grayscale.tolerance
  alphaTolerance := some c.grayscale.alphaTolerance
  compactSize := some c.grayscale.compactSize

theorem overlay_leaves (c : FixerConfig) (ratio : Single) :
    (c.leaves ratio).overlay = { c with silhouette.thresholdRatio := ratio } := rfl

variable {style : Style} {c : FixerConfig} {text : String} {ratio : Single}

theorem byteText_value (style : Style) (depth : Nat) (b : UInt8) :
    ByteText (Printer.value style depth (.natural b.toNat)) b := by
  rw [Printer.value]
  exact naturalText_repr b.toNat_lt

theorem wordText_value (style : Style) (depth : Nat) (n : UInt32) :
    WordText (Printer.value style depth (.natural n.toNat)) n := by
  rw [Printer.value]
  exact naturalText_repr n.toNat_lt

theorem singleText_value (style : Style) (depth : Nat)
    (printed : Binary.text? .single c.silhouette.thresholdRatio = some text)
    (means : SingleText text.toList ratio) :
    SingleText (Printer.value style depth (.single c.silhouette.thresholdRatio)) ratio := by
  rw [Printer.value, printed]
  exact means

/-- The text gives every leaf; the ratio is what its number is read as. -/
theorem partialText_toJson (printed : Binary.text? .single c.silhouette.thresholdRatio = some text)
    (means : SingleText text.toList ratio) : PartialText (c.toJson style) (c.leaves ratio) := by
  refine ⟨_, objectOf_render style _, ?_⟩
  constructor
  · show Tells StringText [Printer.value style 1 (.string c.overrideUri)] _
    apply Tells.once
    rw [Printer.value]
    exact stringText_quoted c.overrideUri
  · show Tells BoolText [Printer.value style 1 (.bool c.useOverrides)] _
    apply Tells.once
    rw [Printer.value]
    rfl
  · show Tells BoolText [Printer.value style 1 (.bool c.autoSilhouette)] _
    apply Tells.once
    rw [Printer.value]
    rfl
  · apply Inside.object (objectText_value style 1 _)
    exact .once (singleText_value style 2 printed means)
  · apply Inside.object (objectText_value style 1 _)
    constructor
    · exact .once (byteText_value style 2 c.grayscale.tolerance)
    · exact .once (byteText_value style 2 c.grayscale.alphaTolerance)
    · exact .once (wordText_value style 2 c.grayscale.compactSize)

/-! ## Finite ratios -/

theorem exists_text?_iff {x : Single} :
    (∃ text, Binary.text? .single x = some text) ↔ x ≠ .nan ∧ x.isInfinite = false := by
  cases x with
  | nan => simp [Binary.text?]
  | signed negative code => simp [Binary.text?, Binary.isInfinite]

/-- Without a number in it the text is refused. -/
theorem not_ofJson_toJson (unprinted : Binary.text? .single c.silhouette.thresholdRatio = none)
    {d : FixerConfig} : ofJson (c.toJson style) ≠ .ok d := by
  intro read
  obtain ⟨w, around, object⟩ : ObjectOf (c.toJson style) _ := objectOf_render style _
  have means := (ofJson_eq_ok_iff around object.isValue).mp read
  obtain ⟨o, told, -⟩ := RecordText.tells configMembersRead sets_silhouette
    (exists_member (by simp [names])) means object
  obtain ⟨x, silhouette⟩ := told.of_mem (v := Printer.value style 1
      (.object [("thresholdRatio", .single c.silhouette.thresholdRatio)]))
    (List.mem_singleton.mpr rfl)
  obtain ⟨o', told', -⟩ := RecordText.tells silhouetteMembersRead sets_thresholdRatio
    (exists_silhouetteMember (by simp [silhouetteNames])) silhouette (objectText_value style 1 _)
  obtain ⟨y, n, number, -⟩ := told'.of_mem
    (v := Printer.value style 2 (.single c.silhouette.thresholdRatio)) (List.mem_singleton.mpr rfl)
  rw [Printer.value, unprinted] at number
  obtain ⟨u, parts, spells, ⟨null, -⟩ | ⟨null, -⟩⟩ := number
  · obtain ⟨e, s, rfl, digit⟩ := spells.head
    obtain rfl : 'n' = e := (List.cons.inj null).1
    cases digit
  · exact absurd (List.cons.inj null).1 (by decide)

/-- **A configuration is read again exactly if its ratio is finite.** -/
theorem ofJson_toJson_accepts (c : FixerConfig) (style : Style) :
    (∃ d, ofJson (c.toJson style) = .ok d) ↔
      c.silhouette.thresholdRatio ≠ .nan ∧ c.silhouette.thresholdRatio.isInfinite = false := by
  rw [← exists_text?_iff]
  constructor
  · rintro ⟨d, read⟩
    by_contra unprinted
    refine not_ofJson_toJson ?_ read
    rw [← Option.not_isSome_iff_eq_none, Option.isSome_iff_exists]
    exact unprinted
  · rintro ⟨text, printed⟩
    obtain ⟨ratio, means⟩ := exists_singleText printed
    exact ⟨_, ofJson_of_partialText (partialText_toJson printed means)⟩

/-! A number past the singles is read as infinite, and cannot be written. -/

theorem singleText_past : SingleText ['1', 'e', '3', '9'] (.infinite false) := by
  have whole : Whole ['1'] := .digits (by decide) (by decide)
  have power : ExponentText ['e', '3', '9'] (some (false, ['3', '9'])) :=
    .power (.inl rfl) .none (by decide)
  have read : (Numeral.read? false ⟨['1'], [], some (false, ['3', '9'])⟩).map Number.toSingle =
      some (.infinite false) := by
    decide +kernel
  obtain ⟨n, value, infinite⟩ := Option.map_eq_some_iff.mp read
  exact ⟨n, ⟨_, _, .parts whole .none power, .inl ⟨rfl, value⟩⟩, infinite.symm⟩

theorem ofJson_toJson_past :
    ofJson "\x7b\"silhouette\":\x7b\"thresholdRatio\":1e39\x7d\x7d" =
        .ok { silhouette := { thresholdRatio := .infinite false } } ∧
      ∀ style d,
        ofJson (toJson style { silhouette := { thresholdRatio := .infinite false } }) ≠ .ok d := by
  constructor
  · have inner : ObjectText _ [("thresholdRatio", ['1', 'e', '3', '9'])] :=
      objectText_single (body_escaped _) (reads_readSingle.value singleText_past)
    have object : ObjectText _ [("silhouette", _)] :=
      objectText_single (body_escaped _) inner.isValue
    refine ofJson_of_partialText (l := { thresholdRatio := some (.infinite false) }) ⟨_, ⟨_,
      ⟨[], [], blank_nil, blank_nil, ?_⟩, object⟩, ?_⟩
    · rfl
    · constructor
      · exact .nothing
      · exact .nothing
      · exact .nothing
      · exact .object inner (.once singleText_past)
      · exact .nothing ⟨.nothing, .nothing, .nothing⟩
  · intro style d
    exact not_ofJson_toJson rfl

/-- **Writing and reading gives the configuration back** where it gives back the ratio. -/
theorem ofJson_toJson (c : FixerConfig)
    (ratio : ∃ text, Binary.text? .single c.silhouette.thresholdRatio = some text ∧
      Json.parse Json.readSingle text = .ok c.silhouette.thresholdRatio) (style : Style) :
    ofJson (c.toJson style) = .ok c := by
  obtain ⟨text, printed, read⟩ := ratio
  have around : Around text text.toList := ⟨[], [], blank_nil, blank_nil, by simp⟩
  obtain ⟨y, means⟩ := exists_singleText printed
  have same := (reads_readSingle.parse_around_iff around (reads_readSingle.value means)).mp read
  rw [ofJson_of_partialText (partialText_toJson printed same), overlay_leaves]

theorem ofJson_toJson_clef :
    Binary.text? .single Ratio.default = some "0.8" ∧
    Json.parse Json.readSingle "0.8" = .ok Ratio.default ∧
    ofJson (toJson .compact { overrideUri := "\"\\\n𝄞", useOverrides := false }) =
      .ok { overrideUri := "\"\\\n𝄞", useOverrides := false } ∧
    ofJson (toJson .pretty { overrideUri := "\"\\\n𝄞", useOverrides := false }) =
      .ok { overrideUri := "\"\\\n𝄞", useOverrides := false } := by
  have printed : Binary.text? .single Ratio.default = some "0.8" := by decide +kernel
  have read : Json.parse Json.readSingle "0.8" = .ok Ratio.default := by decide +kernel
  exact ⟨printed, read, ofJson_toJson _ ⟨"0.8", printed, read⟩ .compact,
    ofJson_toJson _ ⟨"0.8", printed, read⟩ .pretty⟩

end FixerConfig

end StatusIcon
