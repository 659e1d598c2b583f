/-
# StatusIcon.Proofs.Fixer.Tolerance -- what more tolerance changes

One rule is *looser* than another when it has the same copies made and both its tolerances are at
least as high (`GrayscaleRule.LooserThan`).  A pixel that a rule accepts, for its alpha or for its
colour, a looser one accepts for the same reason (`acceptsPixel_mono`).  Both rules look at the same
bitmap, so what is grey stays grey (`isGrayscale_mono`).

A fixer asks its rule in one place only, where a silhouette is wanted of a bitmap.  With a looser
rule some of these bitmaps are spared (`Spares`), and these alone fare otherwise: they are left
alone where they were drawn or could not be drawn (`isGrayscale_loosens`).
-/
import StatusIcon.Proofs.Fixer.Settling
import StatusIcon.Proofs.Grayscale.Channels

set_option autoImplicit false

namespace StatusIcon

/-! ## Rules -/

namespace GrayscaleRule

/-- The first rule has the same copies made as the second, and tolerates at least as much. -/
structure LooserThan (s r : GrayscaleRule) : Prop where
  compactSize : s.compactSize = r.compactSize
  tolerance : r.tolerance ≤ s.tolerance
  alphaTolerance : r.alphaTolerance ≤ s.alphaTolerance

variable {r s : GrayscaleRule}

theorem acceptsPixel_mono (looser : s.LooserThan r) {p : Pixel}
    (accepted : r.acceptsPixel p = true) : s.acceptsPixel p = true := by
  rw [acceptsPixel_iff] at accepted ⊢
  rcases accepted with faint | near
  · left
    exact UInt8.lt_of_lt_of_le faint looser.alphaTolerance
  · right
    intro c d
    exact Nat.lt_of_lt_of_le (near c d) looser.tolerance

/-- Both rules look at the same bitmap. -/
theorem LooserThan.compact_eq (looser : s.LooserThan r) (b : Bitmap) :
    s.compact b = r.compact b := by
  unfold compact
  rw [looser.compactSize]

theorem isGrayscale_mono (looser : s.LooserThan r) {b : Bitmap} (grey : b.isGrayscale r = true) :
    b.isGrayscale s = true := by
  unfold Bitmap.isGrayscale at grey ⊢
  rw [looser.compact_eq, Array.all_eq_true']
  intro p member
  exact acceptsPixel_mono looser (Array.all_eq_true'.mp grey p member)

end GrayscaleRule

/-! ## Fixers -/

namespace IconFixer

variable {f g : IconFixer} {r s : GrayscaleRule} {entry : IconEntry}

/-- The same fixer with another rule. -/
def withRule (f : IconFixer) (s : GrayscaleRule) : IconFixer :=
  { f with grayscale := s }

/-- A silhouette is wanted of the icon, but by this rule it is grey. -/
def Spares (f : IconFixer) (s : GrayscaleRule) (entry : IconEntry) : Prop :=
  ∃ b, f.Draws entry b ∧ b.isGrayscale s = true

/-- Overrides are looked up without asking the rule. -/
theorem overrides_withRule {package : String} {icon : Bitmap} :
    (f.withRule s).Overrides package icon ↔ f.Overrides package icon := Iff.rfl

theorem value_redraw_of_spares (spared : f.Spares s entry) :
    ((f.withRule s).redraw entry).value = .ok (.unchanged .alreadyGrayscale) := by
  obtain ⟨b, draws, grey⟩ := spared
  exact ((f.withRule s).redraw_chain entry).alreadyGrayscale b draws.icon draws.wanted grey

/-- A wanted silhouette is drawn, or there is an error. -/
theorem Draws.value_redraw {b : Bitmap} (draws : f.Draws entry b) :
    (∃ drawn, (f.redraw entry).value = .ok (.silhouette drawn)) ∨
      ∃ e, (f.redraw entry).value = .error e := by
  rw [(f.redraw_chain entry).silhouette b draws]
  cases (b.silhouette f.silhouette.thresholdRatio).value with
  | ok drawn => exact .inl ⟨drawn, rfl⟩
  | error e => exact .inr ⟨e, rfl⟩

theorem Draws.value_redraw_ne {b : Bitmap} (draws : f.Draws entry b) (reason : Unchanged) :
    (f.redraw entry).value ≠ .ok (.unchanged reason) := by
  rcases draws.value_redraw with ⟨drawn, shown⟩ | ⟨e, failed⟩
  · rw [shown]
    nofun
  · rw [failed]
    nofun

theorem value_redraw_of_not_spares (looser : s.LooserThan f.grayscale)
    (same : ¬ f.Spares s entry) :
    ((f.withRule s).redraw entry).value = (f.redraw entry).value := by
  have before := f.redraw_chain entry
  have after := (f.withRule s).redraw_chain entry
  rcases icon : entry.icon with _ | b | kind
  · rw [before.noDrawable icon, after.noDrawable icon]
  · cases wanted : f.autoSilhouette with
    | false => rw [before.disabled b icon wanted, after.disabled b icon wanted]
    | true =>
        cases colour : b.isGrayscale f.grayscale with
        | true =>
            have grey : b.isGrayscale s = true := GrayscaleRule.isGrayscale_mono looser colour
            rw [before.alreadyGrayscale b icon wanted colour,
              after.alreadyGrayscale b icon wanted grey]
        | false =>
            have draws : f.Draws entry b := ⟨icon, wanted, colour⟩
            have colourful : b.isGrayscale s = false := by
              rw [← Bool.not_eq_true]
              exact fun grey => same ⟨b, draws, grey⟩
            rw [before.silhouette b draws, after.silhouette b ⟨icon, wanted, colourful⟩]
            rfl
  · rw [before.notBitmap kind icon, after.notBitmap kind icon]

/-- **More tolerance finds no icon colourful.**  What is grey by a rule is grey by every looser one.
So let a fixer take on a looser rule, and its provider answer as before.  Then what it decides for
an entry stays the same, or it leaves the icon alone as grey where there was a silhouette or an
error before.  That happens if there is no override to use and the bitmap of which a silhouette is
wanted is grey by the new rule, and in no other case. -/
theorem isGrayscale_loosens (looser : s.LooserThan r) :
    (∀ b : Bitmap, b.isGrayscale r = true → b.isGrayscale s = true) ∧
      ∀ f g : IconFixer, f.grayscale = r → (f.withRule s).Agrees g → ∀ entry,
        let before := (f.fix entry).value
        let after := (g.fix entry).value
        (after = before ∨
          ((∃ drawn, before = .ok (.silhouette drawn)) ∨ ∃ e, before = .error e) ∧
            after = .ok (.unchanged .alreadyGrayscale)) ∧
        (after ≠ before ↔
          (¬ ∃ icon, f.Overrides entry.package icon) ∧ f.Spares s entry) := by
  refine ⟨fun b => GrayscaleRule.isGrayscale_mono looser, ?_⟩
  intro f g rule agree entry before after
  subst rule
  have loosened : after = ((f.withRule s).fix entry).value := agree.value_fix entry
  by_cases used : ∃ icon, f.Overrides entry.package icon
  · obtain ⟨icon, stored⟩ := used
    have same : after = before := by
      rw [loosened, (f.withRule s).value_fix_of_overrides (overrides_withRule.mpr stored)]
      exact (f.value_fix_of_overrides stored).symm
    exact ⟨.inl same, iff_of_false (not_not_intro same) fun unused => unused.1 ⟨icon, stored⟩⟩
  have first : before = (f.redraw entry).value := f.value_fix_of_not_overrides used
  have second : after = ((f.withRule s).redraw entry).value := by
    rw [loosened]
    apply (f.withRule s).value_fix_of_not_overrides
    simpa only [overrides_withRule] using used
  by_cases spared : f.Spares s entry
  · have grey : after = .ok (.unchanged .alreadyGrayscale) := by
      rw [second, value_redraw_of_spares spared]
    have ⟨b, draws, _⟩ := spared
    have differs : after ≠ before := by
      rw [grey, first]
      exact (draws.value_redraw_ne .alreadyGrayscale).symm
    have drawn := draws.value_redraw
    rw [← first] at drawn
    exact ⟨.inr ⟨drawn, grey⟩, iff_of_true differs ⟨used, spared⟩⟩
  · have same : after = before := by
      rw [second, value_redraw_of_not_spares looser spared, first]
    exact ⟨.inl same, iff_of_false (not_not_intro same) fun other => spared other.2⟩

/-- A green that the default rule does not tolerate, and a rule that does. -/
def moss : Bitmap := .filled 2 2 ⟨100, 130, 100, 255⟩

def mossRule : GrayscaleRule := { tolerance := 31 }

def mossEntry : IconEntry := ⟨"app", some (.bitmap moss)⟩

theorem isGrayscale_loosens_moss :
    mossRule.LooserThan {} ∧ quiet.grayscale = {} ∧
      (quiet.withRule mossRule).Agrees (chatty.withRule mossRule) ∧
      (∃ drawn, (quiet.fix mossEntry).value = .ok (.silhouette drawn)) ∧
      ((chatty.withRule mossRule).fix mossEntry).value = .ok (.unchanged .alreadyGrayscale) := by
  have looser : mossRule.LooserThan {} := ⟨rfl, by decide, by decide⟩
  have agree : (quiet.withRule mossRule).Agrees (chatty.withRule mossRule) :=
    ⟨rfl, rfl, fun _ => rfl⟩
  have colour : moss.isGrayscale {} = false := by
    rw [Bitmap.isGrayscale_eq_all]
    rfl
  have grey : moss.isGrayscale mossRule = true := by
    rw [Bitmap.isGrayscale_eq_all]
    rfl
  have draws : quiet.Draws mossEntry moss := ⟨rfl, rfl, colour⟩
  have unused : ¬ ∃ icon, quiet.Overrides mossEntry.package icon := by
    rintro ⟨icon, on, -⟩
    cases on
  obtain ⟨drawn, shown⟩ := Bitmap.exists_value_silhouette (b := moss)
    (.inl ⟨by decide, by decide⟩) quiet.silhouette.thresholdRatio
  have before := quiet.value_fix_of_draws unused draws shown
  obtain ⟨change, differs⟩ :=
    (isGrayscale_loosens looser).2 quiet (chatty.withRule mossRule) rfl agree mossEntry
  have other := differs.mpr ⟨unused, moss, draws, grey⟩
  exact ⟨looser, rfl, agree, ⟨drawn, before⟩, (change.resolve_left other).2⟩

end IconFixer

end StatusIcon
