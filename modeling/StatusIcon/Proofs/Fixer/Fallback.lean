/-
# StatusIcon.Proofs.Fixer.Fallback -- what is tried, and what is left

An override in use is the end of it.  In every other case, a failed lookup included, a fixer does
what it would do with overrides off (`value_fix_withoutOverrides`): it leaves the icon alone for the
first reason that holds, or draws its silhouette.  Only drawing can fail, and only for a bitmap
whose edges cannot be sampled (`value_redraw_error_iff`).
-/
import StatusIcon.Proofs.Fixer.Steps
import StatusIcon.Proofs.Silhouette.Scan

set_option autoImplicit false

namespace StatusIcon.IconFixer

variable (f : IconFixer)

/-- The same fixer with overrides off. -/
def withoutOverrides : IconFixer :=
  { f with useOverrides := false }

theorem value_fix_withoutOverrides (entry : IconEntry) :
    (f.withoutOverrides.fix entry).value = (f.redraw entry).value := by
  have unused : ¬ ∃ icon, f.withoutOverrides.Overrides entry.package icon := by
    rintro ⟨icon, on, -⟩
    cases on
  exact f.withoutOverrides.value_fix_of_not_overrides unused

theorem value_redraw_error {entry : IconEntry} {e : IconError}
    (failed : (f.redraw entry).value = .error e) :
    ∃ b, f.Draws entry b ∧ (b.silhouette f.silhouette.thresholdRatio).value = .error e := by
  rcases f.redraw_cases entry with ⟨reason, -, kept⟩ | ⟨b, draws, drawn⟩
  · rw [kept] at failed
    cases failed
  · rw [drawn] at failed
    exact ⟨b, draws, map_eq_error_iff.mp failed⟩

theorem value_redraw_error_iff (entry : IconEntry) :
    (∃ e, (f.redraw entry).value = .error e) ↔
      ∃ b, f.Draws entry b ∧ ¬ EdgeSamples.Fits b.width b.height := by
  constructor
  · rintro ⟨e, failed⟩
    obtain ⟨b, draws, small⟩ := f.value_redraw_error failed
    exact ⟨b, draws, (b.value_silhouette_error_iff _).mp ⟨e, small⟩⟩
  · rintro ⟨b, draws, small⟩
    obtain ⟨e, failed⟩ := (b.value_silhouette_error_iff f.silhouette.thresholdRatio).mpr small
    rw [(f.redraw_chain entry).silhouette b draws, failed]
    exact ⟨e, rfl⟩

theorem value_redraw_ne_failed (entry : IconEntry) :
    (f.redraw entry).value ≠ .ok (.unchanged .failed) := by
  intro failed
  rcases f.redraw_cases entry with ⟨reason, other, kept⟩ | ⟨b, -, drawn⟩
  · rw [kept] at failed
    cases failed
    exact other rfl
  · rw [drawn] at failed
    obtain ⟨icon, -, impossible⟩ := map_eq_ok_iff.mp failed
    cases impossible

/-- **The fallback chain.**  An override in use is what becomes of the icon, and else the chain of a
fixer without overrides decides.  The only failure is a sample outside a bitmap of which a
silhouette is wanted: one without columns, of less than two rows, or of one column and two rows. -/
theorem value_fix_fallback (entry : IconEntry) :
    (∀ icon, f.Overrides entry.package icon → (f.fix entry).value = .ok (.override icon)) ∧
      ((¬ ∃ icon, f.Overrides entry.package icon) →
        (f.fix entry).value = (f.withoutOverrides.fix entry).value ∧
          f.Chain entry (f.fix entry).value) ∧
      (∀ e, (f.fix entry).value = .error e →
        ∃ edge offset b, entry.icon = some (.bitmap b) ∧
          e = .sampleOutOfBounds edge offset b.width b.height) ∧
      ((∃ e, (f.fix entry).value = .error e) ↔
        (¬ ∃ icon, f.Overrides entry.package icon) ∧
          ∃ b, f.Draws entry b ∧ (b.width = 0 ∨ b.height ≤ 1 ∨ (b.width = 1 ∧ b.height = 2))) ∧
      (f.fix entry).value ≠ .ok (.unchanged .failed) := by
  by_cases used : ∃ icon, f.Overrides entry.package icon
  · obtain ⟨icon, stored⟩ := used
    have fix := f.value_fix_of_overrides stored
    refine ⟨fun _ => f.value_fix_of_overrides, fun unused => absurd ⟨icon, stored⟩ unused, ?_⟩
    rw [fix]
    refine ⟨nofun, ⟨nofun, fun ⟨unused, _⟩ => absurd ⟨icon, stored⟩ unused⟩, nofun⟩
  · have fix := f.value_fix_of_not_overrides used
    refine ⟨fun icon stored => absurd ⟨icon, stored⟩ used, ?_⟩
    rw [fix, f.value_fix_withoutOverrides]
    refine ⟨fun _ => ⟨rfl, f.redraw_chain entry⟩, fun e failed => ?_, ?_,
      f.value_redraw_ne_failed entry⟩
    · obtain ⟨b, draws, small⟩ := f.value_redraw_error failed
      obtain ⟨edge, offset, outside⟩ := Bitmap.value_silhouette_error small
      exact ⟨edge, offset, b, draws.icon, outside⟩
    · rw [f.value_redraw_error_iff]
      simp only [EdgeSamples.not_fits_iff]
      exact ⟨fun small => ⟨used, small⟩, And.right⟩

/-- A fixer whose provider is down. -/
def down : IconFixer := .new .plain {} fun _ => pure (.error (.providerUnavailable "no such table"))

/-- An entry with two red pixels, one above the other. -/
def sliver : IconEntry := ⟨"app", some (.bitmap (.filled 1 2 ⟨255, 0, 0, 255⟩))⟩

theorem draws_sliver : down.Draws sliver (.filled 1 2 ⟨255, 0, 0, 255⟩) where
  icon := rfl
  wanted := rfl
  colourful := by
    rw [Bitmap.isGrayscale_eq_all]
    rfl

/-- An override is used although the bitmap is too small to be drawn, which is an error without
one. -/
theorem value_fix_fallback_sliver :
    dotted.Overrides sliver.package dot ∧
      (dotted.fix sliver).value = .ok (.override dot) ∧
      (¬ ∃ icon, down.Overrides sliver.package icon) ∧
      (down.fix sliver).value = (down.withoutOverrides.fix sliver).value ∧
      (down.fix sliver).value = .error (.sampleOutOfBounds .left 2 1 2) := by
  have unused : ¬ ∃ icon, down.Overrides sliver.package icon := by
    rintro ⟨icon, -, stored⟩
    cases stored
  have replaced := (dotted.value_fix_fallback sliver).1 dot overrides_dotted
  obtain ⟨same, chain⟩ := (down.value_fix_fallback sliver).2.1 unused
  refine ⟨overrides_dotted, replaced, unused, same, ?_⟩
  rw [chain.silhouette _ draws_sliver, Bitmap.value_silhouette]
  rfl

end StatusIcon.IconFixer
