/-
# StatusIcon.Proofs.Fixer.Steps -- what each step of a fixer decides

The steps of a fixer note lines on the way.  Here is what they decide, without the lines: when an
override is used (`value_override_eq_some_iff`), what becomes of an entry that has none
(`redraw_chain`, and `redraw_cases` for the way back), and what an entry is left as
(`fixOrKeep_cases`).
-/
import Mathlib.Tactic.Common
import StatusIcon.Fixer.Basic

set_option autoImplicit false

namespace StatusIcon.IconFixer

variable (f : IconFixer)

/-! ## Overrides -/

/-- The icon is stored for the package, and overrides are in use. -/
def Overrides (package : String) (icon : Bitmap) : Prop :=
  f.useOverrides = true ∧ (f.lookupOverride package).value = .ok (some icon)

theorem value_override_eq_some_iff (package : String) (icon : Bitmap) :
    (f.override package).value = some icon ↔ f.Overrides package icon := by
  unfold override Overrides
  cases f.useOverrides with
  | false => simp
  | true =>
      rcases answer : (f.lookupOverride package).value with e | _ | stored
      · simp [answer]
      · simp [answer]
      · simp [answer]

theorem value_override_eq_none {package : String} (unused : ¬ ∃ icon, f.Overrides package icon) :
    (f.override package).value = none := by
  rw [Option.eq_none_iff_forall_ne_some]
  intro icon used
  exact unused ⟨icon, (f.value_override_eq_some_iff package icon).mp used⟩

theorem value_fix_of_overrides {entry : IconEntry} {icon : Bitmap}
    (used : f.Overrides entry.package icon) : (f.fix entry).value = .ok (.override icon) := by
  have found := (f.value_override_eq_some_iff entry.package icon).mpr used
  simp only [fix, Logged.value_bind, found, Logged.value_pure]

theorem value_fix_of_not_overrides {entry : IconEntry}
    (unused : ¬ ∃ icon, f.Overrides entry.package icon) :
    (f.fix entry).value = (f.redraw entry).value := by
  simp only [fix, Logged.value_bind, f.value_override_eq_none unused]

/-! ## Entries without an override -/

/-- The icon is a bitmap of which a silhouette is wanted. -/
structure Draws (entry : IconEntry) (b : Bitmap) : Prop where
  icon : entry.icon = some (.bitmap b)
  wanted : f.autoSilhouette = true
  colourful : b.isGrayscale f.grayscale = false

/-- What becomes of an entry without an override, exit by exit. -/
structure Chain (entry : IconEntry) (result : Except IconError FixOutcome) : Prop where
  noDrawable : entry.icon = none → result = .ok (.unchanged .noDrawable)
  notBitmap : ∀ kind, entry.icon = some (.drawable kind) → result = .ok (.unchanged .notBitmap)
  disabled : ∀ b, entry.icon = some (.bitmap b) → f.autoSilhouette = false →
    result = .ok (.unchanged .disabled)
  alreadyGrayscale : ∀ b, entry.icon = some (.bitmap b) → f.autoSilhouette = true →
    b.isGrayscale f.grayscale = true → result = .ok (.unchanged .alreadyGrayscale)
  silhouette : ∀ b, f.Draws entry b →
    result = (b.silhouette f.silhouette.thresholdRatio).value.map .silhouette

theorem redraw_chain (entry : IconEntry) : f.Chain entry (f.redraw entry).value where
  noDrawable none := by simp only [redraw, none, Logged.value_pure]
  notBitmap kind drawable := by simp only [redraw, drawable, Logged.value_pure]
  disabled b icon off := by simp [redraw, icon, off]
  alreadyGrayscale b icon on grey := by simp [redraw, icon, on, grey]
  silhouette b draws := by
    simp only [redraw, draws.icon, draws.wanted, draws.colourful, Bool.not_true, Bool.false_eq_true,
      reduceIte, Logged.value_bind]
    cases (b.silhouette f.silhouette.thresholdRatio).value with
    | error e => rfl
    | ok drawn => rfl

theorem value_fix_of_draws {entry : IconEntry} {b drawn : Bitmap}
    (unused : ¬ ∃ icon, f.Overrides entry.package icon) (draws : f.Draws entry b)
    (shown : (b.silhouette f.silhouette.thresholdRatio).value = .ok drawn) :
    (f.fix entry).value = .ok (.silhouette drawn) := by
  rw [f.value_fix_of_not_overrides unused, (f.redraw_chain entry).silhouette b draws, shown]
  rfl

/-- An entry without an override is left alone, but not for a failure, or its silhouette is
drawn. -/
theorem redraw_cases (entry : IconEntry) :
    (∃ reason, reason ≠ .failed ∧ (f.redraw entry).value = .ok (.unchanged reason)) ∨
      ∃ b, f.Draws entry b ∧
        (f.redraw entry).value =
          (b.silhouette f.silhouette.thresholdRatio).value.map .silhouette := by
  have chain := f.redraw_chain entry
  rcases icon : entry.icon with _ | b | kind
  · exact .inl ⟨_, by decide, chain.noDrawable icon⟩
  · cases wanted : f.autoSilhouette with
    | false => exact .inl ⟨_, by decide, chain.disabled b icon wanted⟩
    | true =>
        cases colour : b.isGrayscale f.grayscale with
        | true => exact .inl ⟨_, by decide, chain.alreadyGrayscale b icon wanted colour⟩
        | false =>
            have draws : f.Draws entry b := ⟨icon, wanted, colour⟩
            exact .inr ⟨b, draws, chain.silhouette b draws⟩
  · exact .inl ⟨_, by decide, chain.notBitmap kind icon⟩

/-! ## Entries afterwards -/

theorem value_fixOrKeep_of_icon {entry : IconEntry} {outcome : FixOutcome} {icon : Bitmap}
    (fixed : (f.fix entry).value = .ok outcome) (changed : outcome.icon? = some icon) :
    (f.fixOrKeep entry).value = (outcome, entry.setIcon icon) := by
  simp only [fixOrKeep, Logged.value_bind, fixed, changed, Logged.value_pure]

theorem value_fixOrKeep_of_unchanged {entry : IconEntry} {reason : Unchanged}
    (fixed : (f.fix entry).value = .ok (.unchanged reason)) :
    (f.fixOrKeep entry).value = (.unchanged reason, entry) := by
  simp only [fixOrKeep, Logged.value_bind, fixed, FixOutcome.icon?, Logged.value_pure]

theorem value_fixOrKeep_of_error {entry : IconEntry} {e : IconError}
    (failed : (f.fix entry).value = .error e) :
    (f.fixOrKeep entry).value = (.unchanged .failed, entry) := by
  simp only [fixOrKeep, Logged.value_bind, failed, Logged.value_pure]

/-- An entry takes on the override, stays as it is, or takes on its silhouette. -/
theorem fixOrKeep_cases (entry : IconEntry) :
    (∃ icon, f.Overrides entry.package icon ∧
      (f.fixOrKeep entry).value = (.override icon, entry.setIcon icon)) ∨
    (∃ reason, (f.fixOrKeep entry).value = (.unchanged reason, entry)) ∨
    ∃ b drawn, (¬ ∃ icon, f.Overrides entry.package icon) ∧ f.Draws entry b ∧
      (b.silhouette f.silhouette.thresholdRatio).value = .ok drawn ∧
      (f.fixOrKeep entry).value = (.silhouette drawn, entry.setIcon drawn) := by
  by_cases used : ∃ icon, f.Overrides entry.package icon
  · obtain ⟨icon, stored⟩ := used
    exact .inl ⟨icon, stored, f.value_fixOrKeep_of_icon (f.value_fix_of_overrides stored) rfl⟩
  · have fix := f.value_fix_of_not_overrides used
    refine .inr ?_
    rcases f.redraw_cases entry with ⟨reason, -, kept⟩ | ⟨b, draws, shown⟩
    · exact .inl ⟨reason, f.value_fixOrKeep_of_unchanged (fix.trans kept)⟩
    · cases shape : (b.silhouette f.silhouette.thresholdRatio).value with
      | error e =>
          rw [shape] at shown
          exact .inl ⟨.failed, f.value_fixOrKeep_of_error (fix.trans shown)⟩
      | ok drawn =>
          rw [shape] at shown
          have taken := f.value_fixOrKeep_of_icon (fix.trans shown) rfl
          exact .inr ⟨b, drawn, used, draws, shape, taken⟩

/-! ## A fixer with an override -/

/-- A grey dot, and its text as a graymap. -/
def dot : Bitmap := .filled 1 1 ⟨200, 200, 200, 255⟩

def dotText : String := "UDUgMSAxIDI1NQrI"

/-- A fixer whose store has the dot for one package. -/
def dotted : IconFixer := .new .plain {} (.ofRecords .default [⟨"app", dotText⟩])

theorem overrides_dotted : dotted.Overrides "app" dot := ⟨rfl, by decide +kernel⟩

end StatusIcon.IconFixer
