/-
# StatusIcon.Proofs.Fixer.Settling -- fixing twice is fixing once

An entry that has been fixed is fixed again, by a fixer that agrees with the first one: it has the
same configuration and reads images alike, and its provider gives the same answers (`Agrees`).  The
second run sees another icon than the first, so it may leave the chain elsewhere; but the entry
stays as it is, and after a silhouette the icon is found to be grey unless no difference is
tolerated at all (`fixOrKeep_settles`).
-/
import StatusIcon.Proofs.Fixer.Settings
import StatusIcon.Proofs.Fixer.Steps
import StatusIcon.Proofs.Silhouette.Projection

set_option autoImplicit false

namespace StatusIcon.IconFixer

/-- Two fixers have one configuration and one library, and their providers give the same answers. -/
structure Agrees (f g : IconFixer) : Prop where
  settings : g.exportConfig = f.exportConfig
  library : g.library = f.library
  answers : ∀ query, (g.provider query).value = (f.provider query).value

variable {f g : IconFixer}

/-- Agreeing fixers differ in their providers only. -/
theorem Agrees.eq (agree : f.Agrees g) : g = { f with provider := g.provider } :=
  eq_of_exportConfig agree.library rfl agree.settings

theorem Agrees.value_lookupOverride (agree : f.Agrees g) (package : String) :
    (g.lookupOverride package).value = (f.lookupOverride package).value := by
  rw [agree.eq]
  simp only [lookupOverride, Logged.value_bind, agree.answers]

theorem Agrees.overrides_iff (agree : f.Agrees g) (package : String) (icon : Bitmap) :
    g.Overrides package icon ↔ f.Overrides package icon := by
  have use : g.useOverrides = f.useOverrides := congrArg FixerConfig.useOverrides agree.settings
  rw [Overrides, Overrides, use, agree.value_lookupOverride]

theorem Agrees.value_override (agree : f.Agrees g) (package : String) :
    (g.override package).value = (f.override package).value := by
  apply Option.ext
  intro icon
  rw [value_override_eq_some_iff, value_override_eq_some_iff, agree.overrides_iff]

theorem Agrees.redraw (agree : f.Agrees g) (entry : IconEntry) :
    g.redraw entry = f.redraw entry := by
  rw [agree.eq]
  rfl

theorem Agrees.value_fix (agree : f.Agrees g) (entry : IconEntry) :
    (g.fix entry).value = (f.fix entry).value := by
  simp only [fix, Logged.value_bind, agree.value_override, agree.redraw]

theorem Agrees.value_fixOrKeep (agree : f.Agrees g) (entry : IconEntry) :
    (g.fixOrKeep entry).value = (f.fixOrKeep entry).value := by
  simp only [fixOrKeep, Logged.value_bind, agree.value_fix, agree.library]

/-- A silhouette is found grey or, when no difference is tolerated, drawn as it is. -/
theorem value_redraw_of_isTwoTone (f : IconFixer) {entry : IconEntry} {b : Bitmap}
    (icon : entry.icon = some (.bitmap b)) (shape : b.IsTwoTone)
    (wanted : f.autoSilhouette = true)
    (fixed : (b.silhouette f.silhouette.thresholdRatio).value = .ok b) :
    (f.redraw entry).value = .ok (.unchanged .alreadyGrayscale) ∨
      (¬ 1 ≤ f.grayscale.tolerance ∧ (f.redraw entry).value = .ok (.silhouette b)) := by
  have chain := f.redraw_chain entry
  cases colour : b.isGrayscale f.grayscale with
  | true => exact .inl (chain.alreadyGrayscale b icon wanted colour)
  | false =>
      refine .inr ⟨fun tolerant => ?_, ?_⟩
      · rw [shape.isGrey.isGrayscale tolerant] at colour
        cases colour
      · rw [chain.silhouette b ⟨icon, wanted, colour⟩, fixed]
        rfl

/-- **Fixing settles.**  When an entry has been fixed, an agreeing fixer leaves it as it is.  A
silhouette is found grey then, if the rule tolerates any difference; overrides are used again, and
what was left unchanged is left so for the same reason. -/
theorem fixOrKeep_settles (agree : f.Agrees g) (entry : IconEntry) :
    let first := (f.fixOrKeep entry).value
    let second := (g.fixOrKeep first.2).value
    second.2 = first.2 ∧
      (∀ icon, first.1 = .silhouette icon → 1 ≤ f.grayscale.tolerance →
        second.1 = .unchanged .alreadyGrayscale) ∧
      (∀ icon, first.1 = .override icon → second.1 = .override icon) ∧
      ∀ reason, first.1 = .unchanged reason → second.1 = .unchanged reason := by
  dsimp only
  simp only [agree.value_fixOrKeep]
  rcases f.fixOrKeep_cases entry with
    ⟨icon, stored, first⟩ | ⟨reason, first⟩ | ⟨b, drawn, unused, draws, shown, first⟩
  · have again : f.Overrides (entry.setIcon icon).package icon := stored
    have second := f.value_fixOrKeep_of_icon (f.value_fix_of_overrides again) rfl
    rw [first, second]
    exact ⟨rfl, nofun, fun _ same => same, nofun⟩
  · rw [first, first]
    exact ⟨rfl, nofun, nofun, fun _ same => same⟩
  · obtain ⟨shape, fixed⟩ := Bitmap.silhouette_silhouette shown
    have posted : (entry.setIcon drawn).icon = some (.bitmap drawn) := rfl
    have fix : (f.fix (entry.setIcon drawn)).value = (f.redraw (entry.setIcon drawn)).value :=
      f.value_fix_of_not_overrides unused
    rw [first]
    -- the second run sees the silhouette, and finds it grey or draws it as it is
    rcases f.value_redraw_of_isTwoTone posted shape draws.wanted (fixed _) with
      grey | ⟨strict, same⟩
    · have second := f.value_fixOrKeep_of_unchanged (fix.trans grey)
      rw [second]
      exact ⟨rfl, fun _ _ _ => rfl, nofun, nofun⟩
    · have second := f.value_fixOrKeep_of_icon (fix.trans same) rfl
      rw [second]
      exact ⟨rfl, fun _ _ tolerant => absurd tolerant strict, nofun, nofun⟩

/-- A fixer that looks for no overrides. -/
def quiet : IconFixer := .new .plain { useOverrides := false } .empty

/-- The same one, but its provider notes what it is asked. -/
def chatty : IconFixer := .new .plain { useOverrides := false } fun query => do
  Logged.note .debug query.uri
  OverrideProvider.empty query

/-- An entry with a small red square. -/
def redEntry : IconEntry := ⟨"app", some (.bitmap (.filled 2 2 ⟨255, 0, 0, 255⟩))⟩

theorem draws_red : quiet.Draws redEntry (.filled 2 2 ⟨255, 0, 0, 255⟩) where
  icon := rfl
  wanted := rfl
  colourful := by
    rw [Bitmap.isGrayscale_eq_all]
    rfl

/-- The silhouette of the square is found grey, and the dot that overrides it is used twice. -/
theorem fixOrKeep_settles_red :
    quiet.Agrees chatty ∧
      (∃ drawn, (quiet.fixOrKeep redEntry).value = (.silhouette drawn, redEntry.setIcon drawn) ∧
        (chatty.fixOrKeep (redEntry.setIcon drawn)).value =
          (.unchanged .alreadyGrayscale, redEntry.setIcon drawn)) ∧
      dotted.Agrees dotted ∧
      (dotted.fixOrKeep redEntry).value = (.override dot, redEntry.setIcon dot) ∧
      (dotted.fixOrKeep (redEntry.setIcon dot)).value = (.override dot, redEntry.setIcon dot) := by
  have agree : quiet.Agrees chatty := ⟨rfl, rfl, fun _ => rfl⟩
  have agree' : dotted.Agrees dotted := ⟨rfl, rfl, fun _ => rfl⟩
  have unused : ¬ ∃ icon, quiet.Overrides redEntry.package icon := by
    rintro ⟨icon, on, -⟩
    cases on
  have located : EdgeSamples.locate 2 2 = .ok ⟨3, 1, 2, 1⟩ := rfl
  have drawn := (quiet.redraw_chain redEntry).silhouette _ draws_red
  have fix := (quiet.value_fix_of_not_overrides unused).trans drawn
  rw [Bitmap.value_silhouette] at fix
  have first := quiet.value_fixOrKeep_of_icon fix rfl
  obtain ⟨entry, settled, -, -⟩ := fixOrKeep_settles agree redEntry
  rw [first] at entry settled
  have used : (dotted.fix redEntry).value = .ok (.override dot) :=
    dotted.value_fix_of_overrides overrides_dotted
  have replaced := dotted.value_fixOrKeep_of_icon used rfl
  obtain ⟨entry', -, settled', -⟩ := fixOrKeep_settles agree' redEntry
  rw [replaced] at entry' settled'
  exact ⟨agree, ⟨_, first, Prod.ext (settled _ rfl (by decide)) entry⟩, agree', replaced,
    Prod.ext (settled' dot rfl) entry'⟩

end StatusIcon.IconFixer
