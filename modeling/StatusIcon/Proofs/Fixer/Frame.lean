/-
# StatusIcon.Proofs.Fixer.Frame -- fixing changes what it reports and nothing else

Of an entry only the icon can change, and only to the icon of the outcome that is reported
(`IconEntry.taking`): a fixer that leaves the icon alone, for whatever reason, leaves the entry as
it was, and so does one that fails (`fixOrKeep_reports`).  An entry that many fixers have worked on
is therefore what their outcomes alone make of the first one (`fixAll_snd`), which is the last
outcome that changed anything (`foldl_taking_of_lastChange`).
-/
import StatusIcon.Proofs.Fixer.Fallback

set_option autoImplicit false

namespace StatusIcon

/-! ## Outcomes one after the other -/

/-- The entry with the icon of an outcome that has one, and else the same. -/
def IconEntry.taking (entry : IconEntry) (outcome : FixOutcome) : IconEntry :=
  match outcome.icon? with
  | some icon => entry.setIcon icon
  | none => entry

namespace FixOutcome

/-- The last of these outcomes that changed an icon changed it to this one. -/
def LastChange (outcomes : List FixOutcome) (icon : Bitmap) : Prop :=
  ∃ earlier outcome later, outcomes = earlier ++ outcome :: later ∧ outcome.icon? = some icon ∧
    ∀ other ∈ later, other.isChanged = false

theorem isChanged_eq_false_iff {outcome : FixOutcome} :
    outcome.isChanged = false ↔ outcome.icon? = none := by
  rw [isChanged, Option.isSome_eq_false_iff, Option.isNone_iff_eq_none]

/-- No outcome changed anything, or there is one that did so last. -/
theorem unchanged_or_lastChange (outcomes : List FixOutcome) :
    (∀ outcome ∈ outcomes, outcome.isChanged = false) ∨ ∃ icon, LastChange outcomes icon := by
  rcases forall_not_or_exists_last (fun o : FixOutcome => o.isChanged = true) outcomes with
    unchanged | ⟨earlier, last, later, rfl, changed, unchanged⟩
  · exact .inl fun other member => Bool.eq_false_iff.mpr (unchanged other member)
  · obtain ⟨icon, changed⟩ := Option.isSome_iff_exists.mp changed
    exact .inr ⟨icon, earlier, last, later, rfl, changed,
      fun other member => Bool.eq_false_iff.mpr (unchanged other member)⟩

end FixOutcome

namespace IconEntry

variable (entry : IconEntry)

theorem package_taking (outcome : FixOutcome) : (entry.taking outcome).package = entry.package := by
  unfold taking
  split
  · rfl
  · rfl

theorem icon_taking_of_icon {outcome : FixOutcome} {icon : Bitmap}
    (changed : outcome.icon? = some icon) : (entry.taking outcome).icon = some (.bitmap icon) := by
  rw [taking, changed]
  rfl

theorem taking_of_unchanged {outcome : FixOutcome} (unchanged : outcome.isChanged = false) :
    entry.taking outcome = entry := by
  rw [taking, FixOutcome.isChanged_eq_false_iff.mp unchanged]

theorem package_foldl_taking (outcomes : List FixOutcome) :
    (outcomes.foldl taking entry).package = entry.package := by
  induction outcomes generalizing entry with
  | nil => rfl
  | cons outcome outcomes ih => rw [List.foldl_cons, ih, package_taking]

theorem foldl_taking_of_unchanged {outcomes : List FixOutcome}
    (unchanged : ∀ outcome ∈ outcomes, outcome.isChanged = false) :
    outcomes.foldl taking entry = entry := by
  induction outcomes with
  | nil => rfl
  | cons outcome outcomes ih =>
      have ⟨here, later⟩ := List.forall_mem_cons.mp unchanged
      rw [List.foldl_cons, entry.taking_of_unchanged here, ih later]

theorem foldl_taking_of_lastChange {outcomes : List FixOutcome} {icon : Bitmap}
    (last : FixOutcome.LastChange outcomes icon) :
    (outcomes.foldl taking entry).icon = some (.bitmap icon) := by
  obtain ⟨earlier, outcome, later, rfl, changed, unchanged⟩ := last
  rw [List.foldl_append, List.foldl_cons, foldl_taking_of_unchanged _ unchanged]
  exact icon_taking_of_icon _ changed

end IconEntry

namespace IconFixer

/-! ## One fixer -/

variable (f : IconFixer)

theorem value_fix_ne_failed (entry : IconEntry) :
    (f.fix entry).value ≠ .ok (.unchanged .failed) := by
  by_cases used : ∃ icon, f.Overrides entry.package icon
  · obtain ⟨icon, stored⟩ := used
    rw [f.value_fix_of_overrides stored]
    nofun
  · rw [f.value_fix_of_not_overrides used]
    exact f.value_redraw_ne_failed entry

/-- What is reported of an entry, and what it is left as, for each thing that a fixer can decide to
do with it. -/
structure Reports (decided : Except IconError FixOutcome) (before : IconEntry)
    (outcome : FixOutcome) (after : IconEntry) : Prop where
  package : after.package = before.package
  reported : ∀ o, decided = .ok o → outcome = o
  replaced : ∀ icon, decided = .ok (.override icon) ∨ decided = .ok (.silhouette icon) →
    after.icon = some (.bitmap icon)
  kept : ∀ reason, decided = .ok (.unchanged reason) → after = before
  failed : ∀ e, decided = .error e → outcome = .unchanged .failed ∧ after = before
  of_failed : outcome = .unchanged .failed → ∃ e, decided = .error e

theorem value_fixOrKeep_of_ok {entry : IconEntry} {outcome : FixOutcome}
    (fixed : (f.fix entry).value = .ok outcome) :
    (f.fixOrKeep entry).value = (outcome, entry.taking outcome) := by
  cases changed : outcome.icon? with
  | some icon => rw [f.value_fixOrKeep_of_icon fixed changed, IconEntry.taking, changed]
  | none =>
      cases outcome with
      | override icon => cases changed
      | silhouette icon => cases changed
      | unchanged reason => exact f.value_fixOrKeep_of_unchanged fixed

theorem fixOrKeep_reports (entry : IconEntry) :
    Reports (f.fix entry).value entry (f.fixOrKeep entry).value.1 (f.fixOrKeep entry).value.2 := by
  have intended := f.value_fix_ne_failed entry
  rcases fixed : (f.fix entry).value with e | outcome
  · rw [f.value_fixOrKeep_of_error fixed]
    exact ⟨rfl, nofun, nofun, nofun, fun _ _ => ⟨rfl, rfl⟩, fun _ => ⟨e, rfl⟩⟩
  · rw [f.value_fixOrKeep_of_ok fixed]
    refine ⟨entry.package_taking outcome, fun _ same => Except.ok.inj same, ?_, ?_, nofun, ?_⟩
    · rintro icon (same | same)
      · exact entry.icon_taking_of_icon (congrArg FixOutcome.icon? (Except.ok.inj same))
      · exact entry.icon_taking_of_icon (congrArg FixOutcome.icon? (Except.ok.inj same))
    · intro reason same
      obtain rfl := Except.ok.inj same
      rfl
    · intro failed
      rw [fixed] at intended
      exact absurd (congrArg Except.ok failed) intended

theorem value_fixOrKeep_snd (entry : IconEntry) :
    (f.fixOrKeep entry).value.2 = entry.taking (f.fixOrKeep entry).value.1 := by
  cases fixed : (f.fix entry).value with
  | error e => rw [f.value_fixOrKeep_of_error fixed]; rfl
  | ok outcome => rw [f.value_fixOrKeep_of_ok fixed]

/-! ## Many fixers -/

/-- What fixers make of an entry one after the other: their outcomes, first one first, and the entry
that the last one leaves. -/
def fixAll : List IconFixer → IconEntry → List FixOutcome × IconEntry
  | [], entry => ([], entry)
  | f :: fixers, entry =>
    let (outcome, next) := (f.fixOrKeep entry).value
    let (outcomes, last) := fixAll fixers next
    (outcome :: outcomes, last)

theorem length_fixAll (fixers : List IconFixer) (entry : IconEntry) :
    (fixAll fixers entry).1.length = fixers.length := by
  induction fixers generalizing entry with
  | nil => rfl
  | cons f fixers ih => simp only [fixAll, List.length_cons, ih]

/-- The entry in the end is what the outcomes say, whoever they come from. -/
theorem fixAll_snd (fixers : List IconFixer) (entry : IconEntry) :
    (fixAll fixers entry).2 = (fixAll fixers entry).1.foldl IconEntry.taking entry := by
  induction fixers generalizing entry with
  | nil => rfl
  | cons f fixers ih =>
      simp only [fixAll, List.foldl_cons]
      rw [ih, f.value_fixOrKeep_snd]

/-- **Fixing changes what it reports and nothing else.**  A fixer reports what it decided and leaves
the entry so; when it fails it says that, which it does in no other case, and leaves the entry as it
was.  After any number of fixers the entry has the icon of the last outcome that changed one, and if
none did it is the entry as it was posted. -/
theorem fixAll_frame (fixers : List IconFixer) (posted : IconEntry) :
    (∀ (f : IconFixer) (entry : IconEntry), Reports (f.fix entry).value entry
        (f.fixOrKeep entry).value.1 (f.fixOrKeep entry).value.2) ∧
      let outcomes := (fixAll fixers posted).1
      let last := (fixAll fixers posted).2
      outcomes.length = fixers.length ∧ last.package = posted.package ∧
        ((∀ outcome ∈ outcomes, outcome.isChanged = false) → last = posted) ∧
        (∀ icon, FixOutcome.LastChange outcomes icon → last.icon = some (.bitmap icon)) ∧
        ((∀ outcome ∈ outcomes, outcome.isChanged = false) ∨
          ∃ icon, FixOutcome.LastChange outcomes icon) := by
  refine ⟨fixOrKeep_reports, length_fixAll fixers posted, ?_⟩
  rw [fixAll_snd]
  exact ⟨posted.package_foldl_taking _, posted.foldl_taking_of_unchanged,
    fun _ => posted.foldl_taking_of_lastChange, FixOutcome.unchanged_or_lastChange _⟩

/-- A fixer that leaves every bitmap alone. -/
def idle : IconFixer := .new .plain { useOverrides := false, autoSilhouette := false } .empty

/-- An entry with a small red square. -/
def square : IconEntry := ⟨"app", some (.bitmap (.filled 2 2 ⟨255, 0, 0, 255⟩))⟩

theorem not_overrides_down (entry : IconEntry) : ¬ ∃ icon, down.Overrides entry.package icon := by
  rintro ⟨icon, -, stored⟩
  cases stored

theorem draws_square : down.Draws square (.filled 2 2 ⟨255, 0, 0, 255⟩) where
  icon := rfl
  wanted := rfl
  colourful := by
    rw [Bitmap.isGrayscale_eq_all]
    rfl

/-- The square is drawn, then replaced by the dot and then left alone; the sliver is too small to be
drawn. -/
theorem fixAll_frame_square :
    (∃ drawn, (fixAll [down, dotted, idle] square).1 =
          [.silhouette drawn, .override dot, .unchanged .disabled] ∧
        (fixAll [down, dotted, idle] square).2.icon = some (.bitmap dot)) ∧
      (down.fixOrKeep sliver).value = (.unchanged .failed, sliver) := by
  obtain ⟨reports, -, -, -, changed, -⟩ := fixAll_frame [down, dotted, idle] square
  constructor
  · obtain ⟨drawn, shown⟩ := Bitmap.exists_value_silhouette
      (b := .filled 2 2 ⟨255, 0, 0, 255⟩) (.inl ⟨Nat.le_refl 2, Nat.le_refl 2⟩)
      down.silhouette.thresholdRatio
    have fix := down.value_fix_of_draws (not_overrides_down square) draws_square shown
    have first := down.value_fixOrKeep_of_ok fix
    have used : (dotted.fix (square.taking (.silhouette drawn))).value = .ok (.override dot) :=
      dotted.value_fix_of_overrides overrides_dotted
    have second := dotted.value_fixOrKeep_of_ok used
    have outcomes : (fixAll [down, dotted, idle] square).1 =
        [.silhouette drawn, .override dot, .unchanged .disabled] := by
      simp only [fixAll, first, second]
      rfl
    refine ⟨drawn, outcomes, changed dot ?_⟩
    rw [outcomes]
    exact ⟨[.silhouette drawn], _, [.unchanged .disabled], rfl, rfl, by decide⟩
  · have flat := (EdgeSamples.not_fits_iff 1 2).mpr (.inr (.inr ⟨rfl, rfl⟩))
    obtain ⟨e, small⟩ := (Bitmap.value_silhouette_error_iff (.filled 1 2 ⟨255, 0, 0, 255⟩)
      down.silhouette.thresholdRatio).mpr flat
    have fix : (down.fix sliver).value = .error e := by
      rw [down.value_fix_of_not_overrides (not_overrides_down sliver),
        (down.redraw_chain sliver).silhouette _ draws_sliver, small]
      rfl
    obtain ⟨outcome, kept⟩ := (reports down sliver).failed e fix
    exact Prod.ext outcome kept

end IconFixer

end StatusIcon
