/-
# StatusIcon.Proofs.Fixer.Notes -- what a fixer says of its work

The lines that are not for finding faults are the *loud* ones.  A fixer has at most two of them for
an entry.  The first warns of a lookup that failed; the second says that the icon was replaced, or
that it was kept because of an error (`loud_fixOrKeep`).  Of an icon that is left alone for a reason
there is nothing to say.  The provider is asked on the way, so this is so of a fixer whose provider
has nothing loud to say itself (`OverrideProvider.Quiet`), and the stores of the library have not.

From these two lines it can be told, level by level, what happened to the entry (`fixOrKeep_tells`).
-/
import StatusIcon.Override.FileStore
import StatusIcon.Override.MemoryStore
import StatusIcon.Proofs.Fixer.Frame

set_option autoImplicit false

namespace StatusIcon

/-! ## Loud lines -/

namespace Logged

variable {α β : Type}

/-- The loud lines, first one first. -/
def loud (a : Logged α) : List LogLine := a.lines.filter fun line => line.level.isLoud

/-- The lines of one level, first one first. -/
def linesAt (level : Level) (a : Logged α) : List LogLine :=
  a.lines.filter fun line => line.level = level

@[simp] theorem loud_pure (a : α) : (pure a : Logged α).loud = [] := rfl

@[simp] theorem loud_bind (a : Logged α) (f : α → Logged β) :
    (a >>= f).loud = a.loud ++ (f a.value).loud := by
  simp only [loud, lines_bind, List.filter_append]

/-- The lines of a loud level are all among the loud ones. -/
theorem linesAt_of_isLoud {level : Level} (loud : level.isLoud = true) (a : Logged α) :
    a.linesAt level = a.loud.filter fun line => line.level = level := by
  rw [Logged.loud, List.filter_filter]
  apply List.filter_congr
  intro line _
  by_cases same : line.level = level
  · simp [same, loud]
  · simp [same]

end Logged

/-! ## Providers -/

namespace OverrideProvider

/-- Whatever is asked, nothing loud is said. -/
def Quiet (provider : OverrideProvider) : Prop :=
  ∀ query, ∀ line ∈ (provider query).lines, line.level.isLoud = false

theorem quiet_iff {provider : OverrideProvider} :
    provider.Quiet ↔ ∀ query, (provider query).loud = [] := by
  simp only [Quiet, Logged.loud, List.filter_eq_nil_iff, Bool.not_eq_true]

theorem quiet_ofRecords (served : ContentUri) (records : List OverrideRecord) :
    (ofRecords served records).Quiet := by
  rw [quiet_iff]
  intro query
  unfold ofRecords
  split
  · rfl
  split
  · split
    · rfl
    · rfl
  · rfl

end OverrideProvider

theorem MemoryStore.quiet_provider (s : MemoryStore) : s.provider.Quiet :=
  OverrideProvider.quiet_ofRecords s.uri s.records

theorem FileStore.quiet_provider (s : FileStore) : s.provider.Quiet := by
  intro query
  unfold provider
  split
  · next records _ => exact OverrideProvider.quiet_ofRecords .default records query
  · -- a file that cannot be read is told in the answer only
    exact List.forall_mem_nil _

namespace IconFixer

variable (f : IconFixer)

/-! ## Lookups -/

/-- Overrides are in use, and the lookup for the package ends in this error. -/
def LookupFails (package : String) (e : IconError) : Prop :=
  f.useOverrides = true ∧ (f.lookupOverride package).value = .error e

/-- The error of a lookup that was made and failed. -/
def lookupError? (package : String) : Option IconError :=
  if f.useOverrides then
    match (f.lookupOverride package).value with
    | .error e => some e
    | .ok _ => none
  else none

theorem lookupError?_eq_some_iff (package : String) (e : IconError) :
    f.lookupError? package = some e ↔ f.LookupFails package e := by
  unfold lookupError? LookupFails
  cases f.useOverrides with
  | false => simp
  | true =>
      cases (f.lookupOverride package).value with
      | error e' => simp
      | ok found => simp

/-- The line about a lookup that failed. -/
def lookupWarning (package : String) (e : IconError) : LogLine :=
  ⟨.warn, package ++ ": icon override lookup failed: " ++ e.message f.library.describe⟩

/-- What is said of a lookup. -/
def warnings (package : String) : List LogLine :=
  ((f.lookupError? package).map (f.lookupWarning package)).toList

theorem warnings_of_fails {package : String} {e : IconError} (fails : f.LookupFails package e) :
    f.warnings package = [f.lookupWarning package e] := by
  rw [warnings, (f.lookupError?_eq_some_iff package e).mpr fails]
  rfl

theorem warnings_eq_nil_iff (package : String) :
    f.warnings package = [] ↔ ¬ ∃ e, f.LookupFails package e := by
  rw [warnings, Option.toList_eq_nil_iff, Option.map_eq_none_iff,
    Option.eq_none_iff_forall_ne_some, not_exists]
  simp only [ne_eq, lookupError?_eq_some_iff]

theorem not_fails_of_overrides {package : String} {icon : Bitmap}
    (used : f.Overrides package icon) : ¬ ∃ e, f.LookupFails package e := by
  rintro ⟨e, -, failed⟩
  rw [used.2] at failed
  cases failed

/-! ## Decisions -/

/-- The line about an icon that was replaced. -/
def changeLine? (package : String) : FixOutcome → Option LogLine
  | .override _ => some ⟨.info, package ++ ": using icon override"⟩
  | .silhouette _ => some ⟨.info, package ++ ": generated silhouette icon"⟩
  | .unchanged _ => none

/-- The line about an icon that was kept because of an error. -/
def keptLine (package : String) (e : IconError) : LogLine :=
  ⟨.error, package ++ ": keeping original icon: " ++ e.message f.library.describe⟩

/-- What is said of a decision that was reached. -/
def changes (package : String) (decided : Except IconError FixOutcome) : List LogLine :=
  (decided.toOption.bind (changeLine? package)).toList

/-- What is said of a decision that failed. -/
def failures (package : String) : Except IconError FixOutcome → List LogLine
  | .ok _ => []
  | .error e => [f.keptLine package e]

/-! ## Steps -/

theorem loud_lookupOverride (quiet : f.provider.Quiet) (package : String) :
    (f.lookupOverride package).loud = [] := by
  simp only [lookupOverride, Logged.loud_bind, OverrideProvider.quiet_iff.mp quiet,
    List.nil_append]
  split
  · rfl
  · rfl
  split
  · rfl
  · rfl

theorem loud_override_of_overrides (quiet : f.provider.Quiet) {package : String} {icon : Bitmap}
    (used : f.Overrides package icon) :
    (f.override package).loud = (changeLine? package (.override icon)).toList := by
  obtain ⟨on, found⟩ := used
  simp only [override, on, reduceIte, Logged.loud_bind, f.loud_lookupOverride quiet, found]
  rfl

theorem loud_override_of_not_overrides (quiet : f.provider.Quiet) {package : String}
    (unused : ¬ ∃ icon, f.Overrides package icon) :
    (f.override package).loud = f.warnings package := by
  cases on : f.useOverrides with
  | false =>
      simp only [override, warnings, lookupError?, on, Bool.false_eq_true, reduceIte]
      rfl
  | true =>
      simp only [override, warnings, lookupError?, on, reduceIte, Logged.loud_bind,
        f.loud_lookupOverride quiet, List.nil_append]
      rcases found : (f.lookupOverride package).value with e | _ | icon
      · rfl
      · rfl
      · exact absurd ⟨icon, on, found⟩ unused

theorem loud_silhouette (b : Bitmap) (ratio : Single) : (b.silhouette ratio).loud = [] := by
  unfold Bitmap.silhouette
  dsimp only
  split
  · rfl
  · rfl

theorem loud_redraw (entry : IconEntry) :
    (f.redraw entry).loud = changes entry.package (f.redraw entry).value := by
  unfold redraw
  -- exit by exit: the first four leave the icon alone, and the last two draw it or fail
  split
  · rfl
  · rfl
  split
  · rfl
  split
  · rfl
  · simp only [Logged.loud_bind, Logged.value_bind, loud_silhouette, List.nil_append]
    split
    · rfl
    · rfl

theorem loud_fix (quiet : f.provider.Quiet) (entry : IconEntry) :
    (f.fix entry).loud =
      f.warnings entry.package ++ changes entry.package (f.fix entry).value := by
  by_cases used : ∃ icon, f.Overrides entry.package icon
  · -- an override was found, so the lookup did not fail, and its line is the one about the outcome
    obtain ⟨icon, stored⟩ := used
    have found := (f.value_override_eq_some_iff entry.package icon).mpr stored
    have unfailed := (f.warnings_eq_nil_iff entry.package).mpr (f.not_fails_of_overrides stored)
    rw [f.value_fix_of_overrides stored, unfailed]
    simp only [fix, Logged.loud_bind, found, f.loud_override_of_overrides quiet stored]
    rfl
  · have missing := f.value_override_eq_none used
    rw [f.value_fix_of_not_overrides used, ← f.loud_redraw]
    simp only [fix, Logged.loud_bind, missing, f.loud_override_of_not_overrides quiet used]

/-- The loud lines about an entry: at most one about the lookup, then at most one about the icon. -/
theorem loud_fixOrKeep (quiet : f.provider.Quiet) (entry : IconEntry) :
    (f.fixOrKeep entry).loud =
      f.warnings entry.package ++
        (changes entry.package (f.fix entry).value ++
          f.failures entry.package (f.fix entry).value) := by
  simp only [fixOrKeep, Logged.loud_bind, f.loud_fix quiet, List.append_assoc]
  cases (f.fix entry).value with
  | error e => rfl
  | ok outcome =>
      cases outcome with
      | override icon => rfl
      | silhouette icon => rfl
      | unchanged reason => rfl

/-! ## Levels -/

/-- Lines of one level are all there or all gone when those of a level are picked out. -/
theorem filter_level {own : Level} {lines : List LogLine}
    (same : ∀ line ∈ lines, line.level = own) (level : Level) :
    (lines.filter fun line => line.level = level) = if own = level then lines else [] := by
  by_cases equal : own = level
  · rw [if_pos equal, List.filter_eq_self]
    intro line member
    exact decide_eq_true ((same line member).trans equal)
  · rw [if_neg equal, List.filter_eq_nil_iff]
    intro line member
    rw [same line member, decide_eq_true_eq]
    exact equal

/-- The line is of this level, and begins with the package that it is about. -/
structure Concerns (package : String) (level : Level) (line : LogLine) : Prop where
  level : line.level = level
  named : ∃ rest, line.text = package ++ rest

theorem concerns_of_mem_warnings {package : String} {line : LogLine}
    (member : line ∈ f.warnings package) : Concerns package .warn line := by
  obtain ⟨e, -, rfl⟩ := Option.map_eq_some_iff.mp (Option.mem_toList.mp member)
  exact ⟨rfl, _, String.append_assoc ..⟩

theorem concerns_of_mem_changes {package : String} {decided : Except IconError FixOutcome}
    {line : LogLine} (member : line ∈ changes package decided) : Concerns package .info line := by
  obtain ⟨outcome, -, said⟩ := Option.bind_eq_some_iff.mp (Option.mem_toList.mp member)
  cases outcome with
  | override icon => cases said; exact ⟨rfl, _, rfl⟩
  | silhouette icon => cases said; exact ⟨rfl, _, rfl⟩
  | unchanged reason => cases said

theorem concerns_of_mem_failures {package : String} {decided : Except IconError FixOutcome}
    {line : LogLine} (member : line ∈ f.failures package decided) :
    Concerns package .error line := by
  cases decided with
  | error e =>
      obtain rfl := List.mem_singleton.mp member
      exact ⟨rfl, _, String.append_assoc ..⟩
  | ok outcome => cases member

theorem named_of_mem_loud (quiet : f.provider.Quiet) (entry : IconEntry) {line : LogLine}
    (member : line ∈ (f.fixOrKeep entry).loud) : ∃ rest, line.text = entry.package ++ rest := by
  rw [f.loud_fixOrKeep quiet, List.mem_append, List.mem_append] at member
  rcases member with warned | changed | failed
  · exact (f.concerns_of_mem_warnings warned).named
  · exact (concerns_of_mem_changes changed).named
  · exact (f.concerns_of_mem_failures failed).named

theorem linesAt_fixOrKeep (quiet : f.provider.Quiet) (entry : IconEntry) {level : Level}
    (loud : level.isLoud = true) :
    (f.fixOrKeep entry).linesAt level =
      (if .warn = level then f.warnings entry.package else []) ++
        ((if .info = level then changes entry.package (f.fix entry).value else []) ++
          if .error = level then f.failures entry.package (f.fix entry).value else []) := by
  rw [Logged.linesAt_of_isLoud loud, f.loud_fixOrKeep quiet, List.filter_append,
    List.filter_append, filter_level fun _ warned => (f.concerns_of_mem_warnings warned).level,
    filter_level fun _ changed => (concerns_of_mem_changes changed).level,
    filter_level fun _ failed => (f.concerns_of_mem_failures failed).level]

theorem linesAt_warn (quiet : f.provider.Quiet) (entry : IconEntry) :
    (f.fixOrKeep entry).linesAt .warn = f.warnings entry.package := by
  rw [f.linesAt_fixOrKeep quiet entry rfl]
  exact List.append_nil _

theorem linesAt_info (quiet : f.provider.Quiet) (entry : IconEntry) :
    (f.fixOrKeep entry).linesAt .info = changes entry.package (f.fix entry).value := by
  rw [f.linesAt_fixOrKeep quiet entry rfl]
  exact List.append_nil _

theorem linesAt_error (quiet : f.provider.Quiet) (entry : IconEntry) :
    (f.fixOrKeep entry).linesAt .error = f.failures entry.package (f.fix entry).value := by
  rw [f.linesAt_fixOrKeep quiet entry rfl]
  rfl

/-! ## Runs -/

theorem value_fix_of_ne_failed {entry : IconEntry}
    (intended : (f.fixOrKeep entry).value.1 ≠ .unchanged .failed) :
    (f.fix entry).value = .ok (f.fixOrKeep entry).value.1 := by
  have reports := f.fixOrKeep_reports entry
  cases decided : (f.fix entry).value with
  | error e => exact absurd (reports.failed e decided).1 intended
  | ok outcome => rw [reports.reported outcome decided]

/-- Nothing is said of a decision exactly if it is to leave the icon alone. -/
theorem changes_failures_eq_nil_iff (package : String) (decided : Except IconError FixOutcome) :
    changes package decided ++ f.failures package decided = [] ↔
      ∃ reason, decided = .ok (.unchanged reason) := by
  cases decided with
  | error e => exact iff_of_false nofun nofun
  | ok outcome =>
      cases outcome with
      | override icon => exact iff_of_false nofun nofun
      | silhouette icon => exact iff_of_false nofun nofun
      | unchanged reason => exact iff_of_true rfl ⟨reason, rfl⟩

/-- The loud lines of a run, level by level, tell whether the lookup failed and which outcome is
reported, each with the package in front. -/
structure Tells (entry : IconEntry) (run : Logged (FixOutcome × IconEntry)) : Prop where
  warned : ∀ e, f.LookupFails entry.package e →
    run.linesAt .warn = [f.lookupWarning entry.package e]
  unwarned : (¬ ∃ e, f.LookupFails entry.package e) → run.linesAt .warn = []
  failed : run.value.1 = .unchanged .failed →
    ∃ e, (f.fix entry).value = .error e ∧ run.linesAt .error = [f.keptLine entry.package e]
  unfailed : run.value.1 ≠ .unchanged .failed → run.linesAt .error = []
  overridden : ∀ icon, run.value.1 = .override icon →
    run.linesAt .info = [⟨.info, entry.package ++ ": using icon override"⟩]
  drawn : ∀ icon, run.value.1 = .silhouette icon →
    run.linesAt .info = [⟨.info, entry.package ++ ": generated silhouette icon"⟩]
  unchanged : ∀ reason, run.value.1 = .unchanged reason → run.linesAt .info = []
  named : ∀ line ∈ run.loud, ∃ rest, line.text = entry.package ++ rest

theorem tells (quiet : f.provider.Quiet) (entry : IconEntry) :
    f.Tells entry (f.fixOrKeep entry) where
  warned e fails := by rw [f.linesAt_warn quiet, f.warnings_of_fails fails]
  unwarned sound := by rw [f.linesAt_warn quiet, (f.warnings_eq_nil_iff _).mpr sound]
  failed failed := by
    obtain ⟨e, decided⟩ := (f.fixOrKeep_reports entry).of_failed failed
    refine ⟨e, decided, ?_⟩
    rw [f.linesAt_error quiet, decided]
    rfl
  unfailed intended := by
    rw [f.linesAt_error quiet, f.value_fix_of_ne_failed intended]
    rfl
  overridden icon used := by
    rw [f.linesAt_info quiet, f.value_fix_of_ne_failed (by rw [used]; nofun), used]
    rfl
  drawn icon drawn := by
    rw [f.linesAt_info quiet, f.value_fix_of_ne_failed (by rw [drawn]; nofun), drawn]
    rfl
  unchanged reason kept := by
    rw [f.linesAt_info quiet]
    by_cases failed : (f.fixOrKeep entry).value.1 = .unchanged .failed
    · -- reported as an icon left alone, but for an error, which has a line of its own level
      obtain ⟨e, decided⟩ := (f.fixOrKeep_reports entry).of_failed failed
      rw [decided]
      rfl
    · rw [f.value_fix_of_ne_failed failed, kept]
      rfl
  named _ := f.named_of_mem_loud quiet entry

theorem loud_eq_nil_iff (quiet : f.provider.Quiet) (entry : IconEntry) :
    (f.fixOrKeep entry).loud = [] ↔
      (∃ reason, reason ≠ .failed ∧ (f.fixOrKeep entry).value.1 = .unchanged reason) ∧
        ¬ ∃ e, f.LookupFails entry.package e := by
  rw [f.loud_fixOrKeep quiet, List.append_eq_nil_iff, warnings_eq_nil_iff,
    changes_failures_eq_nil_iff, and_comm]
  refine and_congr_left fun _ => ⟨?_, ?_⟩
  · rintro ⟨reason, decided⟩
    refine ⟨reason, ?_, (f.fixOrKeep_reports entry).reported _ decided⟩
    rintro rfl
    exact f.value_fix_ne_failed entry decided
  · rintro ⟨reason, intended, kept⟩
    refine ⟨reason, ?_⟩
    rw [f.value_fix_of_ne_failed, kept]
    rw [kept]
    exact fun failed => intended (FixOutcome.unchanged.inj failed)

/-- **Every failure is told once.**  The provider being quiet, a run warns once of a lookup that
failed, notes once an error for which the icon was kept, and once that the icon was replaced; it has
no such line without that cause, and every one begins with the package.  After a failed lookup and a
failed silhouette the warning comes before the error.  Nothing loud is said exactly if the icon is
left alone as intended and no lookup failed. -/
theorem fixOrKeep_tells (quiet : f.provider.Quiet) (entry : IconEntry) :
    let run := f.fixOrKeep entry
    f.Tells entry run ∧
      (∀ e, f.LookupFails entry.package e → run.value.1 = .unchanged .failed →
        ∃ e', (f.fix entry).value = .error e' ∧
          run.loud = [f.lookupWarning entry.package e, f.keptLine entry.package e']) ∧
      (run.loud = [] ↔
        (∃ reason, reason ≠ .failed ∧ run.value.1 = .unchanged reason) ∧
          ¬ ∃ e, f.LookupFails entry.package e) := by
  refine ⟨f.tells quiet entry, ?_, f.loud_eq_nil_iff quiet entry⟩
  intro e fails failed
  obtain ⟨e', decided⟩ := (f.fixOrKeep_reports entry).of_failed failed
  refine ⟨e', decided, ?_⟩
  rw [f.loud_fixOrKeep quiet, f.warnings_of_fails fails, decided]
  rfl

/-- A fixer whose overrides are in a file that is not there. -/
def lost : IconFixer := .new .plain {} (FileStore.provider ⟨"icons", .error .missing⟩)

/-- The lookup fails, and then the two pixels are too few for a silhouette. -/
theorem fixOrKeep_tells_sliver :
    lost.provider.Quiet ∧
      (lost.fixOrKeep sliver).loud =
        [⟨.warn, "app: icon override lookup failed: override provider unavailable: " ++
            "icons: No such file or directory (os error 2)"⟩,
          ⟨.error, "app: keeping original icon: " ++
            "edge sample left at offset 2 is outside a 1x2 bitmap"⟩] := by
  have quiet : lost.provider.Quiet := FileStore.quiet_provider _
  have fails : lost.LookupFails sliver.package (.providerUnavailable ("icons" ++ ": " ++ _)) :=
    ⟨rfl, rfl⟩
  have decided : (lost.fix sliver).value = .error (.sampleOutOfBounds .left 2 1 2) := by
    have unused : ¬ ∃ icon, lost.Overrides sliver.package icon := by
      rintro ⟨icon, -, stored⟩
      cases stored
    have draws : lost.Draws sliver (.filled 1 2 ⟨255, 0, 0, 255⟩) :=
      ⟨draws_sliver.icon, draws_sliver.wanted, draws_sliver.colourful⟩
    rw [lost.value_fix_of_not_overrides unused, (lost.redraw_chain sliver).silhouette _ draws,
      Bitmap.value_silhouette]
    rfl
  have failed := congrArg Prod.fst (lost.value_fixOrKeep_of_error decided)
  obtain ⟨-, both, -⟩ := lost.fixOrKeep_tells quiet sliver
  obtain ⟨e, same, said⟩ := both _ fails failed
  obtain rfl := Except.error.inj (same.symm.trans decided)
  refine ⟨quiet, said.trans ?_⟩
  decide +kernel

end IconFixer

end StatusIcon
