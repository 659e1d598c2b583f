/-
# StatusIcon.Proofs.CommandLine.Fixing -- what a run of `fix` saves

A run of `fix` fails if its configuration or its input cannot be had, and saves an image in all
other cases.  Which one is decided by the chain of a fixer: the icon that the overrides have for the
package (`Replaces`), else the silhouette of the input, else the input itself (`Saves`).  The chain
comes to one end (`Saves.unique`), and it only asks for the icon of the overrides, so overrides
without such an icon are as good as none.  All this is so with every image library.
-/
import StatusIcon.Proofs.CommandLine.Saving
import StatusIcon.Proofs.Fixer.Fallback
import StatusIcon.Proofs.Fixer.Files

set_option autoImplicit false

namespace StatusIcon

/-! ## The end of the chain -/

/-- What a bitmap is left as, where `replaced` holds of the icons that may take its place. -/
inductive Saves (replaced : Bitmap → Prop) (settings : FixerConfig) (b : Bitmap) :
    Bitmap → Prop where
  | override {icon : Bitmap} (used : replaced icon) : Saves replaced settings b icon
  | silhouette {drawn : Bitmap} (unused : ¬ ∃ icon, replaced icon)
      (wanted : settings.autoSilhouette = true)
      (colourful : b.isGrayscale settings.grayscale.toRule = false)
      (fits : EdgeSamples.Fits b.width b.height)
      (shown : (b.silhouette (Ratio.clamp settings.silhouette.thresholdRatio)).value = .ok drawn) :
      Saves replaced settings b drawn
  | unchanged (unused : ¬ ∃ icon, replaced icon)
      (kept : settings.autoSilhouette = false ∨ b.isGrayscale settings.grayscale.toRule = true ∨
        ¬ EdgeSamples.Fits b.width b.height) : Saves replaced settings b b

namespace Saves

variable {replaced : Bitmap → Prop} {settings : FixerConfig} {b : Bitmap}

theorem unique (one : ∀ icon other, replaced icon → replaced other → icon = other)
    {saved other : Bitmap} (saves : Saves replaced settings b saved)
    (saves' : Saves replaced settings b other) : saved = other := by
  cases saves with
  | override used =>
      cases saves' with
      | override used' => exact one _ _ used used'
      | silhouette unused => exact absurd ⟨_, used⟩ unused
      | unchanged unused => exact absurd ⟨_, used⟩ unused
  | silhouette unused wanted colourful fits shown =>
      cases saves' with
      | override used => exact absurd ⟨_, used⟩ unused
      | silhouette _ _ _ _ shown' => exact Except.ok.inj (shown.symm.trans shown')
      | unchanged _ kept => simp [wanted, colourful, fits] at kept
  | unchanged unused kept =>
      cases saves' with
      | override used => exact absurd ⟨_, used⟩ unused
      | silhouette _ wanted colourful fits => simp [wanted, colourful, fits] at kept
      | unchanged => rfl

/-- Only the icons that may take the place of the bitmap matter. -/
theorem congr {others : Bitmap → Prop} (same : ∀ icon, replaced icon ↔ others icon)
    {saved : Bitmap} (saves : Saves replaced settings b saved) : Saves others settings b saved := by
  obtain rfl : replaced = others := funext fun icon => propext (same icon)
  exact saves

end Saves

/-- A fixer comes to the end of the chain with every entry that has a bitmap. -/
theorem IconFixer.exists_saves (library : Image.Library) (settings : FixerConfig)
    (provider : OverrideProvider) (package : String) (b : Bitmap) :
    ∃ outcome saved, Saves ((new library settings provider).Overrides package) settings b saved ∧
      ((new library settings provider).fixOrKeep ⟨package, some (.bitmap b)⟩).value =
        (outcome, ⟨package, some (.bitmap saved)⟩) := by
  let f := new library settings provider
  let entry : IconEntry := ⟨package, some (.bitmap b)⟩
  by_cases used : ∃ icon, f.Overrides package icon
  · obtain ⟨icon, stored⟩ := used
    have replaced : (f.fix entry).value = _ := f.value_fix_of_overrides stored
    exact ⟨_, icon, .override stored, f.value_fixOrKeep_of_icon replaced rfl⟩
  have redrawn : (f.fix entry).value = _ := f.value_fix_of_not_overrides used
  have chain := f.redraw_chain entry
  by_cases wanted : settings.autoSilhouette = true
  · by_cases colour : b.isGrayscale settings.grayscale.toRule = true
    · refine ⟨.unchanged .alreadyGrayscale, b, .unchanged used (.inr (.inl colour)), ?_⟩
      exact f.value_fixOrKeep_of_unchanged
        (redrawn.trans (chain.alreadyGrayscale b rfl wanted colour))
    · have colourful : b.isGrayscale settings.grayscale.toRule = false :=
        Bool.eq_false_iff.mpr colour
      have draws : f.Draws entry b := ⟨rfl, wanted, colourful⟩
      by_cases fits : EdgeSamples.Fits b.width b.height
      · obtain ⟨drawn, shown⟩ := Bitmap.exists_value_silhouette fits f.silhouette.thresholdRatio
        exact ⟨_, drawn, .silhouette used wanted colourful fits shown,
          f.value_fixOrKeep_of_icon (f.value_fix_of_draws used draws shown) rfl⟩
      · obtain ⟨e, failed⟩ := (b.value_silhouette_error_iff f.silhouette.thresholdRatio).mpr fits
        refine ⟨.unchanged .failed, b, .unchanged used (.inr (.inr fits)), ?_⟩
        refine f.value_fixOrKeep_of_error (e := e) ?_
        rw [redrawn, chain.silhouette b draws, failed]
        rfl
  · have off : settings.autoSilhouette = false := Bool.eq_false_iff.mpr wanted
    exact ⟨.unchanged .disabled, b, .unchanged used (.inl off),
      f.value_fixOrKeep_of_unchanged (redrawn.trans (chain.disabled b rfl off))⟩

namespace CommandLine

open IconFixer (dot dotText)
open Image (checkSize Format)

/-! ## Runs -/

/-- The overrides of a run have this icon for the package, and they are looked at. -/
structure Replaces (library : Image.Library) (folder : Folder) (settings : FixerConfig)
    (package : String) (overrides : Option String) (icon : Bitmap) : Prop where
  used : settings.useOverrides = true
  address : settings.overrideUri = "content://top.easterNday.ICON/ICON"
  stored : ∃ path, overrides = some path ∧
    FileStore.Stores library (folder.read path) package icon

section

variable {library : Image.Library} {folder : Folder} {settings : FixerConfig} {package : String}
  {overrides : Option String}

theorem Replaces.unique {icon other : Bitmap}
    (replaces : Replaces library folder settings package overrides icon)
    (replaces' : Replaces library folder settings package overrides other) : icon = other := by
  obtain ⟨-, -, path, rfl, stores⟩ := replaces
  obtain ⟨-, -, path', same, stores'⟩ := replaces'
  cases same
  exact stores.unique stores'

theorem not_replaces_none {icon : Bitmap} :
    ¬ Replaces library folder settings package none icon := by
  rintro ⟨-, -, path, given, -⟩
  cases given

theorem overrides_iff_replaces (icon : Bitmap) :
    (IconFixer.new library settings (overridesAt folder overrides)).Overrides package icon ↔
      Replaces library folder settings package overrides icon := by
  cases overrides with
  | none =>
      refine iff_of_false (fun used => ?_) not_replaces_none
      exact IconFixer.not_overrides_empty rfl package ⟨icon, used⟩
  | some path =>
      have file : (IconFixer.new library settings (overridesAt folder (some path))).provider =
          FileStore.provider ⟨path, folder.read path⟩ := rfl
      rw [IconFixer.overrides_file_iff file]
      constructor
      · exact fun ⟨used, address, stores⟩ => ⟨used, address, path, rfl, stores⟩
      · rintro ⟨used, address, path, given, stores⟩
        cases given
        exact ⟨used, address, stores⟩

theorem not_replaces_of_lacks
    (lacks : ∀ path, overrides = some path → FileStore.Lacks library (folder.read path) package) :
    ¬ ∃ icon, Replaces library folder settings package overrides icon := by
  rintro ⟨icon, -, -, path, given, stores⟩
  exact (lacks path given).not_stores ⟨icon, stores⟩

end

section

/-- What is left behind by a run of `fix`. -/
def fixed (library : Image.Library) (folder : Folder) (package : String)
    (overrides config : Option String) (input output : String) : Run :=
  ((Request.fix package overrides config input output).run library folder).value

variable {library : Image.Library} {folder : Folder} {package : String}
  {overrides config : Option String} {input output : String} {settings : FixerConfig}

theorem fixed_of_config_error {e : IconError} (failed : loadConfig folder config = .error e) :
    fixed library folder package overrides config input output = .failed folder e := by
  simp only [fixed, Request.run, runFix, failed, Logged.value_pure]

theorem fixed_of_input_error {e : IconError} (loaded : loadConfig folder config = .ok settings)
    (failed : openImage library folder input = .error e) :
    fixed library folder package overrides config input output = .failed folder e := by
  simp only [fixed, Request.run, runFix, loaded, failed, Logged.value_pure]

theorem exists_fixed_eq (overrides : Option String) {b : Bitmap}
    (loaded : loadConfig folder config = .ok settings)
    (opened : openImage library folder input = .ok b) :
    ∃ saved, Saves (Replaces library folder settings package overrides) settings b saved ∧
      fixed library folder package overrides config input output =
        ⟨(saveImage library folder output saved).1, none,
          (saveImage library folder output saved).2⟩ := by
  obtain ⟨outcome, saved, saves, kept⟩ :=
    IconFixer.exists_saves library settings (overridesAt folder overrides) package b
  refine ⟨saved, saves.congr overrides_iff_replaces, ?_⟩
  simp only [fixed, Request.run, runFix, loaded, opened, Logged.value_bind, kept, value_finish]

/-- Overrides without an icon for the package are as good as none. -/
theorem fixed_eq_of_lacks
    (lacks : ∀ path, overrides = some path → FileStore.Lacks library (folder.read path) package) :
    fixed library folder package overrides config input output =
      fixed library folder package none config input output := by
  cases loaded : loadConfig folder config with
  | error e => rw [fixed_of_config_error loaded, fixed_of_config_error loaded]
  | ok settings =>
      cases opened : openImage library folder input with
      | error e => rw [fixed_of_input_error loaded opened, fixed_of_input_error loaded opened]
      | ok b =>
          obtain ⟨saved, saves, run⟩ := exists_fixed_eq overrides loaded opened
          obtain ⟨other, saves', run'⟩ := exists_fixed_eq none loaded opened
          -- neither run has an icon to take, so both chains come to the same end
          have unreplaced : ∀ icon, Replaces library folder settings package overrides icon ↔
              Replaces library folder settings package none icon := by
            intro icon
            refine iff_of_false (fun replaces => ?_) not_replaces_none
            exact not_replaces_of_lacks lacks ⟨icon, replaces⟩
          obtain rfl := (saves.congr unreplaced).unique (fun _ _ => Replaces.unique) saves'
          rw [run, run']

end

/-- **A run of `fix` saves what the chain decides.**  A run whose configuration cannot be loaded, or
whose input cannot be opened then, fails with that error and changes nothing.  Every other run saves
the one bitmap that the chain comes to, and ends as that does.  This works if the format of the
output can hold the bitmap and the file can be written; the file then shows the bitmap, and is
opened as it unless it is more than a reader holds, or in a further format that does not restore
it.  No other file is touched.  A file that lacks an icon for the package makes no difference to
what a run leaves behind. -/
theorem fix_savesChain (library : Image.Library) (folder : Folder) (package : String)
    (overrides config : Option String) (input output : String) :
    let run := ((Request.fix package overrides config input output).run library folder).value
    (∀ e, loadConfig folder config = .error e → run = .failed folder e) ∧
      (∀ settings e, loadConfig folder config = .ok settings →
        openImage library folder input = .error e → run = .failed folder e) ∧
      (∀ settings b, loadConfig folder config = .ok settings →
        openImage library folder input = .ok b →
        ∃ saved, Saves (Replaces library folder settings package overrides) settings b saved ∧
          (∀ other, Saves (Replaces library folder settings package overrides) settings b other →
            other = saved) ∧
          run = ⟨(saveImage library folder output saved).1, none,
            (saveImage library folder output saved).2⟩ ∧
          (run.result = .ok () ↔ ∃ format bytes g, Format.ofPath? library output = some format ∧
            format.write library saved = (bytes, .ok ()) ∧ folder.write output bytes = .ok g) ∧
          (run.result = .ok () → ShownAt library run.folder output saved) ∧
          (run.result = .ok () → library.png.Lossless → saved.width < 0x100000000 →
            saved.height < 0x100000000 → checkSize saved.width saved.height 4 = .ok () →
            (∀ codec, Format.ofPath? library output = some (.other codec) →
              codec.Restores saved) →
            openImage library run.folder output = .ok saved) ∧
          ∀ place, folder.locate output ≠ .ok place →
            run.folder.file? place = folder.file? place) ∧
      (∀ path, overrides = some path → FileStore.Lacks library (folder.read path) package →
        run = ((Request.fix package none config input output).run library folder).value) := by
  intro run
  refine ⟨fun e => fixed_of_config_error, fun settings e => fixed_of_input_error, ?_, ?_⟩
  · intro settings b loaded opened
    obtain ⟨saved, saves, ends⟩ := exists_fixed_eq overrides loaded opened
    have run_eq : run = _ := ends
    refine ⟨saved, saves, fun other saves' => saves'.unique (fun _ _ => Replaces.unique) saves,
      run_eq, ?_, ?_, ?_, ?_⟩
    · rw [run_eq]
      exact saveImage_eq_ok_iff
    · rw [run_eq]
      exact shownAt_of_saveImage
    · rw [run_eq]
      exact fun done => (shownAt_of_saveImage done).openImage
    · rw [run_eq]
      exact fun place => file?_saveImage
  · rintro path rfl lacks
    apply fixed_eq_of_lacks
    rintro path' given
    cases given
    exact lacks

/-- Overrides in which the first record of one package is broken. -/
def mixed : List OverrideRecord := [⟨"chat", dotText⟩, ⟨"mail", "?"⟩, ⟨"mail", dotText⟩]

/-- A folder with these overrides and a white image. -/
def desk : Folder :=
  ⟨[], [], [(["icons"], textBytes (OverrideRecord.listToJson mixed)),
    (["in.pgm"], Netpbm.letters "P5 1 1 255\n" ++ [255])]⟩

theorem fix_savesChain_desk :
    ((Request.fix "chat" (some "icons") none "in.pgm" "out.pgm").run .plain desk).value.folder.read
        "out.pgm" = .ok (Netpbm.write dot) ∧
      ((Request.fix "mail" (some "icons") none "in.pgm" "out.pgm").run .plain desk).value =
        ((Request.fix "mail" none none "in.pgm" "out.pgm").run .plain desk).value := by
  have read : desk.read "icons" = .ok (textBytes (OverrideRecord.listToJson mixed)) := by rfl
  have holds : FileStore.Holds (desk.read "icons") mixed := by
    rw [read]
    exact FileStore.holds_render .compact mixed
  constructor
  · have opened : openImage .plain desk "in.pgm" = .ok (.filled 1 1 ⟨255, 255, 255, 255⟩) := by
      decide +kernel
    have chain := fix_savesChain .plain desk "chat" (some "icons") none "in.pgm" "out.pgm"
    obtain ⟨saved, -, unique, ends, -, shown, -⟩ := chain.2.2.1 {} _ rfl opened
    have stored : FileStore.Stores .plain (desk.read "icons") "chat" dot :=
      ⟨mixed, ⟨"chat", dotText⟩, holds, ⟨[], _, rfl, nofun⟩, rfl, by decide +kernel⟩
    obtain rfl := unique dot (.override ⟨rfl, rfl, "icons", rfl, stored⟩)
    have done : (saveImage .plain desk "out.pgm" dot).2 = .ok () := by decide +kernel
    obtain ⟨format, bytes, known, written, shown⟩ := shown (by rw [ends, done])
    have netpbm : Format.ofPath? .plain "out.pgm" = some .netpbm := rfl
    obtain rfl := Option.some.inj (known.symm.trans netpbm)
    obtain rfl := congrArg Prod.fst written
    exact shown
  · have first : FirstIn mixed ⟨"mail", "?"⟩ :=
      ⟨[⟨"chat", dotText⟩], [⟨"mail", dotText⟩], rfl, by decide⟩
    have failed : Icon.ofText .plain "?" = .error (.image .unsupported) := by decide +kernel
    have chain := fix_savesChain .plain desk "mail" (some "icons") none "in.pgm" "out.pgm"
    exact chain.2.2.2 "icons" rfl (.broken holds first rfl failed)

end CommandLine

end StatusIcon
