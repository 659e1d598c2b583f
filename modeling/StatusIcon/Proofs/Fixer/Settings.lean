/-
# StatusIcon.Proofs.Fixer.Settings -- the last configuration is the one that counts

Settings and rules are made of each other without loss, but for a ratio that is not between zero and
one (`SilhouetteSettings.toRule_ofRule`).  So a fixer is its library, its provider and the
configuration that it exports (`eq_of_exportConfig`).

A fixer takes over every setting of a configuration that is applied to it, so nothing is left of the
ones before (`configure_concat`), and it answers like a new fixer with that configuration
(`Alike`).  What it exports is the configuration with a ratio between zero and one
(`exportConfig_applyConfig`); a configuration that was exported is in order already, so applying it
to the same fixer changes nothing (`applyConfig_exportConfig`).
-/
import StatusIcon.Fixer.Basic
import StatusIcon.Proofs.Silhouette.Ratio

set_option autoImplicit false

namespace StatusIcon

/-! ## Settings and rules -/

theorem SilhouetteSettings.toRule_ofRule (r : SilhouetteRule) : (ofRule r).toRule = r := by
  obtain ⟨ratio, clamped⟩ := r
  simp only [ofRule, toRule, SilhouetteRule.ofRatio, clamped]

theorem GrayscaleSettings.toRule_ofRule (r : GrayscaleRule) : (ofRule r).toRule = r := rfl

/-- The same configuration with a ratio between zero and one. -/
def FixerConfig.clamped (c : FixerConfig) : FixerConfig :=
  { c with silhouette.thresholdRatio := Ratio.clamp c.silhouette.thresholdRatio }

namespace IconFixer

/-- Two fixers give the same answers, and note the same lines with them. -/
structure Alike (f g : IconFixer) : Prop where
  fix : ∀ entry, f.fix entry = g.fix entry
  fixOrKeep : ∀ entry, f.fixOrKeep entry = g.fixOrKeep entry
  lookupOverride : ∀ package, f.lookupOverride package = g.lookupOverride package
  exportConfig : f.exportConfig = g.exportConfig

theorem Alike.refl (f : IconFixer) : f.Alike f :=
  ⟨fun _ => rfl, fun _ => rfl, fun _ => rfl, rfl⟩

/-! ## One configuration -/

variable (f : IconFixer) (c : FixerConfig)

theorem exportConfig_applyConfig : (f.applyConfig c).exportConfig = c.clamped := rfl

theorem applyConfig_eq_new : f.applyConfig c = new f.library c f.provider := rfl

theorem applyConfig_exportConfig : f.applyConfig f.exportConfig = f := by
  simp only [applyConfig, exportConfig, SilhouetteSettings.toRule_ofRule,
    GrayscaleSettings.toRule_ofRule]

/-- A fixer is its library, its provider and the settings that it exports. -/
theorem eq_of_exportConfig {f g : IconFixer} (library : f.library = g.library)
    (provider : f.provider = g.provider) (settings : f.exportConfig = g.exportConfig) : f = g := by
  rw [← f.applyConfig_exportConfig, ← g.applyConfig_exportConfig, applyConfig_eq_new,
    applyConfig_eq_new, library, provider, settings]

/-! ## Runs of configurations -/

/-- The fixer after these configurations were applied, first one first. -/
def configure (history : List FixerConfig) : IconFixer := history.foldl applyConfig f

/-- No configuration changes the library or the provider. -/
theorem kept_configure (history : List FixerConfig) :
    (f.configure history).library = f.library ∧ (f.configure history).provider = f.provider := by
  unfold configure
  induction history generalizing f with
  | nil => exact ⟨rfl, rfl⟩
  | cons c history ih => exact ih (f.applyConfig c)

theorem configure_concat (earlier : List FixerConfig) :
    f.configure (earlier ++ [c]) = new f.library c f.provider := by
  have last : f.configure (earlier ++ [c]) = (f.configure earlier).applyConfig c :=
    List.foldl_append
  obtain ⟨library, provider⟩ := f.kept_configure earlier
  rw [last, applyConfig_eq_new, library, provider]

/-- **The last configuration is the one that counts.**  Whatever a fixer was made with and told
before, it answers like a new one with the last configuration.  It exports that configuration, but
for a ratio that is not between zero and one, for which it exports the nearer bound.  Applying what
it exports changes no answer, nor what is exported next. -/
theorem configure_lastCounts (library : Image.Library) (provider : OverrideProvider)
    (initial : FixerConfig) (earlier : List FixerConfig) (last : FixerConfig) :
    let f := (new library initial provider).configure (earlier ++ [last])
    f.Alike (new library last provider) ∧
      { f.exportConfig with silhouette.thresholdRatio := last.silhouette.thresholdRatio } = last ∧
      Ratio.Nearest last.silhouette.thresholdRatio f.exportConfig.silhouette.thresholdRatio ∧
      (f.applyConfig f.exportConfig).Alike f := by
  intro f
  have settled : f = new library last provider := configure_concat _ last earlier
  have exported : f.exportConfig = last.clamped := by
    rw [settled, new, exportConfig_applyConfig]
  refine ⟨settled ▸ .refl f, ?_, ?_, ?_⟩
  · rw [exported]
    rfl
  · rw [exported]
    exact Ratio.nearest_clamp last.silhouette.thresholdRatio
  · rw [applyConfig_exportConfig]
    exact .refl f

end IconFixer

end StatusIcon
