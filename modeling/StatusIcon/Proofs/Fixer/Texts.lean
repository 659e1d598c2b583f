/-
# StatusIcon.Proofs.Fixer.Texts -- which texts are configurations

A configuration and the two settings inside it are records, and each of their members has a
language: what is accepted as a configuration is told by these (`ofJson_eq_ok_iff`).  Every member
sets one field and leaves the others alone, so what an object gives to a name is what the field of
that name has (`Sets`).
-/
import StatusIcon.Fixer.Config
import StatusIcon.Proofs.Json.Objects
import StatusIcon.Proofs.Json.Scalars

set_option autoImplicit false

namespace StatusIcon

open Json Json.Grammar

/-! ## Numbers of a field -/

def ByteText (w : List Char) (b : UInt8) : Prop := NaturalText 8 w b.toNat

def WordText (w : List Char) (n : UInt32) : Prop := NaturalText 32 w n.toNat

theorem exists_naturalText_byte {w : List Char} {P : UInt8 → Prop} :
    (∃ n, NaturalText 8 w n ∧ P (.ofNat n)) ↔ ∃ b, ByteText w b ∧ P b := by
  constructor
  · rintro ⟨n, text, holds⟩
    refine ⟨.ofNat n, ?_, holds⟩
    have small : n < 2 ^ 8 := text.2.2
    rwa [ByteText, UInt8.toNat_ofNat_of_lt' small]
  · rintro ⟨b, text, holds⟩
    exact ⟨b.toNat, text, by rwa [UInt8.ofNat_toNat]⟩

theorem exists_naturalText_word {w : List Char} {P : UInt32 → Prop} :
    (∃ n, NaturalText 32 w n ∧ P (.ofNat n)) ↔ ∃ n, WordText w n ∧ P n := by
  constructor
  · rintro ⟨n, text, holds⟩
    refine ⟨.ofNat n, ?_, holds⟩
    have small : n < 2 ^ 32 := text.2.2
    rwa [WordText, UInt32.toNat_ofNat_of_lt' small]
  · rintro ⟨n, text, holds⟩
    exact ⟨n.toNat, text, by rwa [UInt32.ofNat_toNat]⟩

namespace FixerConfig

/-! ## Silhouettes -/

/-- What a member makes of the settings for silhouettes. -/
def SilhouetteMember (name : String) (s : SilhouetteSettings) (w : List Char)
    (next : SilhouetteSettings) : Prop :=
  name = "thresholdRatio" ∧ ∃ ratio, SingleText w ratio ∧ next = { s with thresholdRatio := ratio }

def SilhouetteText (w : List Char) (s : SilhouetteSettings) : Prop :=
  RecordText silhouetteShape SilhouetteMember {} w s

theorem silhouetteMembersRead : MembersRead silhouetteShape SilhouetteMember := by
  intro m member record
  obtain rfl := List.mem_singleton.mp member
  refine (reads_readSingle.ofReader _ _ _ record).congr fun w next => ?_
  simp [SilhouetteMember, Member.ofReader]

theorem reads_silhouette : Reads (silhouetteShape.read {}) SilhouetteText :=
  reads_shape silhouetteMembersRead _

theorem sets_thresholdRatio :
    Sets SilhouetteMember "thresholdRatio" SingleText SilhouetteSettings.thresholdRatio where
  here := by grind [SilhouetteMember]
  elsewhere := by grind [SilhouetteMember]

/-! ## Greys -/

/-- What a member makes of the settings for greys. -/
def GrayscaleMember (name : String) (s : GrayscaleSettings) (w : List Char)
    (next : GrayscaleSettings) : Prop :=
  (name = "tolerance" ∧ ∃ b, ByteText w b ∧ next = { s with tolerance := b }) ∨
  (name = "alphaTolerance" ∧ ∃ b, ByteText w b ∧ next = { s with alphaTolerance := b }) ∨
  (name = "compactSize" ∧ ∃ n, WordText w n ∧ next = { s with compactSize := n })

def GrayscaleText (w : List Char) (s : GrayscaleSettings) : Prop :=
  RecordText grayscaleShape GrayscaleMember {} w s

theorem grayscaleMembersRead : MembersRead grayscaleShape GrayscaleMember := by
  intro m member s
  simp only [grayscaleShape, List.mem_cons, List.not_mem_nil, or_false] at member
  rcases member with rfl | rfl | rfl
  · refine ((reads_readNatural (by decide)).ofReader _ _ _ s).congr fun w next => ?_
    rw [exists_naturalText_byte (P := fun b => next = { s with tolerance := b })]
    simp [GrayscaleMember, Member.ofReader]
  · refine ((reads_readNatural (by decide)).ofReader _ _ _ s).congr fun w next => ?_
    rw [exists_naturalText_byte (P := fun b => next = { s with alphaTolerance := b })]
    simp [GrayscaleMember, Member.ofReader]
  · refine ((reads_readNatural (by decide)).ofReader _ _ _ s).congr fun w next => ?_
    rw [exists_naturalText_word (P := fun n => next = { s with compactSize := n })]
    simp [GrayscaleMember, Member.ofReader]

theorem reads_grayscale : Reads (grayscaleShape.read {}) GrayscaleText :=
  reads_shape grayscaleMembersRead _

theorem sets_tolerance :
    Sets GrayscaleMember "tolerance" ByteText GrayscaleSettings.tolerance where
  here := by grind [GrayscaleMember]
  elsewhere := by grind [GrayscaleMember]

theorem sets_alphaTolerance :
    Sets GrayscaleMember "alphaTolerance" ByteText GrayscaleSettings.alphaTolerance where
  here := by grind [GrayscaleMember]
  elsewhere := by grind [GrayscaleMember]

theorem sets_compactSize :
    Sets GrayscaleMember "compactSize" WordText GrayscaleSettings.compactSize where
  here := by grind [GrayscaleMember]
  elsewhere := by grind [GrayscaleMember]

/-! ## Configurations -/

/-- What a member makes of a configuration. -/
def ConfigMember (name : String) (c : FixerConfig) (w : List Char) (next : FixerConfig) : Prop :=
  (name = "overrideUri" ∧ ∃ uri, StringText w uri ∧ next = { c with overrideUri := uri }) ∨
  (name = "useOverrides" ∧ ∃ b, BoolText w b ∧ next = { c with useOverrides := b }) ∨
  (name = "autoSilhouette" ∧ ∃ b, BoolText w b ∧ next = { c with autoSilhouette := b }) ∨
  (name = "silhouette" ∧ ∃ s, SilhouetteText w s ∧ next = { c with silhouette := s }) ∨
  (name = "grayscale" ∧ ∃ s, GrayscaleText w s ∧ next = { c with grayscale := s })

def Text (w : List Char) (c : FixerConfig) : Prop := RecordText shape ConfigMember {} w c

theorem configMembersRead : MembersRead shape ConfigMember := by
  intro m member c
  simp only [shape, List.mem_cons, List.not_mem_nil, or_false] at member
  rcases member with rfl | rfl | rfl | rfl | rfl
  · refine (reads_readString.ofReader _ _ _ c).congr fun w next => ?_
    simp [ConfigMember, Member.ofReader]
  · refine (reads_readBool.ofReader _ _ _ c).congr fun w next => ?_
    simp [ConfigMember, Member.ofReader]
  · refine (reads_readBool.ofReader _ _ _ c).congr fun w next => ?_
    simp [ConfigMember, Member.ofReader]
  · refine (reads_silhouette.ofReader _ _ _ c).congr fun w next => ?_
    simp [ConfigMember, Member.ofReader]
  · refine (reads_grayscale.ofReader _ _ _ c).congr fun w next => ?_
    simp [ConfigMember, Member.ofReader]

theorem sets_overrideUri :
    Sets ConfigMember "overrideUri" StringText FixerConfig.overrideUri where
  here := by grind [ConfigMember]
  elsewhere := by grind [ConfigMember]

theorem sets_useOverrides :
    Sets ConfigMember "useOverrides" BoolText FixerConfig.useOverrides where
  here := by grind [ConfigMember]
  elsewhere := by grind [ConfigMember]

theorem sets_autoSilhouette :
    Sets ConfigMember "autoSilhouette" BoolText FixerConfig.autoSilhouette where
  here := by grind [ConfigMember]
  elsewhere := by grind [ConfigMember]

theorem sets_silhouette :
    Sets ConfigMember "silhouette" SilhouetteText FixerConfig.silhouette where
  here := by grind [ConfigMember]
  elsewhere := by grind [ConfigMember]

theorem sets_grayscale : Sets ConfigMember "grayscale" GrayscaleText FixerConfig.grayscale where
  here := by grind [ConfigMember]
  elsewhere := by grind [ConfigMember]

theorem reads_config : Reads (shape.read {}) Text := reads_shape configMembersRead _

/-- Between spaces, exactly the texts of configurations are accepted. -/
theorem ofJson_eq_ok_iff {text : String} {w : List Char} (around : Around text w)
    (value : IsValue w) {c : FixerConfig} : ofJson text = .ok c ↔ Text w c :=
  reads_config.parse_around_iff around value

end FixerConfig

end StatusIcon
