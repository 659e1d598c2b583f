/-
# StatusIcon.Proofs.Fixer.Overlay -- a partial configuration lies over the defaults

What a text gives is told leaf by leaf (`Leaves`), through both levels of objects and among whatever
other members stand there (`Gives`).  Every text that gives something to a name at most once is
accepted; a leaf that is given has what is given, and every other one has its own default, whether
the object it belongs to is there or not.  So neither the order of the members nor unknown ones have
a part in it, and a known name that is given twice makes the text fail.
-/
import StatusIcon.Proofs.Fixer.Texts
import StatusIcon.Proofs.Json.Printed

set_option autoImplicit false

namespace StatusIcon

open Json Json.Grammar

namespace FixerConfig

/-! ## What is given -/

/-- The leaves of a configuration that a text gives. -/
structure Leaves where
  overrideUri : Option String := none
  useOverrides : Option Bool := none
  autoSilhouette : Option Bool := none
  thresholdRatio : Option Single := none
  tolerance : Option UInt8 := none
  alphaTolerance : Option UInt8 := none
  compactSize : Option UInt32 := none

/-- The given leaves over the defaults. -/
def Leaves.overlay (l : Leaves) : FixerConfig where
  overrideUri := l.overrideUri.getD "content://top.easterNday.ICON/ICON"
  useOverrides := l.useOverrides.getD true
  autoSilhouette := l.autoSilhouette.getD true
  silhouette := { thresholdRatio := l.thresholdRatio.getD (.ofQuotient false 8 10) }
  grayscale :=
    { tolerance := l.tolerance.getD 20
      alphaTolerance := l.alphaTolerance.getD 50
      compactSize := l.compactSize.getD 64 }

/-- The names of the members, and those inside the two settings. -/
def names : List String :=
  ["overrideUri", "useOverrides", "autoSilhouette", "silhouette", "grayscale"]

def silhouetteNames : List String := ["thresholdRatio"]

def grayscaleNames : List String := ["tolerance", "alphaTolerance", "compactSize"]

/-- Nothing is given, and then nothing inside of it, or an object. -/
inductive Inside (holds : List (String × List Char) → Prop) : List (List Char) → Prop where
  | nothing (empty : holds []) : Inside holds []
  | object {v : List Char} {inner : List (String × List Char)} (object : ObjectText v inner)
      (parts : holds inner) : Inside holds [v]

def GivesSilhouette (l : Leaves) (inner : List (String × List Char)) : Prop :=
  Tells SingleText (given "thresholdRatio" inner) l.thresholdRatio

structure GivesGrayscale (l : Leaves) (inner : List (String × List Char)) : Prop where
  tolerance : Tells ByteText (given "tolerance" inner) l.tolerance
  alphaTolerance : Tells ByteText (given "alphaTolerance" inner) l.alphaTolerance
  compactSize : Tells WordText (given "compactSize" inner) l.compactSize

/-- The members give exactly these leaves, each of them once. -/
structure Gives (l : Leaves) (ms : List (String × List Char)) : Prop where
  overrideUri : Tells StringText (given "overrideUri" ms) l.overrideUri
  useOverrides : Tells BoolText (given "useOverrides" ms) l.useOverrides
  autoSilhouette : Tells BoolText (given "autoSilhouette" ms) l.autoSilhouette
  silhouette : Inside (GivesSilhouette l) (given "silhouette" ms)
  grayscale : Inside (GivesGrayscale l) (given "grayscale" ms)

/-- An object that gives exactly these leaves, each of them once. -/
def PartialText (text : String) (l : Leaves) : Prop := ∃ ms, ObjectOf text ms ∧ Gives l ms

/-! ## The overlay -/

section

variable {l : Leaves} {ms : List (String × List Char)}

theorem exists_member {name : String} (known : name ∈ names) :
    ∃ m ∈ shape.members, m.name = name := by
  simpa [names, shape, Member.ofReader, eq_comm] using known

theorem exists_silhouetteMember {name : String} (known : name ∈ silhouetteNames) :
    ∃ m ∈ silhouetteShape.members, m.name = name := by
  simpa [silhouetteNames, silhouetteShape, Member.ofReader, eq_comm] using known

theorem exists_grayscaleMember {name : String} (known : name ∈ grayscaleNames) :
    ∃ m ∈ grayscaleShape.members, m.name = name := by
  simpa [grayscaleNames, grayscaleShape, Member.ofReader, eq_comm] using known

theorem exists_silhouetteText {w : List Char} (object : ObjectText w ms)
    (gives : GivesSilhouette l ms) : ∃ s, SilhouetteText w s := by
  refine exists_recordText object _ (by simp [silhouetteShape, Member.ofReader]) fun m member => ?_
  obtain rfl := List.mem_singleton.mp member
  refine gives.eq_nil_or.imp_right ?_
  rintro ⟨v, only, ratio, text⟩
  exact ⟨v, only, fun _ => ⟨_, rfl, ratio, text, rfl⟩⟩

theorem exists_grayscaleText {w : List Char} (object : ObjectText w ms)
    (gives : GivesGrayscale l ms) : ∃ s, GrayscaleText w s := by
  refine exists_recordText object _ (by simp [grayscaleShape, Member.ofReader]) fun m member => ?_
  simp only [grayscaleShape, List.mem_cons, List.not_mem_nil, or_false] at member
  rcases member with rfl | rfl | rfl
  · refine gives.tolerance.eq_nil_or.imp_right ?_
    rintro ⟨v, only, b, text⟩
    exact ⟨v, only, fun _ => ⟨_, .inl ⟨rfl, b, text, rfl⟩⟩⟩
  · refine gives.alphaTolerance.eq_nil_or.imp_right ?_
    rintro ⟨v, only, b, text⟩
    exact ⟨v, only, fun _ => ⟨_, .inr (.inl ⟨rfl, b, text, rfl⟩)⟩⟩
  · refine gives.compactSize.eq_nil_or.imp_right ?_
    rintro ⟨v, only, n, text⟩
    exact ⟨v, only, fun _ => ⟨_, .inr (.inr ⟨rfl, n, text, rfl⟩)⟩⟩

/-- A member whose object is read has a value, if it is given. -/
theorem Inside.eq_nil_or {α : Type} {holds : List (String × List Char) → Prop}
    {vs : List (List Char)} {language : List Char → α → Prop} (inside : Inside holds vs)
    (read : ∀ {v inner}, ObjectText v inner → holds inner → ∃ a, language v a) :
    vs = [] ∨ ∃ v, vs = [v] ∧ ∃ a, language v a := by
  cases inside with
  | nothing empty => exact .inl rfl
  | object object parts => exact .inr ⟨_, rfl, read object parts⟩

theorem exists_text {w : List Char} (object : ObjectText w ms) (gives : Gives l ms) :
    ∃ c, Text w c := by
  refine exists_recordText object _ (by simp [shape, Member.ofReader]) fun m member => ?_
  simp only [shape, List.mem_cons, List.not_mem_nil, or_false] at member
  rcases member with rfl | rfl | rfl | rfl | rfl
  · refine gives.overrideUri.eq_nil_or.imp_right ?_
    rintro ⟨v, only, uri, text⟩
    exact ⟨v, only, fun _ => ⟨_, .inl ⟨rfl, uri, text, rfl⟩⟩⟩
  · refine gives.useOverrides.eq_nil_or.imp_right ?_
    rintro ⟨v, only, b, text⟩
    exact ⟨v, only, fun _ => ⟨_, .inr (.inl ⟨rfl, b, text, rfl⟩)⟩⟩
  · refine gives.autoSilhouette.eq_nil_or.imp_right ?_
    rintro ⟨v, only, b, text⟩
    exact ⟨v, only, fun _ => ⟨_, .inr (.inr (.inl ⟨rfl, b, text, rfl⟩))⟩⟩
  · refine (gives.silhouette.eq_nil_or exists_silhouetteText).imp_right ?_
    rintro ⟨v, only, s, text⟩
    exact ⟨v, only, fun _ => ⟨_, .inr (.inr (.inr (.inl ⟨rfl, s, text, rfl⟩)))⟩⟩
  · refine (gives.grayscale.eq_nil_or exists_grayscaleText).imp_right ?_
    rintro ⟨v, only, s, text⟩
    exact ⟨v, only, fun _ => ⟨_, .inr (.inr (.inr (.inr ⟨rfl, s, text, rfl⟩)))⟩⟩

/-- An object that is not given is as good as an empty one. -/
theorem Inside.getD_eq {α : Type} {holds : List (String × List Char) → Prop}
    {vs : List (List Char)} {language : List Char → α → Prop} {o : Option α} {start expected : α}
    (inside : Inside holds vs) (told : Tells language vs o)
    (empty : language ['\x7b', '\x7d'] start)
    (read : ∀ v inner a, ObjectText v inner → holds inner → language v a → a = expected) :
    o.getD start = expected := by
  cases inside with
  | nothing none =>
      cases told
      exact read _ _ _ objectText_empty none empty
  | object text parts =>
      cases told with
      | once means => exact read _ _ _ text parts means

theorem silhouette_eq {w : List Char} {s : SilhouetteSettings} (text : SilhouetteText w s)
    (object : ObjectText w ms) (gives : GivesSilhouette l ms) : s = l.overlay.silhouette := by
  have known := exists_silhouetteMember (show "thresholdRatio" ∈ silhouetteNames by
    simp [silhouetteNames])
  have ratio := RecordText.field_eq silhouetteMembersRead sets_thresholdRatio known
    (fun _ _ _ => reads_readSingle.unique) text object gives
  cases s
  simp only [Leaves.overlay] at *
  rw [ratio]
  rfl

theorem grayscale_eq {w : List Char} {s : GrayscaleSettings} (text : GrayscaleText w s)
    (object : ObjectText w ms) (gives : GivesGrayscale l ms) : s = l.overlay.grayscale := by
  have byte {v : List Char} {a b : UInt8} (first : ByteText v a) (second : ByteText v b) : a = b :=
    UInt8.toNat_inj.mp ((reads_readNatural (by decide)).unique first second)
  have word {v : List Char} {a b : UInt32} (first : WordText v a) (second : WordText v b) : a = b :=
    UInt32.toNat_inj.mp ((reads_readNatural (by decide)).unique first second)
  have tolerance := RecordText.field_eq grayscaleMembersRead sets_tolerance
    (exists_grayscaleMember (by simp [grayscaleNames])) (fun _ _ _ => byte) text object
    gives.tolerance
  have alphaTolerance := RecordText.field_eq grayscaleMembersRead sets_alphaTolerance
    (exists_grayscaleMember (by simp [grayscaleNames])) (fun _ _ _ => byte) text object
    gives.alphaTolerance
  have compactSize := RecordText.field_eq grayscaleMembersRead sets_compactSize
    (exists_grayscaleMember (by simp [grayscaleNames])) (fun _ _ _ => word) text object
    gives.compactSize
  cases s
  simp only [Leaves.overlay] at *
  simp [tolerance, alphaTolerance, compactSize]

/-- What an object makes a configuration of is the overlay of what it gives. -/
theorem text_overlay {w : List Char} {c : FixerConfig} (text : Text w c) (object : ObjectText w ms)
    (gives : Gives l ms) : c = l.overlay := by
  have uri := RecordText.field_eq configMembersRead sets_overrideUri
    (exists_member (by simp [names])) (fun _ _ _ => reads_readString.unique) text object
    gives.overrideUri
  have useOverrides := RecordText.field_eq configMembersRead sets_useOverrides
    (exists_member (by simp [names])) (fun _ _ _ => reads_readBool.unique) text object
    gives.useOverrides
  have autoSilhouette := RecordText.field_eq configMembersRead sets_autoSilhouette
    (exists_member (by simp [names])) (fun _ _ _ => reads_readBool.unique) text object
    gives.autoSilhouette
  obtain ⟨o, told, silhouette⟩ := RecordText.tells configMembersRead sets_silhouette
    (exists_member (by simp [names])) text object
  obtain ⟨o', told', grayscale⟩ := RecordText.tells configMembersRead sets_grayscale
    (exists_member (by simp [names])) text object
  have silhouette' : o.getD {} = l.overlay.silhouette := by
    apply gives.silhouette.getD_eq told
    · apply recordText_empty
      simp [silhouetteShape, Member.ofReader]
    · intro v inner s object gives text
      exact silhouette_eq text object gives
  have grayscale' : o'.getD {} = l.overlay.grayscale := by
    apply gives.grayscale.getD_eq told'
    · apply recordText_empty
      simp [grayscaleShape, Member.ofReader]
    · intro v inner s object gives text
      exact grayscale_eq text object gives
  cases c
  simp only [Leaves.overlay] at *
  rw [uri, useOverrides, autoSilhouette, silhouette, grayscale, silhouette', grayscale']
  rfl

/-- A text that gives each leaf once at most is read as the overlay of what it gives. -/
theorem ofJson_of_partialText {text : String} (gives : PartialText text l) :
    ofJson text = .ok l.overlay := by
  obtain ⟨ms, ⟨w, around, object⟩, gives⟩ := gives
  obtain ⟨c, means⟩ := exists_text object gives
  obtain rfl := text_overlay means object gives
  exact (ofJson_eq_ok_iff around object.isValue).mpr means

/-! ## Other orders, and others beside -/

/-- The settings, and the names known inside of them. -/
def sections : List (String × List String) :=
  [("silhouette", silhouetteNames), ("grayscale", grayscaleNames)]

/-- The same value, or settings with their members in any order and others beside them. -/
def SameValue (name : String) (v v' : List Char) : Prop :=
  v' = v ∨ ∃ known inner inner', (name, known) ∈ sections ∧ ObjectText v inner ∧
    ObjectText v' inner' ∧ Rearranged known inner inner'

def SameMember (m m' : String × List Char) : Prop := m'.1 = m.1 ∧ SameValue m.1 m.2 m'.2

theorem given_same {name : String} {same : List (String × List Char)}
    (members : List.Forall₂ SameMember ms same) :
    List.Forall₂ (SameValue name) (given name ms) (given name same) := by
  induction members with
  | nil => exact .nil
  | @cons m m' ms same first rest ih =>
      obtain ⟨other, v⟩ := m
      obtain ⟨other', v'⟩ := m'
      obtain ⟨rfl, value⟩ : other' = other ∧ SameValue other v v' := first
      by_cases here : other' = name
      · subst here
        rw [given_cons_self, given_cons_self]
        exact .cons value ih
      · rw [given_cons_ne here, given_cons_ne here]
        exact ih

theorem tells_same {α : Type} {language : List Char → α → Prop} {name : String}
    {vs vs' : List (List Char)} {o : Option α} (tells : Tells language vs o)
    (values : List.Forall₂ (SameValue name) vs vs') (leaf : ∀ known, (name, known) ∉ sections) :
    Tells language vs' o := by
  cases tells with
  | nothing =>
      cases values
      exact .nothing
  | once text =>
      cases values with
      | cons first rest =>
          cases rest
          rcases first with rfl | ⟨known, inner, inner', known', -⟩
          · exact .once text
          · exact absurd known' (leaf known)

theorem Inside.perm {holds : List (String × List Char) → Prop} {vs vs' : List (List Char)}
    (inside : Inside holds vs) (perm : vs'.Perm vs) : Inside holds vs' := by
  cases inside with
  | nothing empty =>
      obtain rfl := List.perm_nil.mp perm
      exact .nothing empty
  | object object parts =>
      obtain rfl := List.perm_singleton.mp perm
      exact .object object parts

theorem Inside.same {holds : List (String × List Char) → Prop} {name : String}
    {vs vs' : List (List Char)} (inside : Inside holds vs)
    (values : List.Forall₂ (SameValue name) vs vs')
    (rearrange : ∀ {known inner inner'}, (name, known) ∈ sections →
      Rearranged known inner inner' → holds inner → holds inner') : Inside holds vs' := by
  cases inside with
  | nothing empty =>
      cases values
      exact .nothing empty
  | object object parts =>
      cases values with
      | cons first rest =>
          cases rest
          rcases first with rfl | ⟨known, inner, inner', known', object', object'', other⟩
          · exact .object object parts
          · obtain rfl := object.unique object'
            exact .object object'' (rearrange known' other parts)

theorem GivesSilhouette.rearrange {inner inner' : List (String × List Char)}
    (gives : GivesSilhouette l inner) (rearranged : Rearranged silhouetteNames inner inner') :
    GivesSilhouette l inner' :=
  Tells.rearrange gives rearranged (by simp [silhouetteNames])

theorem GivesGrayscale.rearrange {inner inner' : List (String × List Char)}
    (gives : GivesGrayscale l inner) (rearranged : Rearranged grayscaleNames inner inner') :
    GivesGrayscale l inner' where
  tolerance := gives.tolerance.rearrange rearranged (by simp [grayscaleNames])
  alphaTolerance := gives.alphaTolerance.rearrange rearranged (by simp [grayscaleNames])
  compactSize := gives.compactSize.rearrange rearranged (by simp [grayscaleNames])

theorem Gives.same {same : List (String × List Char)} (gives : Gives l ms)
    (members : List.Forall₂ SameMember ms same) : Gives l same where
  overrideUri := tells_same gives.overrideUri (given_same members) (by simp [sections])
  useOverrides := tells_same gives.useOverrides (given_same members) (by simp [sections])
  autoSilhouette := tells_same gives.autoSilhouette (given_same members) (by simp [sections])
  silhouette := by
    apply gives.silhouette.same (given_same members)
    intro known inner inner' place rearranged gives
    obtain rfl : known = silhouetteNames := by simpa [sections] using place
    exact gives.rearrange rearranged
  grayscale := by
    apply gives.grayscale.same (given_same members)
    intro known inner inner' place rearranged gives
    obtain rfl : known = grayscaleNames := by simpa [sections] using place
    exact gives.rearrange rearranged

theorem Gives.rearrange {ms' : List (String × List Char)} (gives : Gives l ms)
    (rearranged : Rearranged names ms ms') : Gives l ms' where
  overrideUri := gives.overrideUri.rearrange rearranged (by simp [names])
  useOverrides := gives.useOverrides.rearrange rearranged (by simp [names])
  autoSilhouette := gives.autoSilhouette.rearrange rearranged (by simp [names])
  silhouette := gives.silhouette.perm (rearranged.given_perm (by simp [names]))
  grayscale := gives.grayscale.perm (rearranged.given_perm (by simp [names]))

end

end FixerConfig

end StatusIcon
