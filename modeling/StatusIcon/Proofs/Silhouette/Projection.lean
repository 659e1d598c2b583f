/-
# StatusIcon.Proofs.Silhouette.Projection -- silhouettes of silhouettes

A silhouette has only two colours, white and unset (`isTwoTone_draw`).  In a bitmap of these two
colours every visible pixel is white, hence all of them have one tone, whichever the threshold is;
so drawing it again leaves it as it is (`draw_of_isTwoTone`), and a silhouette is its own silhouette
at every ratio (`Bitmap.silhouette_silhouette`).  No other bitmap is its own silhouette
(`Bitmap.silhouette_fixed_points`).
-/
import StatusIcon.Proofs.Grayscale.Grey
import StatusIcon.Proofs.Silhouette.Scan

set_option autoImplicit false

namespace StatusIcon

/-- Every pixel is white or unset. -/
def Bitmap.IsTwoTone (b : Bitmap) : Prop := ∀ p ∈ b.pixels.toList, p = .white ∨ p = .unset

theorem Bitmap.eq_of_toList {a b : Bitmap} (width : a.width = b.width)
    (height : a.height = b.height) (pixels : a.pixels.toList = b.pixels.toList) : a = b := by
  obtain ⟨w, h, items, size⟩ := a
  obtain rfl : w = b.width := width
  obtain rfl : h = b.height := height
  obtain rfl : items = b.pixels := Array.ext' pixels
  rfl

theorem Bitmap.IsTwoTone.isGrey {b : Bitmap} (shape : b.IsTwoTone) : b.IsGrey := by
  intro p member
  obtain rfl | rfl := shape p member
  · exact ⟨rfl, rfl⟩
  · exact ⟨rfl, rfl⟩

namespace Silhouette

theorem isTwoTone_draw (b : Bitmap) (profile : EdgeProfile) (threshold : Nat) :
    (draw b profile threshold).IsTwoTone := by
  intro p member
  rw [pixels_draw] at member
  obtain ⟨q, -, rfl⟩ := List.mem_map.mp member
  exact paint_eq_white_or_unset _ _ q

theorem tone?_white (threshold : Nat) :
    Pixel.white.tone? threshold = some (Tone.ofSum threshold 765) := rfl

theorem tone?_unset (threshold : Nat) : Pixel.unset.tone? threshold = none := rfl

/-- The first tone of white and unset pixels is the one of white. -/
theorem firstTone?_of_white_mem {threshold : Nat} {pixels : List Pixel}
    (shape : ∀ p ∈ pixels, p = .white ∨ p = .unset) (white : Pixel.white ∈ pixels) :
    firstTone? threshold pixels = some (Tone.ofSum threshold 765) := by
  induction pixels with
  | nil => cases white
  | cons p pixels ih =>
      obtain rfl | rfl := shape p List.mem_cons_self
      · exact List.findSome?_cons_of_isSome rfl
      · have later : Pixel.white ∈ pixels := List.mem_of_ne_of_mem (by decide) white
        have rest := ih (fun q member => shape q (List.mem_cons_of_mem _ member)) later
        exact (List.findSome?_cons_of_isNone rfl).trans rest

theorem draw_of_isTwoTone {b : Bitmap} (shape : b.IsTwoTone) (profile : EdgeProfile)
    (threshold : Nat) : draw b profile threshold = b := by
  refine Bitmap.eq_of_toList rfl rfl ?_
  rw [pixels_draw]
  conv => rhs; rw [← List.map_id b.pixels.toList]
  refine List.map_congr_left fun p member => ?_
  obtain rfl | rfl := shape p member
  · rw [paint_of_some (tone?_white threshold), firstTone?_of_white_mem shape member]
    exact if_pos rfl
  · exact paint_of_none (tone?_unset threshold) _

end Silhouette

namespace Bitmap

theorem value_silhouette_of_isTwoTone {b : Bitmap} (shape : b.IsTwoTone)
    {samples : EdgeSamples b.width b.height}
    (located : EdgeSamples.locate b.width b.height = .ok samples) (ratio : Single) :
    (b.silhouette ratio).value = .ok b := by
  rw [value_silhouette, located]
  exact congrArg Except.ok (Silhouette.draw_of_isTwoTone shape _ _)

/-- A silhouette has two colours, and is its own silhouette at every ratio. -/
theorem silhouette_silhouette {b drawn : Bitmap} {ratio : Single}
    (draws : (b.silhouette ratio).value = .ok drawn) :
    drawn.IsTwoTone ∧ ∀ other, (drawn.silhouette other).value = .ok drawn := by
  rw [value_silhouette] at draws
  obtain ⟨samples, located, rfl⟩ := map_eq_ok_iff.mp draws
  have shape := Silhouette.isTwoTone_draw b (.ofPixels (b.threshold ratio) samples.pixels)
    (b.threshold ratio)
  exact ⟨shape, fun other => value_silhouette_of_isTwoTone shape located other⟩

/-- **Silhouettes are the fixed points.**  A bitmap whose edges can be sampled has a silhouette of
the two colours, which is drawn again as it is, at whatever ratio.  And a bitmap is its own
silhouette exactly when its edges can be sampled and it has no other colours. -/
theorem silhouette_fixed_points (b : Bitmap) (first second : Single) :
    (∀ samples, EdgeSamples.locate b.width b.height = .ok samples →
      ∃ drawn, (b.silhouette (Ratio.clamp first)).value = .ok drawn ∧ drawn.IsTwoTone ∧
        (drawn.silhouette (Ratio.clamp second)).value = .ok drawn) ∧
    ((b.silhouette (Ratio.clamp first)).value = .ok b ↔
      (∃ samples, EdgeSamples.locate b.width b.height = .ok samples) ∧ b.IsTwoTone) := by
  constructor
  · intro samples located
    have draws := b.value_silhouette (Ratio.clamp first)
    rw [located] at draws
    obtain ⟨shape, fixed⟩ := silhouette_silhouette draws
    exact ⟨_, draws, shape, fixed _⟩
  · constructor
    · intro fixed
      obtain ⟨shape, -⟩ := silhouette_silhouette fixed
      rw [value_silhouette] at fixed
      obtain ⟨samples, located, -⟩ := map_eq_ok_iff.mp fixed
      exact ⟨⟨samples, located⟩, shape⟩
    · rintro ⟨⟨samples, located⟩, shape⟩
      exact value_silhouette_of_isTwoTone shape located _

/-- A single column: yellow, hidden red, blue. -/
def column : Bitmap :=
  ⟨1, 3, #[⟨255, 255, 0, 255⟩, ⟨255, 0, 0, 0⟩, ⟨0, 0, 255, 255⟩], rfl⟩

theorem silhouette_fixed_points_column :
    EdgeSamples.locate 1 3 = .ok ⟨1, 2, 2, 0⟩ ∧
      ∃ drawn, (column.silhouette (Ratio.clamp Ratio.default)).value = .ok drawn ∧
        drawn.IsTwoTone ∧ (drawn.silhouette (Ratio.clamp .nan)).value = .ok drawn := by
  have located : EdgeSamples.locate 1 3 = .ok ⟨1, 2, 2, 0⟩ := rfl
  exact ⟨located, (silhouette_fixed_points column Ratio.default .nan).1 _ located⟩

end Bitmap

end StatusIcon
