/-
# StatusIcon.Proofs.Silhouette.Profile -- the four pixels behind a profile

A profile is made of four pixels.  In a bitmap of three columns and two rows or more they stand at
known places (`Edge.place`), one in each of the four offsets divided into rows, so two bitmaps that
agree there have one profile, whatever else they show.

Every pixel is of one of three kinds: it is transparent, or has one of the two tones
(`Pixel.SameKind`).  A flag of a profile tells that all samples are of one kind (`tells_ofPixels`).
So at most one of the flags is up, and none is exactly when two samples are of different kinds
(`EdgeProfile.classify_sampled`).
-/
import StatusIcon.Proofs.Silhouette.Pixels

set_option autoImplicit false

namespace StatusIcon

/-! ## Kinds of pixels -/

/-- Both pixels are transparent, both are dark or both are bright. -/
def Pixel.SameKind (threshold : Nat) (p q : Pixel) : Prop :=
  p.isTransparent = q.isTransparent ∧
    (p.isTransparent = false → (p.channelSum ≤ 3 * threshold ↔ q.channelSum ≤ 3 * threshold))

theorem Pixel.sameKind_iff (threshold : Nat) (p q : Pixel) :
    p.SameKind threshold q ↔ p.tone? threshold = q.tone? threshold := by
  unfold SameKind tone?
  cases p.isTransparent with
  | true => cases q.isTransparent <;> simp
  | false =>
      cases q.isTransparent with
      | true => simp
      | false => simp [Tone.ofSum_eq_iff]

namespace EdgeProfile

/-- The flag for samples of one kind: of a tone, or of none. -/
def tells (profile : EdgeProfile) : Option Tone → Bool
  | some .bright => profile.colorReversal
  | some .dark => profile.hasPadding
  | none => profile.transparent

variable {threshold : Nat} {samples : List Pixel}

theorem tells_ofPixels (kind : Option Tone) :
    (ofPixels threshold samples).tells kind = true ↔ ∀ p ∈ samples, p.tone? threshold = kind := by
  cases kind with
  | none => simp [tells, ofPixels, Pixel.tone?_eq_none_iff]
  | some tone =>
      cases tone with
      | dark => simp [tells, ofPixels, Pixel.isDark_iff]
      | bright => simp [tells, ofPixels, Pixel.isBright_iff]

/-- At most one flag is up. -/
theorem tells_unique {kind other : Option Tone} (sampled : samples ≠ [])
    (first : (ofPixels threshold samples).tells kind = true)
    (second : (ofPixels threshold samples).tells other = true) : kind = other := by
  obtain ⟨p, member⟩ := List.exists_mem_of_ne_nil samples sampled
  rw [tells_ofPixels] at first second
  rw [← first p member, second p member]

/-- No flag is up exactly if there are samples of different kinds. -/
theorem tells_nothing_iff (sampled : samples ≠ []) :
    (∀ kind, (ofPixels threshold samples).tells kind = false) ↔
      ∃ p ∈ samples, ∃ q ∈ samples, ¬ p.SameKind threshold q := by
  constructor
  · intro silent
    by_contra uniform
    push Not at uniform
    obtain ⟨p, member⟩ := List.exists_mem_of_ne_nil samples sampled
    -- all samples are of the kind of `p`, so its flag is up
    have up : (ofPixels threshold samples).tells (p.tone? threshold) = true := by
      rw [tells_ofPixels]
      intro q other
      exact (Pixel.sameKind_iff threshold q p).mp (uniform q other p member)
    rw [silent] at up
    cases up
  · rintro ⟨p, here, q, there, differ⟩ kind
    by_contra up
    rw [Bool.not_eq_false, tells_ofPixels] at up
    rw [Pixel.sameKind_iff, up p here, up q there] at differ
    exact differ rfl

end EdgeProfile

/-! ## Places of the samples -/

/-- The column and the row of an edge's sample in a bitmap that is not too narrow. -/
def Edge.place (edge : Edge) (width height : Nat) : Nat × Nat :=
  match edge with
  | .top => (width / 2, 1)
  | .bottom => ((width + 1) / 2, height - 2)
  | .left => (2, height / 2 - 1)
  | .right => (width - 1, height / 2 - 1)

theorem Edge.place_inside {width height : Nat} (wide : 3 ≤ width) (tall : 2 ≤ height)
    (edge : Edge) : (edge.place width height).1 < width ∧ (edge.place width height).2 < height := by
  cases edge <;> simp only [place] <;> omega

/-- The offset of an edge's sample, divided into rows. -/
theorem Edge.offset_eq_place {width height : Nat} (wide : 3 ≤ width) (tall : 2 ≤ height)
    (edge : Edge) :
    edge.offset width height =
      (((edge.place width height).2 * width + (edge.place width height).1 : Nat) : Int) := by
  have half : (height / 2 - 1) * width + width = height / 2 * width := by
    rw [← Nat.succ_mul]
    congr 1
    omega
  have whole : (height - 2) * width + 2 * width = width * height := by
    rw [← Nat.add_mul, Nat.sub_add_cancel tall, Nat.mul_comm]
  have halfCast : (height : Int) / 2 * width = ((height / 2 * width : Nat) : Int) := by simp
  have wholeCast : (width : Int) * height = ((width * height : Nat) : Int) := by simp
  cases edge with
  | top =>
      simp only [offset, place]
      omega
  | bottom =>
      simp only [offset, place]
      omega
  | left =>
      simp only [offset, place]
      omega
  | right =>
      simp only [offset, place]
      omega

namespace Bitmap

variable (b : Bitmap)

/-- The pixel with an offset is the one at each place that has this offset. -/
theorem pixel?_of_offset {x y : Nat} (inside : x < b.width ∧ y < b.height)
    {i : Fin (b.width * b.height)} (here : b.offset x y = i) :
    b.pixel? x y = some b.pixels[i.cast b.size_eq.symm] := by
  rw [pixel?, if_pos inside, here]
  simp

/-- The pixel at the place of an edge's sample. -/
def edgePixel? (edge : Edge) : Option Pixel :=
  b.pixel? (edge.place b.width b.height).1 (edge.place b.width b.height).2

variable {b}

theorem edgePixel?_eq (wide : 3 ≤ b.width) (tall : 2 ≤ b.height) {edge : Edge}
    {i : Fin (b.width * b.height)} (located : (i : Int) = edge.offset b.width b.height) :
    b.edgePixel? edge = some b.pixels[i.cast b.size_eq.symm] := by
  refine pixel?_of_offset b (edge.place_inside wide tall) ?_
  rw [edge.offset_eq_place wide tall] at located
  exact (Int.ofNat_inj.mp located).symm

end Bitmap

/-- The sample of an edge. -/
def EdgeSamples.sample {width height : Nat} (s : EdgeSamples width height) :
    Edge → Fin (width * height)
  | .top => s.top
  | .bottom => s.bottom
  | .left => s.left
  | .right => s.right

namespace EdgeSamples

variable {width height : Nat} {s : EdgeSamples width height}

theorem sample_eq_offset (located : locate width height = .ok s) (edge : Edge) :
    (s.sample edge : Int) = edge.offset width height := by
  obtain ⟨top, bottom, left, right⟩ := locate_eq_ok_iff.mp located
  cases edge with
  | top => exact top
  | bottom => exact bottom
  | left => exact left
  | right => exact right

end EdgeSamples

namespace EdgeProfile

open EdgeSamples

variable {b : Bitmap} {threshold : Nat}

theorem classify_eq_ok_iff {profile : EdgeProfile} :
    classify b threshold = .ok profile ↔
      ∃ samples, locate b.width b.height = .ok samples ∧
        ofPixels threshold samples.pixels = profile := by
  unfold classify
  cases locate b.width b.height with
  | error e => simp
  | ok samples => simp

/-- In a bitmap that is not too narrow, the pixels at the four places are the ones that count. -/
theorem exists_classify (wide : 3 ≤ b.width) (tall : 2 ≤ b.height) (threshold : Nat) :
    ∃ sampled : Edge → Pixel, (∀ edge, b.edgePixel? edge = some (sampled edge)) ∧
      classify b threshold = .ok (ofPixels threshold
        [sampled .top, sampled .bottom, sampled .left, sampled .right]) := by
  obtain ⟨samples, located⟩ := Fits.locate (.inl ⟨Nat.le_of_succ_le wide, tall⟩)
  refine ⟨fun edge => b.pixels[(samples.sample edge).cast b.size_eq.symm], fun edge => ?_,
    classify_eq_ok_iff.mpr ⟨samples, located, rfl⟩⟩
  exact Bitmap.edgePixel?_eq wide tall (sample_eq_offset located edge)

theorem classify_eq_of_edgePixels {other : Bitmap} {threshold : Nat} (wide : 3 ≤ b.width)
    (tall : 2 ≤ b.height) (width : other.width = b.width) (height : other.height = b.height)
    (agree : ∀ edge, other.edgePixel? edge = b.edgePixel? edge) :
    classify other threshold = classify b threshold := by
  obtain ⟨sampled, shown, classified⟩ := exists_classify wide tall threshold
  obtain ⟨sampled', shown', classified'⟩ :=
    exists_classify (b := other) (width ▸ wide) (height ▸ tall) threshold
  have same (edge : Edge) : sampled' edge = sampled edge := by
    apply Option.some.inj
    rw [← shown edge, ← shown' edge, agree edge]
  rw [classified, classified', same, same, same, same]

/-- **A profile is made of four pixels and raises one flag at most.**  A bitmap of three columns and
two rows or more has a profile.  It is made of the pixels at four places, so another bitmap of the
same sides that agrees there has the same one.  Whenever a bitmap has a profile, each sample is the
pixel in the row and the column that its offset is divided into, no two flags are up, and none is
exactly if two of the samples are of different kinds. -/
theorem classify_sampled (b : Bitmap) (threshold : Nat) :
    (3 ≤ b.width → 2 ≤ b.height →
      (∃ top bottom left right,
        b.pixel? (b.width / 2) 1 = some top ∧
        b.pixel? ((b.width + 1) / 2) (b.height - 2) = some bottom ∧
        b.pixel? 2 (b.height / 2 - 1) = some left ∧
        b.pixel? (b.width - 1) (b.height / 2 - 1) = some right ∧
        classify b threshold = .ok (ofPixels threshold [top, bottom, left, right])) ∧
      ∀ other : Bitmap, other.width = b.width → other.height = b.height →
        (∀ edge, other.edgePixel? edge = b.edgePixel? edge) →
        classify other threshold = classify b threshold) ∧
    ∀ profile, classify b threshold = .ok profile →
      ¬ (profile.colorReversal = true ∧ profile.hasPadding = true) ∧
      ¬ (profile.colorReversal = true ∧ profile.transparent = true) ∧
      ¬ (profile.hasPadding = true ∧ profile.transparent = true) ∧
      ∃ samples, locate b.width b.height = .ok samples ∧
        samples.toList.map (fun i => b.pixel? (i.val % b.width) (i.val / b.width)) =
          samples.pixels.map some ∧
        ((profile.colorReversal = false ∧ profile.hasPadding = false ∧
            profile.transparent = false) ↔
          ∃ p ∈ samples.pixels, ∃ q ∈ samples.pixels, ¬ p.SameKind threshold q) := by
  constructor
  · intro wide tall
    refine ⟨?_, fun other width height agree =>
      classify_eq_of_edgePixels wide tall width height agree⟩
    obtain ⟨sampled, shown, classified⟩ := exists_classify wide tall threshold
    exact ⟨_, _, _, _, shown .top, shown .bottom, shown .left, shown .right, classified⟩
  · intro profile classified
    obtain ⟨samples, located, rfl⟩ := classify_eq_ok_iff.mp classified
    have four : samples.pixels ≠ [] := List.cons_ne_nil _ _
    refine ⟨?_, ?_, ?_, samples, located, ?_, ?_⟩
    · rintro ⟨bright, dark⟩
      have same : some Tone.bright = some .dark := tells_unique four bright dark
      cases same
    · rintro ⟨bright, clear⟩
      have same : some Tone.bright = none := tells_unique four bright clear
      cases same
    · rintro ⟨dark, clear⟩
      have same : some Tone.dark = none := tells_unique four dark clear
      cases same
    · simp only [pixels, List.map_map]
      refine List.map_congr_left fun i _ => ?_
      obtain ⟨inside, here⟩ := Bitmap.offset_div_mod i.isLt
      exact b.pixel?_of_offset inside here
    · rw [← tells_nothing_iff four]
      constructor
      · rintro ⟨bright, dark, clear⟩ kind
        cases kind with
        | none => exact clear
        | some tone =>
            cases tone with
            | dark => exact dark
            | bright => exact bright
      · intro silent
        exact ⟨silent (some .bright), silent (some .dark), silent none⟩

/-- A white and a dark sample; the other four pixels do not count. -/
def shutter : Bitmap :=
  ⟨3, 2, #[⟨0, 0, 0, 255⟩, ⟨255, 0, 0, 9⟩, .white, .unset, ⟨10, 10, 10, 255⟩, .unset], rfl⟩

def otherShutter : Bitmap :=
  ⟨3, 2, #[⟨0, 99, 0, 255⟩, .unset, .white, .white, ⟨10, 10, 10, 255⟩, ⟨1, 2, 3, 0⟩], rfl⟩

theorem classify_sampled_shutter :
    shutter ≠ otherShutter ∧ classify otherShutter 100 = classify shutter 100 ∧
      classify shutter 100 = .ok ⟨false, false, false⟩ ∧
      ∃ samples, EdgeSamples.locate 3 2 = .ok samples ∧
        ∃ p ∈ samples.pixels (b := shutter), ∃ q ∈ samples.pixels (b := shutter),
          ¬ p.SameKind 100 q := by
  obtain ⟨places, flags⟩ := classify_sampled shutter 100
  have agree : ∀ edge, otherShutter.edgePixel? edge = shutter.edgePixel? edge := by
    intro edge
    cases edge <;> rfl
  have classified : classify shutter 100 = .ok ⟨false, false, false⟩ := rfl
  obtain ⟨-, -, -, samples, located, -, silent⟩ := flags _ classified
  exact ⟨by decide, (places (by decide) (by decide)).2 otherShutter rfl rfl agree, classified,
    samples, located, silent.mp ⟨rfl, rfl, rfl⟩⟩

end EdgeProfile

end StatusIcon
