/-
# StatusIcon.Proofs.Silhouette.Edges -- which bitmaps can be sampled

The four samples of a bitmap are there when it has two columns and two rows, or one column and three
rows (`EdgeSamples.Fits`), and in no other case (`exists_locate_error`).  With no column, or with
less than two rows, the top sample is the first one outside; one column of two rows is left, where
it is the left one.  So the bottom and the right sample are never the first one outside
(`EdgeSamples.locate_domain`).
-/
import StatusIcon.Proofs.Results
import StatusIcon.Silhouette.EdgeSamples

set_option autoImplicit false

namespace StatusIcon

/-- The offset of an edge's sample is the one of a pixel. -/
def Edge.Inside (edge : Edge) (width height : Nat) : Prop :=
  0 ≤ edge.offset width height ∧ edge.offset width height < ((width * height : Nat) : Int)

theorem Edge.locate_of_inside {edge : Edge} {width height : Nat}
    (inside : edge.Inside width height) : ∃ offset, edge.locate width height = .ok offset :=
  ⟨_, dif_pos inside⟩

theorem Edge.locate_of_not_inside {edge : Edge} {width height : Nat}
    (outside : ¬ edge.Inside width height) :
    edge.locate width height =
      .error (.sampleOutOfBounds edge (edge.offset width height) width height) :=
  dif_neg outside

theorem Edge.locate_eq_ok_iff {edge : Edge} {width height : Nat} {i : Fin (width * height)} :
    edge.locate width height = .ok i ↔ (i : Int) = edge.offset width height := by
  have below := i.isLt
  by_cases inside : edge.Inside width height
  · have located : edge.locate width height = .ok ⟨(edge.offset width height).toNat, _⟩ :=
      dif_pos inside
    rw [located, Except.ok.injEq, Fin.ext_iff]
    unfold Inside at inside
    show (edge.offset width height).toNat = i.val ↔ _
    omega
  · rw [locate_of_not_inside inside]
    unfold Inside at inside
    simp only [reduceCtorEq, false_iff]
    omega

namespace EdgeSamples

/-- Two columns and two rows, or one column and three rows. -/
def Fits (width height : Nat) : Prop := (2 ≤ width ∧ 2 ≤ height) ∨ (width = 1 ∧ 3 ≤ height)

/-- In the products that the offsets are made of, there is at least one row above the middle and at
least one below. -/
theorem half_rows (width : Nat) {height : Nat} (tall : 2 ≤ height) :
    width ≤ height / 2 * width ∧ height / 2 * width + width ≤ width * height := by
  have above : 1 ≤ height / 2 := by omega
  have below : height / 2 + 1 ≤ height := by omega
  constructor
  · calc width = 1 * width := (Nat.one_mul width).symm
      _ ≤ height / 2 * width := Nat.mul_le_mul_right _ above
  · calc height / 2 * width + width = (height / 2 + 1) * width := (Nat.succ_mul _ _).symm
      _ ≤ height * width := Nat.mul_le_mul_right _ below
      _ = width * height := Nat.mul_comm _ _

theorem Fits.inside {width height : Nat} (fits : Fits width height) (edge : Edge) :
    edge.Inside width height := by
  have wide : 1 ≤ width := by
    unfold Fits at fits
    omega
  have tall : 2 ≤ height := by
    unfold Fits at fits
    omega
  obtain ⟨above, below⟩ := half_rows width tall
  have half : ((height / 2 * width : Nat) : Int) = (height : Int) / 2 * width := by simp
  have product : ((width * height : Nat) : Int) = (width : Int) * height := by simp
  cases edge with
  | top =>
      simp only [Edge.Inside, Edge.offset]
      omega
  | bottom =>
      simp only [Edge.Inside, Edge.offset]
      omega
  | left =>
      simp only [Edge.Inside, Edge.offset]
      -- in a single column the offset is just past the middle row, which is not the last one
      rcases fits with ⟨columns, -⟩ | ⟨rfl, rows⟩
      · omega
      · omega
  | right =>
      simp only [Edge.Inside, Edge.offset]
      omega

theorem exists_locate_of_inside {width height : Nat}
    (inside : ∀ edge : Edge, edge.Inside width height) :
    ∃ samples, locate width height = .ok samples := by
  obtain ⟨top, first⟩ := Edge.locate_of_inside (inside .top)
  obtain ⟨bottom, second⟩ := Edge.locate_of_inside (inside .bottom)
  obtain ⟨left, third⟩ := Edge.locate_of_inside (inside .left)
  obtain ⟨right, fourth⟩ := Edge.locate_of_inside (inside .right)
  refine ⟨⟨top, bottom, left, right⟩, ?_⟩
  simp only [locate, first, second, third, fourth]
  rfl

theorem Fits.locate {width height : Nat} (fits : Fits width height) :
    ∃ samples, EdgeSamples.locate width height = .ok samples :=
  exists_locate_of_inside fits.inside

/-- Samples that are located are the ones with the four offsets. -/
theorem locate_eq_ok_iff {width height : Nat} {s : EdgeSamples width height} :
    locate width height = .ok s ↔
      (s.top : Int) = Edge.top.offset width height ∧
        (s.bottom : Int) = Edge.bottom.offset width height ∧
        (s.left : Int) = Edge.left.offset width height ∧
        (s.right : Int) = Edge.right.offset width height := by
  simp only [locate, bind_eq_ok_iff, Edge.locate_eq_ok_iff]
  constructor
  · rintro ⟨top, first, bottom, second, left, third, right, fourth, made⟩
    cases made
    exact ⟨first, second, third, fourth⟩
  · rintro ⟨first, second, third, fourth⟩
    exact ⟨_, first, _, second, _, third, _, fourth, rfl⟩

/-- With no column, or with less than two rows, one and a half rows are past the end. -/
theorem locate_of_flat {width height : Nat} (flat : width = 0 ∨ height ≤ 1) :
    locate width height =
      .error (.sampleOutOfBounds .top (Edge.top.offset width height) width height) := by
  have outside : ¬ Edge.top.Inside width height := by
    simp only [Edge.Inside, Edge.offset]
    rcases flat with rfl | low
    · simp
    · have short : width * height ≤ width := by
        calc width * height ≤ width * 1 := Nat.mul_le_mul_left _ low
          _ = width := Nat.mul_one _
      omega
  simp only [locate, Edge.locate_of_not_inside outside]
  rfl

theorem locate_one_two : locate 1 2 = .error (.sampleOutOfBounds .left 2 1 2) := rfl

theorem not_fits_iff (width height : Nat) :
    ¬ Fits width height ↔ width = 0 ∨ height ≤ 1 ∨ (width = 1 ∧ height = 2) := by
  unfold Fits
  omega

theorem exists_locate_error {width height : Nat} (small : ¬ Fits width height) :
    ∃ edge offset, locate width height = .error (.sampleOutOfBounds edge offset width height) := by
  rw [not_fits_iff] at small
  rcases small with narrow | low | ⟨rfl, rfl⟩
  · exact ⟨_, _, locate_of_flat (.inl narrow)⟩
  · exact ⟨_, _, locate_of_flat (.inr low)⟩
  · exact ⟨_, _, locate_one_two⟩

theorem exists_locate_iff {width height : Nat} :
    (∃ samples, locate width height = .ok samples) ↔ Fits width height := by
  constructor
  · rintro ⟨samples, located⟩
    by_contra small
    obtain ⟨edge, offset, failed⟩ := exists_locate_error small
    rw [located] at failed
    cases failed
  · exact Fits.locate

theorem fits_iff_inside {width height : Nat} :
    Fits width height ↔ ∀ edge : Edge, edge.Inside width height := by
  constructor
  · exact Fits.inside
  · intro inside
    exact exists_locate_iff.mp (exists_locate_of_inside inside)

/-- The errors that can be reported, each with the sizes for which it is. -/
theorem locate_eq_error_iff {width height : Nat} {e : IconError} :
    locate width height = .error e ↔
      ((width = 1 ∧ height = 2) ∧ e = .sampleOutOfBounds .left 2 width height) ∨
        ((width = 0 ∨ height ≤ 1) ∧
          e = .sampleOutOfBounds .top ((width * 3 / 2 : Nat) : Int) width height) := by
  have top : Edge.top.offset width height = ((width * 3 / 2 : Nat) : Int) := by
    simp [Edge.offset]
  constructor
  · intro failed
    by_cases fits : Fits width height
    · obtain ⟨samples, located⟩ := fits.locate
      rw [located] at failed
      cases failed
    rw [not_fits_iff, ← or_assoc] at fits
    rcases fits with flat | ⟨rfl, rfl⟩
    · rw [locate_of_flat flat, top, Except.error.injEq] at failed
      exact .inr ⟨flat, failed.symm⟩
    · rw [locate_one_two, Except.error.injEq] at failed
      exact .inl ⟨⟨rfl, rfl⟩, failed.symm⟩
  · rintro (⟨⟨rfl, rfl⟩, rfl⟩ | ⟨flat, rfl⟩)
    · exact locate_one_two
    · rw [locate_of_flat flat, top]

/-- **Which bitmaps can be sampled, and where.**  The four samples are located exactly when the
bitmap has two columns and two rows or one column and three rows, which is when the four offsets
are offsets of pixels; they are the samples at these offsets.  In every other case the error names
the top sample, one and a half rows from the beginning, but for one column of two rows, where it
names the left one; it never names the bottom or the right one. -/
theorem locate_domain (width height : Nat) :
    ((∃ s, locate width height = .ok s) ↔ (2 ≤ width ∧ 2 ≤ height) ∨ (width = 1 ∧ 3 ≤ height)) ∧
    ((∃ s, locate width height = .ok s) ↔ ∀ edge : Edge,
      0 ≤ edge.offset width height ∧ edge.offset width height < (width : Int) * height) ∧
    (∀ s, locate width height = .ok s ↔
      (s.top : Int) = (width : Int) * 3 / 2 ∧
        (s.bottom : Int) = (width : Int) * height - (width : Int) * 3 / 2 ∧
        (s.left : Int) = (height : Int) / 2 * width - width + 2 ∧
        (s.right : Int) = (height : Int) / 2 * width - 1) ∧
    (∀ e, locate width height = .error e ↔
      ((width = 1 ∧ height = 2) ∧ e = .sampleOutOfBounds .left 2 width height) ∨
        ((width = 0 ∨ height ≤ 1) ∧
          e = .sampleOutOfBounds .top ((width * 3 / 2 : Nat) : Int) width height)) ∧
    ∀ edge offset w h, locate width height = .error (.sampleOutOfBounds edge offset w h) →
      edge ≠ .bottom ∧ edge ≠ .right := by
  refine ⟨exists_locate_iff, ?_, fun s => locate_eq_ok_iff, fun e => locate_eq_error_iff, ?_⟩
  · rw [exists_locate_iff, fits_iff_inside]
    simp only [Edge.Inside, Int.natCast_mul]
  · intro edge offset w h failed
    rcases locate_eq_error_iff.mp failed with ⟨-, named⟩ | ⟨-, named⟩
    · cases named
      exact ⟨by decide, by decide⟩
    · cases named
      exact ⟨by decide, by decide⟩

theorem locate_domain_slivers :
    locate 1 2 = .error (.sampleOutOfBounds .left 2 1 2) ∧ Edge.left ≠ .bottom ∧
      locate 5 1 = .error (.sampleOutOfBounds .top 7 5 1) ∧ Edge.top ≠ .right := by
  obtain ⟨-, -, -, errors, named⟩ := locate_domain 1 2
  obtain ⟨-, -, -, errors', named'⟩ := locate_domain 5 1
  have left : locate 1 2 = .error (.sampleOutOfBounds .left 2 1 2) :=
    (errors _).mpr (.inl ⟨⟨rfl, rfl⟩, rfl⟩)
  have top : locate 5 1 = .error (.sampleOutOfBounds .top 7 5 1) :=
    (errors' _).mpr (.inr ⟨.inr (by decide), rfl⟩)
  exact ⟨left, (named _ _ _ _ left).1, top, (named' _ _ _ _ top).2⟩

end EdgeSamples

end StatusIcon
