/-
# StatusIcon.Silhouette.Filter -- white shapes from colourful icons

The silhouette of a bitmap has the same sides and only two colours, white and unset.  The pixels are
visited row by row.  The first one that is not transparent fixes the tone to keep; every pixel of
that tone becomes white, and everything else is unset.

The edge profile is looked at first, because a bitmap too small to be sampled has no silhouette, and
is noted.  Icons on a plate have a rule of their own for the tones to keep (`keeps`), which for now
is the rule of all others.
-/
import StatusIcon.Log
import StatusIcon.Silhouette.EdgeProfile
import StatusIcon.Silhouette.Threshold

set_option autoImplicit false

namespace StatusIcon

namespace Silhouette

/-- A tone is kept beside the first one of the icon. -/
def keeps (profile : EdgeProfile) (first tone : Tone) : Bool :=
  if profile.isPlated then tone == first else tone == first

/-- The colours from here on, after those already found (latest first); `kept` is the first tone,
once a pixel has fixed it. -/
def scan (profile : EdgeProfile) (threshold : Nat) :
    Option Tone → List Pixel → List Pixel → List Pixel
  | _, done, [] => done.reverse
  | kept, done, p :: pixels =>
    match p.tone? threshold with
    | none => scan profile threshold kept (.unset :: done) pixels
    | some tone =>
      let first := kept.getD tone
      let colour := if keeps profile first tone then .white else .unset
      scan profile threshold (some first) (colour :: done) pixels

theorem length_scan (profile : EdgeProfile) (threshold : Nat) (kept : Option Tone)
    (done pixels : List Pixel) :
    (scan profile threshold kept done pixels).length = done.length + pixels.length := by
  induction pixels generalizing kept done with
  | nil => simp [scan]
  | cons p pixels ih =>
    simp only [scan]
    split <;> simp only [ih, List.length_cons] <;> omega

/-- The silhouette at a threshold, for an icon with this profile. -/
def draw (b : Bitmap) (profile : EdgeProfile) (threshold : Nat) : Bitmap :=
  b.recolour (scan profile threshold none [] b.pixels.toList) (by simp [length_scan])

end Silhouette

namespace Bitmap

/-- The silhouette at a ratio. -/
def silhouette (b : Bitmap) (ratio : Single) : Logged (Except IconError Bitmap) :=
  let threshold := b.threshold ratio
  match EdgeProfile.classify b threshold with
  | .error e => pure (.error e)
  | .ok profile => do
    Logged.note .debug ("silhouette " ++ Nat.repr b.width ++ "x" ++ Nat.repr b.height ++
      ": threshold=" ++ Nat.repr threshold ++ " " ++ profile.text)
    return .ok (Silhouette.draw b profile threshold)

end Bitmap

end StatusIcon
