/-
# StatusIcon.Silhouette.EdgeProfile -- what the edges say about the background

A pixel that is not transparent has one of two tones: *dark* when its channel sum is at most three
times the threshold, and else *bright*.  The four samples of a bitmap say something only when they
are of one kind: all bright is a light plate behind the glyph, all dark is a dark plate around it,
and all transparent is no plate at all.
-/
import StatusIcon.Silhouette.EdgeSamples

set_option autoImplicit false

namespace StatusIcon

inductive Tone where
  | dark
  | bright
  deriving DecidableEq, Repr

/-- The tone of a channel sum. -/
def Tone.ofSum (threshold sum : Nat) : Tone := if sum ≤ 3 * threshold then .dark else .bright

/-- The tone of a pixel that is not transparent. -/
def Pixel.tone? (threshold : Nat) (p : Pixel) : Option Tone :=
  if p.isTransparent then none else some (Tone.ofSum threshold p.channelSum)

/-- Not transparent, and above the threshold. -/
def Pixel.isBright (threshold : Nat) (p : Pixel) : Bool :=
  !p.isTransparent && decide (3 * threshold < p.channelSum)

/-- Not transparent, and at the threshold or below. -/
def Pixel.isDark (threshold : Nat) (p : Pixel) : Bool :=
  !p.isTransparent && decide (p.channelSum ≤ 3 * threshold)

structure EdgeProfile where
  colorReversal : Bool
  hasPadding : Bool
  transparent : Bool
  deriving DecidableEq, Repr

namespace EdgeProfile

/-- The profile of sampled pixels. -/
def ofPixels (threshold : Nat) (samples : List Pixel) : EdgeProfile where
  colorReversal := samples.all fun p => p.isBright threshold
  hasPadding := samples.all fun p => p.isDark threshold
  transparent := samples.all fun p => p.isTransparent

/-- The profile of a bitmap, unless it is too small to be sampled. -/
def classify (b : Bitmap) (threshold : Nat) : Except IconError EdgeProfile :=
  match EdgeSamples.locate b.width b.height with
  | .ok samples => .ok (ofPixels threshold samples.pixels)
  | .error e => .error e

/-- The icon sits on a plate, light or dark. -/
def isPlated (p : EdgeProfile) : Bool := p.hasPadding || p.colorReversal

def flag (b : Bool) : String := if b then "true" else "false"

def text (p : EdgeProfile) : String :=
  "EdgeProfile \x7b color_reversal: " ++ flag p.colorReversal ++ ", has_padding: " ++
    flag p.hasPadding ++ ", transparent: " ++ flag p.transparent ++ " \x7d"

end EdgeProfile

end StatusIcon
