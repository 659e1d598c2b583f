/-
# StatusIcon.Png.Interlace -- seven passes over an image

An interlaced file holds seven smaller images.  Each pass takes the pixels of a grid, from a first
column and row on in steps; together the grids hold every pixel once.  A pass without a pixel is
left out.
-/

set_option autoImplicit false

namespace StatusIcon.Png

/-- A grid of pixels: where it begins and its steps. -/
structure Pass where
  left : Nat
  top : Nat
  across : Nat
  down : Nat
  deriving DecidableEq, Repr

namespace Pass

def all : List Pass :=
  [⟨0, 0, 8, 8⟩, ⟨4, 0, 8, 8⟩, ⟨0, 4, 4, 8⟩, ⟨2, 0, 4, 4⟩, ⟨0, 2, 2, 4⟩, ⟨1, 0, 2, 2⟩, ⟨0, 1, 1, 2⟩]

/-- The columns of the grid inside an image of the given width. -/
def width (p : Pass) (width : Nat) : Nat := (width - p.left + p.across - 1) / p.across

def height (p : Pass) (height : Nat) : Nat := (height - p.top + p.down - 1) / p.down

/-- The place in the grid of a pixel of the image, if the grid holds it. -/
def place? (p : Pass) (x y : Nat) : Option (Nat × Nat) :=
  if p.left ≤ x && p.top ≤ y && (x - p.left) % p.across == 0 && (y - p.top) % p.down == 0 then
    some ((x - p.left) / p.across, (y - p.top) / p.down)
  else none

end Pass

end StatusIcon.Png
