/-
# StatusIcon.Png.Reader -- reading an image file

A file is read from front to back, and the first thing wrong decides how it is refused: bytes that
end too early are an input failure, everything else makes the file malformed.

* Before the image data stand the header, which comes first, and perhaps a palette and a
  transparency.  A second header or palette, or another chunk that a reader must understand, is
  malformed; any other chunk is passed over, and so is a transparency that does not fit the colours.
* The image data are the chunks of that name that follow each other.  Together they hold one
  compressed stream; the chunk behind them must have begun, and what comes after its name is not
  read.
* Rows are taken from the stream as far as it goes.  A stream that is broken off is only noticed
  where a row is missing or, with all rows there, at the end.

An image whose pixels would take too many bytes is refused before its data are read.
-/
import StatusIcon.Deflate.Zlib
import StatusIcon.Png.Chunk
import StatusIcon.Png.Interlace
import StatusIcon.Png.Sample
import StatusIcon.Png.Scanline

set_option autoImplicit false

namespace StatusIcon.Png

open Image (Error)

/-! ## Before the image data -/

/-- What stands before the image data. -/
structure Head where
  header : Header
  palette : Option (List UInt8)
  transparency : Option Transparency

namespace Head

/-- A transparency chunk in the light of what came before it; one that does not fit changes
nothing.  Samples of fewer than sixteen bits stand in the second of two bytes. -/
def addTransparency (h : Head) (data : List UInt8) : Head :=
  let wide := h.header.depth == 16
  let found : Option Transparency :=
    match h.transparency, h.header.kind, data with
    | some t, _, _ => some t
    | none, .grey, _ :: v :: _ => some (.key (if wide then samples 16 data else [v.toNat]))
    | none, .rgb, _ :: r :: _ :: g :: _ :: b :: _ =>
      some (.key (if wide then samples 16 data else [r.toNat, g.toNat, b.toNat]))
    | none, .indexed, _ => if h.palette.isSome then some (.alphas data) else none
    | none, _, _ => none
  { h with transparency := found }

def coloring (h : Head) : Coloring :=
  { header := h.header
    palette := h.palette.getD []
    transparency := h.transparency.getD .opaquePixels }

/-- The bytes a pixel takes once palettes are looked up and transparency is an alpha. -/
def pixelBytes (h : Head) : Nat :=
  let alpha := if h.transparency.isSome then 1 else 0
  let channels := match h.header.kind with
    | .grey => 1 + alpha
    | .rgb | .indexed => 3 + alpha
    | .greyAlpha => 2
    | .rgba => 4
  if h.header.depth = 16 then 2 * channels else channels

/-- The next chunk before the image data, whose name and data are given. -/
def addChunk (h : Head) (name : Name) (data : List UInt8) : Except Error Head :=
  if name = .palette then
    if h.palette.isSome then .error .malformed else .ok { h with palette := some data }
  else if name = .transparency then .ok (h.addTransparency data)
  else if name.isCritical then .error .malformed
  else .ok h

end Head

/-- The header, which is the first chunk. -/
def readHeader (s : List UInt8) : Except Error (Header × List UInt8) := do
  let ((length, name), s) ← chunkHead s
  if name ≠ .header || length ≠ 13 then .error .malformed
  else
    let ((data, sound), s) ← chunkBody length name s
    match Header.ofBytes? data with
    | some header => if sound then .ok (header, s) else .error .malformed
    | none => .error .malformed

/-- The chunks up to the image data, of which the first length is taken; `fuel` is at least the
number of bytes. -/
def readHead : Nat → Head → List UInt8 → Except Error ((Head × Nat) × List UInt8)
  | 0, _, _ => .error .io
  | fuel + 1, h, s => do
    let ((length, name), s) ← chunkHead s
    if name = .data then .ok ((h, length), s)
    else
      let ((data, sound), s) ← chunkBody length name s
      if sound then readHead fuel (← h.addChunk name data) s
      else if name.isCritical then .error .malformed
      else readHead fuel h s

/-! ## Image data -/

/-- The bytes of image data from here on, after those already read (latest piece first), and what is
wrong with the chunks, if anything. -/
def readData : Nat → Nat → List (List UInt8) → List UInt8 → List UInt8 × Option Error
  | 0, _, read, _ => (read.reverse.flatten, some .io)
  | fuel + 1, length, read, s =>
    let read := s.take length :: read
    match chunkBody length .data s with
    | .error e => (read.reverse.flatten, some e)
    | .ok ((_, sound), s) =>
      if !sound then (read.reverse.flatten, some .malformed)
      else
        match chunkHead s with
        | .error e => (read.reverse.flatten, some e)
        | .ok ((length, name), s) =>
          if name = .data then readData fuel length read s else (read.reverse.flatten, none)

/-- What the compressed stream holds, and what is wrong with it or the chunks around it. -/
structure Content where
  bytes : List UInt8
  fault : Option Error

def Content.ofData (data : List UInt8 × Option Error) : Content :=
  let stream := Deflate.unzlib data.1
  let fault := match stream.ending with
    | .complete => data.2
    | .short => some (data.2.getD .malformed)
    | .corrupt => some .malformed
  ⟨stream.output.toList, fault⟩

/-! ## Rows -/

/-- `count` rows of `width` pixels: the pixels, after those already read, and the bytes left.
`above` is the row before, and `missing` is said when a row is not there. -/
def readRows (c : Coloring) (hasColours : Bool) (missing : Error) (width : Nat) :
    Nat → Array UInt8 → Array Pixel → List UInt8 → Except Error (Array Pixel × List UInt8)
  | 0, _, pixels, s => .ok (pixels, s)
  | count + 1, above, pixels, s =>
    let size := c.header.rowBytes width
    match s with
    | [] => .error missing
    | kind :: s =>
      let bytes := s.take size
      if bytes.length < size then .error missing
      else
        match Filter.ofByte? kind with
        | none => .error .malformed
        | some filter =>
          if !hasColours then .error .malformed
          else
            let row := filter.restore c.header.stride above bytes
            readRows c hasColours missing width count row
              (pixels ++ (c.row width row.toList).toArray) (s.drop size)

/-- The images of the passes that have pixels, each with its width. -/
def readPasses (c : Coloring) (hasColours : Bool) (missing : Error) :
    List Pass → List UInt8 → Except Error (List (Pass × Nat × Array Pixel))
  | [], _ => .ok []
  | p :: passes, s => do
    let width := p.width c.header.width
    let height := p.height c.header.height
    if width = 0 || height = 0 then readPasses c hasColours missing passes s
    else
      let (pixels, s) ← readRows c hasColours missing width height #[] #[] s
      return (p, width, pixels) :: (← readPasses c hasColours missing passes s)

/-- The pixel at a place, from the pass that holds it. -/
def pixelOfPasses (passes : List (Pass × Nat × Array Pixel)) (x y : Nat) : Pixel :=
  (passes.findSome? fun (p, width, pixels) =>
    (p.place? x y).map fun (i, j) => pixels.getD (j * width + i) .unset).getD .unset

def Content.pixels (content : Content) (h : Head) : Except Error (Array Pixel) :=
  let c := h.coloring
  let hasColours := h.header.kind ≠ .indexed || h.palette.isSome
  let missing := content.fault.getD .malformed
  let width := h.header.width
  let height := h.header.height
  if h.header.interlaced then do
    let passes ← readPasses c hasColours missing Pass.all content.bytes
    return Array.ofFn fun (i : Fin (width * height)) =>
      pixelOfPasses passes (i.val % width) (i.val / width)
  else do
    let (pixels, _) ← readRows c hasColours missing width height #[] #[] content.bytes
    return pixels

/-! ## Files -/

/-- What follows the signature. -/
def afterSignature (s : List UInt8) : Except Error (List UInt8) :=
  let head := signature.take 4
  if s.length < 4 then .error .io
  else if s.take 4 ≠ head then .error .malformed
  else if s.length < 8 then .error .io
  else if s.take 8 ≠ signature then .error .malformed
  else .ok (s.drop 8)

def read (s : List UInt8) : Except Error Bitmap := do
  let s ← afterSignature s
  let (header, s) ← readHeader s
  let ((head, length), s) ← readHead (s.length + 1) ⟨header, none, none⟩ s
  Image.checkSize header.width header.height head.pixelBytes
  let content := Content.ofData (readData (s.length + 1) length [] s)
  let pixels ← content.pixels head
  match content.fault with
  | some e => .error e
  | none =>
    match Bitmap.ofPixels? header.width header.height pixels with
    | some b => .ok b
    | none => .error .malformed

end StatusIcon.Png
