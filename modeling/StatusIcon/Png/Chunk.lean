/-
# StatusIcon.Png.Chunk -- named pieces of a file

After the signature a file is a sequence of chunks: four bytes of length, four of a name, the data,
and four of a checksum over name and data.  A small first letter marks a chunk that a reader may
pass over; such a chunk is passed over too when its checksum is wrong.
-/
import StatusIcon.Png.Checksum
import StatusIcon.Png.Header

set_option autoImplicit false

namespace StatusIcon.Png

def signature : List UInt8 := [0x89, 0x50, 0x4E, 0x47, 0x0D, 0x0A, 0x1A, 0x0A]

/-- The name of a chunk. -/
structure Name where
  bytes : List UInt8
  deriving DecidableEq, Repr

namespace Name

def header : Name := ⟨[0x49, 0x48, 0x44, 0x52]⟩

def palette : Name := ⟨[0x50, 0x4C, 0x54, 0x45]⟩

def transparency : Name := ⟨[0x74, 0x52, 0x4E, 0x53]⟩

def data : Name := ⟨[0x49, 0x44, 0x41, 0x54]⟩

def finish : Name := ⟨[0x49, 0x45, 0x4E, 0x44]⟩

/-- A reader must understand the chunk: its first letter is a capital. -/
def isCritical (n : Name) : Bool := n.bytes.headD 0 &&& 0x20 == 0

end Name

/-- The length and name at the head of a chunk, and what follows them. -/
def chunkHead : List UInt8 → Except Image.Error ((Nat × Name) × List UInt8)
  | a :: b :: c :: d :: e :: f :: g :: h :: rest => .ok ((number a b c d, ⟨[e, f, g, h]⟩), rest)
  | _ => .error .io

/-- The data of a chunk whose head was taken, whether its checksum is right, and what follows. -/
def chunkBody (length : Nat) (name : Name) (s : List UInt8) :
    Except Image.Error ((List UInt8 × Bool) × List UInt8) :=
  let data := s.take length
  match s.drop length with
  | a :: b :: c :: d :: rest => .ok ((data, number a b c d == crc (name.bytes ++ data)), rest)
  | _ => .error .io

def chunk (name : Name) (data : List UInt8) : List UInt8 :=
  fourBytes data.length ++ name.bytes ++ data ++ fourBytes (crc (name.bytes ++ data))

end StatusIcon.Png
