/-
# StatusIcon.Deflate.Zlib -- a compressed stream between a header and a checksum

Two bytes before the stream name the method and the window; four bytes after it are a checksum of
the output.  A stream is complete only with these four bytes, but they may say anything: what the
checksum guards is guarded once more by whoever packs the stream.

`zlib` writes a stream that this reader and every other expands to the bytes it was given
(`Deflate.stored` blocks, which are never longer than 65535 bytes), with the right checksum.
-/
import StatusIcon.Deflate.Inflate

set_option autoImplicit false

namespace StatusIcon.Deflate

/-! ## Reading -/

inductive Zlib.Ending where
  | complete
  | short
  | corrupt
  deriving DecidableEq, Repr

/-- What a stream expands to, as far as it goes, and how it ends. -/
structure Zlib where
  output : Array UInt8
  ending : Zlib.Ending

/-- Expands the stream at the head of these bytes; what stands behind it is not looked at. -/
def unzlib : List UInt8 → Zlib
  | method :: flags :: bytes =>
    if method.toNat % 16 ≠ 8 || 7 < method.toNat / 16 || flags.toNat / 32 % 2 = 1 ||
        (method.toNat * 256 + flags.toNat) % 31 ≠ 0 then ⟨#[], .corrupt⟩
    else
      let expanded := inflate bytes
      match expanded.ending with
      | .complete rest =>
        ⟨expanded.output, if 4 ≤ rest.wholeBytes.length then .complete else .short⟩
      | .short => ⟨expanded.output, .short⟩
      | .corrupt => ⟨expanded.output, .corrupt⟩
  | _ => ⟨#[], .short⟩

/-! ## Writing -/

/-- The checksum: two sums modulo 65521, the second one of all values of the first. -/
def adler (bytes : List UInt8) : Nat :=
  let (a, b) := bytes.foldl
    (fun (a, b) byte =>
      let a := (a + byte.toNat) % 65521
      (a, (b + a) % 65521))
    (1, 0)
  b * 65536 + a

/-- A stored block of at most 65535 bytes. -/
def storedBlock (last : Bool) (bytes : List UInt8) : List UInt8 :=
  let n := bytes.length
  (if last then 1 else 0) :: UInt8.ofNat (n % 256) :: UInt8.ofNat (n / 256) ::
    UInt8.ofNat ((65535 - n) % 256) :: UInt8.ofNat ((65535 - n) / 256) :: bytes

/-- Stored blocks for all bytes, full ones first. -/
def storedBlocks (bytes : List UInt8) : List UInt8 :=
  if bytes.length ≤ 65535 then storedBlock true bytes
  else storedBlock false (bytes.take 65535) ++ storedBlocks (bytes.drop 65535)
  termination_by bytes.length

def zlib (bytes : List UInt8) : List UInt8 :=
  let sum := adler bytes
  0x78 :: 0x01 :: (storedBlocks bytes ++
    [UInt8.ofNat (sum / 16777216), UInt8.ofNat (sum / 65536 % 256), UInt8.ofNat (sum / 256 % 256),
      UInt8.ofNat (sum % 256)])

end StatusIcon.Deflate
