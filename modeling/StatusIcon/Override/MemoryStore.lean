/-
# StatusIcon.Override.MemoryStore -- overrides held in memory

A store keeps at most one record of each package: inserting a record drops the one that was there.
-/
import StatusIcon.Override.Provider

set_option autoImplicit false

namespace StatusIcon

structure MemoryStore where
  uri : ContentUri
  records : List OverrideRecord
  deriving DecidableEq, Repr

namespace MemoryStore

/-- The store with no record at the usual address. -/
def empty : MemoryStore := ⟨.default, []⟩

/-- The store with no record at `uri`. -/
def emptyAt (uri : String) : Except IconError MemoryStore :=
  match ContentUri.parse uri with
  | .ok served => .ok ⟨served, []⟩
  | .error e => .error e

def insert (s : MemoryStore) (record : OverrideRecord) : MemoryStore :=
  { s with records := (s.records.filter fun other => other.package ≠ record.package) ++ [record] }

/-- Stores an icon for a package, as `encoder` writes it: whether that worked, and the store
afterwards.  An icon without pixels cannot be stored. -/
def insertIconBy (encoder : Png.Encoder) (s : MemoryStore) (package : String) (icon : Bitmap) :
    Except IconError Unit × MemoryStore :=
  match OverrideRecord.ofIconBy encoder package icon with
  | .ok record => (.ok (), s.insert record)
  | .error e => (.error e, s)

def size (s : MemoryStore) : Nat := s.records.length

def isEmpty (s : MemoryStore) : Bool := s.records.isEmpty

def provider (s : MemoryStore) : OverrideProvider := .ofRecords s.uri s.records

end MemoryStore

end StatusIcon
