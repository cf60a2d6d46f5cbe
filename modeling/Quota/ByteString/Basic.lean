import Quota.Storage.Block
import Quota.Text.Decimal
import Quota.Text.Search
import Quota.Text.Utf8
import Quota.Word.Basic

set_option autoImplicit false

/-!
# Byte strings

A byte string never changes. It is a literal, which charges nothing, or it owns a block. Either way it has a source,
from which its transforms take their storage.
-/
namespace Quota

inductive ByteString where
  | literal (source : Source) (bytes : List UInt8)
  | owned (block : Block) (bytes : List UInt8)
deriving DecidableEq, Repr

namespace ByteString

def empty : ByteString := .literal .heap []

def bytes : ByteString → List UInt8
  | .literal _ bytes => bytes
  | .owned _ bytes => bytes

def source : ByteString → Source
  | .literal source _ => source
  | .owned block _ => block.source

def length (s : ByteString) : Nat := s.bytes.length

def isEmpty (s : ByteString) : Bool := s.bytes.isEmpty

def isOwned : ByteString → Bool
  | .literal _ _ => false
  | .owned _ _ => true

/-- The text of the bytes, malformed parts replaced. -/
def display (s : ByteString) : String := Utf8.lossy s.bytes

def debug (s : ByteString) : String := Quoted.text s.display

def release : ByteString → Books → Books
  | .literal _ _, books => books
  | .owned block _, books => block.release books

/-- Whether bytes are equal at every offset, and none is left over. -/
def sameBytes : List UInt8 → List UInt8 → Bool
  | [], [] => true
  | b :: bs, c :: cs => Byte.eq b c && sameBytes bs cs
  | _, _ => false

def same (s t : ByteString) : Bool := sameBytes s.bytes t.bytes

/-- The offset of the leftmost occurrence, or -1. -/
def find (s needle : ByteString) : Int :=
  match Search.find s.bytes needle.bytes with
  | some k => k
  | none => -1

def contains (s needle : ByteString) : Bool := (Search.find s.bytes needle.bytes).isSome

/-- Reserve `total` bytes and copy the runs into them. -/
def assemble (alloc : Allocator) (source : Source) (total : Nat) (runs : List (List UInt8)) (books : Books) :
    Except StorageFault ByteString × Books :=
  match Block.reserve alloc source .byte total books with
  | (.error f, books) => (.error f, books)
  | (.ok block, books) => (.ok (.owned block runs.flatten), books)

def ofBytes (alloc : Allocator) (source : Source) (bytes : List UInt8) (books : Books) :
    Except StorageFault ByteString × Books :=
  match Block.reserve alloc source .byte bytes.length books with
  | (.error f, books) => (.error f, books)
  | (.ok block, books) => (.ok (.owned block bytes), books)

def ofInt (alloc : Allocator) (source : Source) (v : Int) (books : Books) :
    Except StorageFault ByteString × Books :=
  ofBytes alloc source (Decimal.ofInt v) books

def ofByte (alloc : Allocator) (source : Source) (b : UInt8) (books : Books) :
    Except StorageFault ByteString × Books :=
  ofBytes alloc source [b] books

/-- An owned copy, from the string's own source. -/
def clone (alloc : Allocator) (s : ByteString) (books : Books) : Except StorageFault ByteString × Books :=
  ofBytes alloc s.source s.bytes books

end ByteString

end Quota
