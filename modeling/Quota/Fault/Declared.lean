import Quota.Fault.Kind

set_option autoImplicit false

/-!
# Declared sets of kinds

An operation declares the kinds it may raise as an ordered list of labelled entries. The status of a result is one
byte: zero for success, otherwise the position of the raised entry, counted from one. A declaration writes down a name
for each kind. Nothing makes it the one that the kind gives itself.
-/
namespace Quota

structure Entry where
  label : String
  /-- What the declaration calls the kind. -/
  token : String
  kind : Kind
deriving DecidableEq, Repr

/-- A nonempty ordered set of entries. Labels and kinds are distinct, and so are tokens, as one of them stands for one
kind. -/
structure FaultSet where
  entries : List Entry
  nonempty : entries ≠ []
  labels_nodup : (entries.map Entry.label).Nodup
  tokens_nodup : (entries.map Entry.token).Nodup
  kinds_nodup : (entries.map Entry.kind).Nodup

structure Raised (set : FaultSet) where
  entry : Entry
  declared : entry ∈ set.entries
  message : String

namespace FaultSet

/-- The set of one kind, under its own name. -/
def single (kind : Kind) : FaultSet where
  entries := [⟨kind.name, kind.name, kind⟩]
  nonempty := by simp
  labels_nodup := by simp
  tokens_nodup := by simp
  kinds_nodup := by simp

def substring : FaultSet where
  entries := [⟨"IndexOutOfBounds", "IndexOutOfBoundsError", .index⟩, ⟨"Alloc", "AllocError", .alloc⟩]
  nonempty := by simp
  labels_nodup := by decide
  tokens_nodup := by decide
  kinds_nodup := by decide

def formatting : FaultSet where
  entries := [⟨"Overflow", "OverflowError", .overflow⟩, ⟨"IndexOutOfBounds", "IndexOutOfBoundsError", .index⟩,
    ⟨"Alloc", "AllocError", .alloc⟩]
  nonempty := by simp
  labels_nodup := by decide
  tokens_nodup := by decide
  kinds_nodup := by decide

def names (set : FaultSet) : List String := set.entries.map Entry.token

def count (set : FaultSet) : Nat := set.entries.length

/-- The position of a label counted from one, as a byte; zero for a label that is not declared. -/
def position (set : FaultSet) (label : String) : UInt8 :=
  match set.entries.findIdx? fun e => e.label == label with
  | some i => UInt8.ofNat (i + 1)
  | none => 0

/-- A fault seen as raised under a set that declares its kind. -/
def raise? (set : FaultSet) (f : Fault) : Option (Raised set) :=
  match found : set.entries.find? fun e => e.kind == f.kind with
  | some e => some ⟨e, List.mem_of_find?_eq_some found, f.message⟩
  | none => none

end FaultSet

namespace Raised

variable {set : FaultSet}

/-- The declared position of the raised entry, counted from one. -/
def ordinal (r : Raised set) : UInt8 := set.position r.entry.label

def fault (r : Raised set) : Fault := ⟨r.entry.kind, r.message⟩

/-- The fault's record under its label. -/
def debug (r : Raised set) : String := r.entry.label ++ "(" ++ r.fault.debug ++ ")"

end Raised

def success : UInt8 := 0

def status {set : FaultSet} {α : Type} : Except (Raised set) α → UInt8
  | .ok _ => success
  | .error r => r.ordinal

def FaultSet.statusOf (set : FaultSet) (f : Fault) : UInt8 :=
  match set.raise? f with
  | some r => r.ordinal
  | none => 0

end Quota
