import Quota.Journal.Event
import Quota.Storage.Allocator
import Quota.Storage.Ledger

set_option autoImplicit false

/-!
# The books

The books hold the ledger of every budget, the journal of events, and how often the allocator was asked. A source
names where bytes come from: the heap, which is not metered, or one of the budgets.
-/
namespace Quota

inductive Source where
  | heap
  | budget (index : Nat)
deriving DecidableEq, Repr

structure Books where
  ledgers : List Ledger
  /-- The events so far, latest first. -/
  journal : List Event
  /-- How many reservations were put to the allocator. -/
  asked : Nat
deriving DecidableEq, Repr

namespace Books

def ofLimits (limits : List Nat) : Books := ⟨limits.map Ledger.empty, [], 0⟩

def note (e : Event) (books : Books) : Books := { books with journal := e :: books.journal }

@[simp] theorem ledgers_note (e : Event) (books : Books) : (books.note e).ledgers = books.ledgers := rfl

/-- Count a reservation that is put to the allocator. -/
def ask (books : Books) : Books := { books with asked := books.asked + 1 }

@[simp] theorem ledgers_ask (books : Books) : books.ask.ledgers = books.ledgers := rfl

def events (books : Books) : List Event := books.journal.reverse

@[simp] theorem events_note (e : Event) (books : Books) : (books.note e).events = books.events ++ [e] := by
  simp [events, note]

/-- The ledger of a source, if the source is metered. -/
def ledger? (books : Books) : Source → Option Ledger
  | .heap => none
  | .budget i => books.ledgers[i]?

def acquire (source : Source) (bytes : Nat) (books : Books) : Except StorageFault Unit × Books :=
  match source with
  | .heap => (.ok (), books)
  | .budget i =>
    match books.ledgers[i]? with
    | none => (.ok (), books)
    | some l =>
      match l.acquire? bytes with
      | some l' => (.ok (), { books with ledgers := books.ledgers.set i l' })
      | none =>
        (.error (.exhausted bytes l.inUse l.limit),
          { books with ledgers := books.ledgers.set i l.refuse }.note (.budgetRefused bytes l.inUse l.limit))

def credit (source : Source) (bytes : Nat) (books : Books) : Books :=
  match source with
  | .heap => books
  | .budget i =>
    match books.ledgers[i]? with
    | none => books
    | some l => { books with ledgers := books.ledgers.set i (l.release bytes) }

end Books

end Quota
