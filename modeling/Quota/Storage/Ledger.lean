import Quota.Text.Quoted

set_option autoImplicit false

/-!
# Ledgers

A ledger accounts for the bytes taken under one limit: what is in use, the most that ever was, and how many requests
were refused. A refused request changes nothing but the count of refusals. No more should be given back than is in use;
what goes beyond that is counted.
-/
namespace Quota

/-- Sizes and sums of sizes below this bound can be addressed. -/
def addressSpace : Nat := 18446744073709551616

structure Ledger where
  limit : Nat
  inUse : Nat
  peak : Nat
  refusals : Nat
  /-- The bytes given back that were not in use. -/
  overdrawn : Nat
deriving DecidableEq, Repr

namespace Ledger

def empty (limit : Nat) : Ledger := ⟨limit, 0, 0, 0, 0⟩

/-- Take bytes, if the total stays addressable and within the limit. -/
def acquire? (l : Ledger) (bytes : Nat) : Option Ledger :=
  let total := l.inUse + bytes
  if total < addressSpace ∧ total ≤ l.limit then
    some { l with inUse := total, peak := max l.peak total }
  else none

theorem acquire?_eq_some_iff (l l' : Ledger) (bytes : Nat) :
    l.acquire? bytes = some l' ↔
      (l.inUse + bytes < addressSpace ∧ l.inUse + bytes ≤ l.limit) ∧
        l' = { l with inUse := l.inUse + bytes, peak := max l.peak (l.inUse + bytes) } := by
  simp only [acquire?]
  split
  case isTrue h => simp [h, eq_comm]
  case isFalse h => simp [h]

theorem acquire?_eq_none_iff (l : Ledger) (bytes : Nat) :
    l.acquire? bytes = none ↔ addressSpace ≤ l.inUse + bytes ∨ l.limit < l.inUse + bytes := by
  simp only [acquire?]
  split <;> simp <;> omega

def refuse (l : Ledger) : Ledger := { l with refusals := l.refusals + 1 }

/-- Give bytes back. Of what was not in use nothing is taken off. -/
def release (l : Ledger) (bytes : Nat) : Ledger :=
  { l with inUse := l.inUse - bytes, overdrawn := l.overdrawn + (bytes - l.inUse) }

def remaining (l : Ledger) : Nat := l.limit - l.inUse

def debug (l : Ledger) : String :=
  Quoted.record "BudgetProvider"
    [("limit", toString l.limit), ("in_use", toString l.inUse), ("peak", toString l.peak)]

end Ledger

end Quota
