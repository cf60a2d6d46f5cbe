set_option autoImplicit false

/-!
# Decimal octets

The canonical decimal form of an integer: no leading zero, no plus sign, and a minus sign only below zero.
-/
namespace Quota.Decimal

/-- The octet of a digit below ten. -/
def digit (n : Nat) : UInt8 := UInt8.ofNat (48 + n)

/-- The digits of a natural number, most significant first. -/
def digits (n : Nat) : List UInt8 :=
  if n < 10 then [digit n] else digits (n / 10) ++ [digit (n % 10)]
termination_by n

def ofInt (v : Int) : List UInt8 :=
  if v < 0 then 45 :: digits v.natAbs else digits v.natAbs

def isDigit (b : UInt8) : Bool := decide (48 ≤ b.toNat) && decide (b.toNat ≤ 57)

def value (b : UInt8) : Nat := b.toNat - 48

end Quota.Decimal
