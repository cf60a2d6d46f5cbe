set_option autoImplicit false

/-!
# Fingerprints of octets

The fingerprint of octets is the number that they write in a large base, cut to a word. Equal octets have equal
fingerprints, and the fingerprint of a window that slides along a text follows from the one before.
-/
namespace Quota.Fingerprint

def base : UInt64 := 0x100000001B3

/-- The fingerprint with one more octet at the end. -/
def extend (print : UInt64) (b : UInt8) : UInt64 := print * base + b.toUInt64

def ofList (bytes : List UInt8) : UInt64 := bytes.foldl extend 0

/-- What an octet counts with so many octets behind it. -/
def weight (n : Nat) : UInt64 := Nat.repeat (· * base) n 1

/-- The fingerprint of a window after its first octet is left out and one is added at the end. The weight is that of an
octet with a whole window behind it. -/
def slide (weight print : UInt64) (first next : UInt8) : UInt64 := extend print next - first.toUInt64 * weight

theorem foldl_extend (print : UInt64) (bytes : List UInt8) :
    bytes.foldl extend print = print * weight bytes.length + ofList bytes := by
  induction bytes generalizing print with
  | nil => simp [weight, ofList, Nat.repeat]
  | cons b rest ih =>
    have tail : ofList (b :: rest) = extend 0 b * weight rest.length + ofList rest := ih (extend 0 b)
    rw [List.foldl_cons, ih, tail]
    simp only [extend, weight, List.length_cons, Nat.repeat]
    grind

theorem slide_ofList (b c : UInt8) (window : List UInt8) :
    slide (weight (window.length + 1)) (ofList (b :: window)) b c = ofList (window ++ [c]) := by
  have before : ofList (b :: window) = extend 0 b * weight window.length + ofList window :=
    foldl_extend (extend 0 b) window
  have after : ofList (window ++ [c]) = extend (ofList window) c := by simp [ofList]
  rw [before, after]
  simp only [slide, extend, weight, Nat.repeat]
  grind

end Quota.Fingerprint
