import Quota.Fault.Kind

set_option autoImplicit false

/-!
# Words: checked 64-bit integers

A word is an integer from -2^63 up to 2^63 - 1. Every operation computes over the integers and fails when the result
is no word. Comparisons are built from the two strict ones.
-/
namespace Quota

def minWord : Int := -9223372036854775808

def maxWord : Int := 9223372036854775807

/-- An integer of 64 bits with a sign. -/
structure Word where
  toInt : Int
  min_le : minWord ≤ toInt
  le_max : toInt ≤ maxWord
deriving DecidableEq

inductive ArithmeticFault where
  | addition (a b : Word)
  | subtraction (a b : Word)
  | multiplication (a b : Word)
  | negation (a : Word)
  | notByte (a : Word)
deriving DecidableEq

namespace ArithmeticFault

def kind : ArithmeticFault → Kind
  | .notByte _ => .byteOverflow
  | _ => .overflow

def message : ArithmeticFault → String
  | .addition a b => s!"i64 addition overflow: {a.toInt} + {b.toInt}"
  | .subtraction a b => s!"i64 subtraction overflow: {a.toInt} - {b.toInt}"
  | .multiplication a b => s!"i64 multiplication overflow: {a.toInt} * {b.toInt}"
  | .negation a => s!"i64 negation overflow: -({a.toInt})"
  | .notByte a => s!"value {a.toInt} does not fit in u8 (0..=255)"

def fault (f : ArithmeticFault) : Fault := ⟨f.kind, f.message⟩

end ArithmeticFault

namespace Word

def zero : Word := ⟨0, by decide, by decide⟩

def ten : Word := ⟨10, by decide, by decide⟩

/-- The word of an integer in range. -/
def ofInt? (v : Int) : Option Word :=
  if h : minWord ≤ v ∧ v ≤ maxWord then some ⟨v, h.1, h.2⟩ else none

theorem ofInt?_toInt (w : Word) : ofInt? w.toInt = some w := dif_pos ⟨w.min_le, w.le_max⟩

theorem ofInt?_eq_some_iff (v : Int) (w : Word) : ofInt? v = some w ↔ w.toInt = v := by
  constructor
  · intro h
    rw [ofInt?] at h
    split at h
    · cases h
      rfl
    · cases h
  · rintro rfl
    exact ofInt?_toInt w

theorem ofInt?_eq_none_iff (v : Int) : ofInt? v = none ↔ v < minWord ∨ maxWord < v := by
  rw [ofInt?]
  split
  · simp; omega
  · simp; omega

/-- The word of an exact result, or the fault if the result is out of range. -/
def checked (exact : Int) (f : ArithmeticFault) : Except ArithmeticFault Word :=
  match ofInt? exact with
  | some w => .ok w
  | none => .error f

theorem checked_eq_ok_iff (exact : Int) (f : ArithmeticFault) (w : Word) :
    checked exact f = .ok w ↔ w.toInt = exact := by
  rw [checked, ← ofInt?_eq_some_iff]
  cases ofInt? exact <;> simp

def add (a b : Word) : Except ArithmeticFault Word := checked (a.toInt + b.toInt) (.addition a b)

def sub (a b : Word) : Except ArithmeticFault Word := checked (a.toInt - b.toInt) (.subtraction a b)

def mul (a b : Word) : Except ArithmeticFault Word := checked (a.toInt * b.toInt) (.multiplication a b)

def neg (a : Word) : Except ArithmeticFault Word := checked (-a.toInt) (.negation a)

def lt (a b : Word) : Bool := decide (a.toInt < b.toInt)

def gt (a b : Word) : Bool := decide (b.toInt < a.toInt)

/-- Neither less nor greater. -/
def eq (a b : Word) : Bool := !lt a b && !gt a b

def ne (a b : Word) : Bool := lt a b || gt a b

def ge (a b : Word) : Bool := !lt a b

def le (a b : Word) : Bool := !gt a b

theorem lt_iff {a b : Word} : a.lt b = true ↔ a.toInt < b.toInt := decide_eq_true_iff

theorem gt_iff {a b : Word} : a.gt b = true ↔ b.toInt < a.toInt := decide_eq_true_iff

theorem eq_iff {a b : Word} : a.eq b = true ↔ a.toInt = b.toInt := by
  simp only [eq, lt, gt, Bool.and_eq_true, Bool.not_eq_true', decide_eq_false_iff_not]
  omega

theorem ne_iff {a b : Word} : a.ne b = true ↔ a.toInt ≠ b.toInt := by
  simp only [ne, lt, gt, Bool.or_eq_true, decide_eq_true_eq]
  omega

theorem ge_iff {a b : Word} : a.ge b = true ↔ b.toInt ≤ a.toInt := by
  simp only [ge, lt, Bool.not_eq_true', decide_eq_false_iff_not]
  omega

theorem le_iff {a b : Word} : a.le b = true ↔ a.toInt ≤ b.toInt := by
  simp only [le, gt, Bool.not_eq_true', decide_eq_false_iff_not]
  omega

/-- The word of a length; lengths above the greatest word count as that word. -/
def ofLength (n : Nat) : Word :=
  ⟨min (n : Int) maxWord, by unfold minWord maxWord; omega, by omega⟩

theorem ofLength_nonneg (n : Nat) : 0 ≤ (ofLength n).toInt := by
  simp only [ofLength, maxWord]
  omega

def ofByte (b : UInt8) : Word :=
  ⟨b.toNat, by unfold minWord; omega, by have := b.toNat_lt; unfold maxWord; omega⟩

/-- The byte of a word from 0 to 255. -/
def toByte (a : Word) : Except ArithmeticFault UInt8 :=
  if a.toInt < 0 ∨ 255 < a.toInt then .error (.notByte a) else .ok (UInt8.ofNat a.toInt.toNat)

end Word

/-- The least and greatest byte as integers. -/
def minByte : Int := 0

def maxByte : Int := 255

namespace Byte

def lt (a b : UInt8) : Bool := decide (a < b)

def gt (a b : UInt8) : Bool := decide (b < a)

/-- Neither less nor greater. -/
def eq (a b : UInt8) : Bool := !lt a b && !gt a b

theorem eq_iff (b c : UInt8) : eq b c = true ↔ b = c := by
  simp only [eq, lt, gt, Bool.and_eq_true, Bool.not_eq_true', decide_eq_false_iff_not, UInt8.not_lt]
  constructor
  · rintro ⟨below, above⟩
    exact UInt8.le_antisymm above below
  · rintro rfl
    exact ⟨UInt8.le_refl b, UInt8.le_refl b⟩

end Byte

end Quota
