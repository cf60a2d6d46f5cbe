set_option autoImplicit false

/-!
# Numerals

Decimal numbers as they are given on a command line or in a filter: any number of leading zeros is fine. A reader that
only needs numbers up to a cap reads every larger number as the cap.
-/
namespace Quota.Numeral

/-- Whether these are decimal digits, one at least. -/
def areDigits (cs : List Char) : Bool := !cs.isEmpty && cs.all Char.isDigit

/-- The value of decimal digits behind others of value `n`. -/
def value (n : Nat) (cs : List Char) : Nat := cs.foldl (fun n c => 10 * n + (c.toNat - 48)) n

/-- The value of decimal digits behind others of value `n`, or `cap` where it is more than that. -/
def cappedValue (cap n : Nat) (cs : List Char) : Nat :=
  cs.foldl (fun n c => min cap (10 * n + (c.toNat - 48))) n

/-- A value that has reached the cap stays there, so it can be cut at every digit. -/
theorem cappedValue_min (cap n : Nat) (cs : List Char) :
    cappedValue cap (min cap n) cs = min cap (value n cs) := by
  induction cs generalizing n with
  | nil => rfl
  | cons c cs ih =>
    have cut : min cap (10 * min cap n + (c.toNat - 48)) = min cap (10 * n + (c.toNat - 48)) := by omega
    simp only [cappedValue, value, List.foldl_cons] at ih ⊢
    rw [cut, ih]

/-- The value of decimal digits, or `cap` where it is more than that. -/
def digits? (cap : Nat) (cs : List Char) : Option Nat :=
  if areDigits cs then some (cappedValue cap 0 cs) else none

theorem digits?_eq (cap : Nat) (cs : List Char) :
    digits? cap cs = if areDigits cs then some (min cap (value 0 cs)) else none := by
  rw [digits?, ← cappedValue_min, Nat.min_zero]

/-- A natural number up to `cap`, with an optional plus sign. -/
def natural? (cap : Nat) (s : String) : Option Nat :=
  match s.toList with
  | '+' :: rest => digits? cap rest
  | cs => digits? cap cs

/-- An integer up to `cap` on either side of zero, with an optional sign. -/
def integer? (cap : Nat) (s : String) : Option Int :=
  match s.toList with
  | '+' :: rest => (digits? cap rest).map fun n => (n : Int)
  | '-' :: rest => (digits? cap rest).map fun n => -(n : Int)
  | cs => (digits? cap cs).map fun n => (n : Int)

/-- Behind an optional sign. -/
def unsigned : List Char → List Char
  | '+' :: rest => rest
  | '-' :: rest => rest
  | cs => cs

/-- Whether this is an exponent, or nothing. -/
def isExponent : List Char → Bool
  | [] => true
  | c :: rest => (c == 'e' || c == 'E') && areDigits (unsigned rest)

/-- Whether this is a number with an optional sign, fraction and exponent. A digit stands before or behind the point. -/
def isReal (cs : List Char) : Bool :=
  let body := unsigned cs
  let whole := body.takeWhile Char.isDigit
  match body.dropWhile Char.isDigit with
  | '.' :: rest =>
    let fraction := rest.takeWhile Char.isDigit
    !(whole.isEmpty && fraction.isEmpty) && isExponent (rest.dropWhile Char.isDigit)
  | rest => !whole.isEmpty && isExponent rest

/-- Whether this names an infinity or something that is no number, in any case and with an optional sign. -/
def isUnbounded (cs : List Char) : Bool :=
  ["inf", "infinity", "nan"].contains (String.ofList (unsigned cs)).toLower

end Quota.Numeral
