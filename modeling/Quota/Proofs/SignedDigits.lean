import Mathlib.Data.Nat.Digits.Defs
import Mathlib.Tactic.Ring
import Quota.ByteString.Integer

set_option autoImplicit false

/-!
# Reading signed digits

The texts that denote an integer, said without a reader: an optional sign and decimal digits, one at least. The reader
takes exactly those whose value is a word, and every sum on its way is the exact one or is reported.
-/
namespace Quota

namespace Decimal

/-- The number that digits write, the most significant first. -/
def magnitude (digits : List UInt8) : Nat := Nat.ofDigits 10 (digits.map value).reverse

theorem magnitude_nil : magnitude [] = 0 := rfl

theorem magnitude_cons (b : UInt8) (rest : List UInt8) :
    magnitude (b :: rest) = value b * 10 ^ rest.length + magnitude rest := by
  simp only [magnitude, List.map_cons, List.reverse_cons, Nat.ofDigits_append, Nat.ofDigits_singleton,
    List.length_reverse, List.length_map]
  ring

inductive Sign where
  | absent
  | plus
  | minus
deriving DecidableEq

def Sign.octets : Sign → List UInt8
  | .absent => []
  | .plus => [43]
  | .minus => [45]

/-- An optional sign and decimal digits, one at least. -/
structure SignedDigits where
  sign : Sign
  digits : List UInt8
  nonempty : digits ≠ []
  decimal : ∀ b ∈ digits, isDigit b = true

namespace SignedDigits

def text (n : SignedDigits) : List UInt8 := n.sign.octets ++ n.digits

def value (n : SignedDigits) : Int :=
  match n.sign with
  | .minus => -(magnitude n.digits : Int)
  | _ => magnitude n.digits

end SignedDigits

end Decimal

namespace ByteString

open Decimal

theorem splitSign_text (n : SignedDigits) : splitSign n.text = (decide (n.sign = .minus), n.digits) := by
  obtain ⟨sign, digits, nonempty, decimal⟩ := n
  cases sign with
  | plus => rfl
  | minus => rfl
  | absent =>
    cases digits with
    | nil => exact absurd rfl nonempty
    | cons b rest =>
      have first := decimal b List.mem_cons_self
      have notMinus : b ≠ 45 := by rintro rfl; exact absurd first (by decide)
      have notPlus : b ≠ 43 := by rintro rfl; exact absurd first (by decide)
      simp only [SignedDigits.text, Sign.octets, List.nil_append, splitSign, if_neg notMinus, if_neg notPlus]
      rfl

theorem exists_sign (text : List UInt8) : ∃ sign : Sign, text = sign.octets ++ (splitSign text).2 := by
  cases text with
  | nil => exact ⟨.absent, rfl⟩
  | cons b rest =>
    rw [splitSign]
    split
    · rename_i minus
      exact ⟨.minus, by rw [minus]; rfl⟩
    · split
      · rename_i plus
        exact ⟨.plus, by rw [plus]; rfl⟩
      · exact ⟨.absent, rfl⟩

/-- The word of the exact value, or the report that it is none. -/
def exactly (text : List UInt8) (v : Int) : Except ConversionFault Word :=
  match Word.ofInt? v with
  | some w => .ok w
  | none => .error (.outOfRange text)

theorem exactly_eq_ok_iff (text : List UInt8) (v : Int) (w : Word) : exactly text v = .ok w ↔ w.toInt = v := by
  rw [exactly, ← Word.ofInt?_eq_some_iff]
  cases Word.ofInt? v <;> simp

theorem exactly_toInt (text : List UInt8) (w : Word) : exactly text w.toInt = .ok w :=
  (exactly_eq_ok_iff text w.toInt w).mpr rfl

theorem exactly_of_lt {text : List UInt8} {v : Int} (h : v < minWord) : exactly text v = .error (.outOfRange text) := by
  rw [exactly, (Word.ofInt?_eq_none_iff v).mpr (.inl h)]

theorem exactly_of_gt {text : List UInt8} {v : Int} (h : maxWord < v) : exactly text v = .error (.outOfRange text) := by
  rw [exactly, (Word.ofInt?_eq_none_iff v).mpr (.inr h)]

theorem toInt_ofByte_sub {b : UInt8} (h : isDigit b = true) : (Word.ofByte (b - 48)).toInt = Decimal.value b := by
  simp only [isDigit, Bool.and_eq_true, decide_eq_true_eq] at h
  have le : (48 : UInt8) ≤ b := by
    rw [UInt8.le_iff_toNat_le]
    exact h.1
  simp only [Word.ofByte, Decimal.value, UInt8.toNat_sub_of_le _ _ le]
  rfl

/-- One digit: ten times the accumulator less the digit, unless one of the two steps leaves the range. -/
theorem accumulate_cons (text : List UInt8) {acc : Word} {b : UInt8} (rest : List UInt8) (below : acc.toInt ≤ 0)
    (decimal : isDigit b = true) :
    accumulate text acc (b :: rest) =
      match exactly text (acc.toInt * 10 - Decimal.value b) with
      | .ok next => accumulate text next rest
      | .error f => .error f := by
  have digit := toInt_ofByte_sub decimal
  rw [accumulate, if_pos decimal, Word.mul, Word.checked]
  cases product : Word.ofInt? (acc.toInt * Word.ten.toInt) with
  | none =>
    -- the product is not positive, so it is too low, and so is what the digit leaves of it
    have out := (Word.ofInt?_eq_none_iff _).mp product
    have ten : Word.ten.toInt = 10 := rfl
    rw [ten] at out
    have low : acc.toInt * 10 - Decimal.value b < minWord := by
      unfold minWord maxWord at *
      omega
    rw [exactly_of_lt low]
  | some shifted =>
    have exact : shifted.toInt = acc.toInt * 10 := (Word.ofInt?_eq_some_iff _ _).mp product
    simp only [Word.sub, Word.checked, exact, digit, exactly]
    cases Word.ofInt? (acc.toInt * 10 - Decimal.value b) <;> rfl

/-- Digits: the accumulator ends at the exact value below zero, or the value is out of range and that is reported. -/
theorem accumulate_digits (text : List UInt8) {digits : List UInt8} (decimal : ∀ b ∈ digits, isDigit b = true)
    {n : Nat} {acc : Word} (start : acc.toInt = -n) :
    accumulate text acc digits = exactly text (-(n * 10 ^ digits.length + magnitude digits : Nat)) := by
  induction digits generalizing n acc with
  | nil =>
    have exact : (-(n * 10 ^ ([] : List UInt8).length + magnitude [] : Nat) : Int) = acc.toInt := by
      rw [start, magnitude_nil, List.length_nil, Nat.pow_zero, Nat.mul_one, Nat.add_zero]
    rw [accumulate, exact, exactly_toInt]
  | cons b rest ih =>
    have later : ∀ c ∈ rest, isDigit c = true := fun c member => decimal c (List.mem_cons_of_mem b member)
    have horner : n * 10 ^ (b :: rest).length + magnitude (b :: rest) =
        (n * 10 + Decimal.value b) * 10 ^ rest.length + magnitude rest := by
      rw [magnitude_cons, List.length_cons]
      ring
    have step : acc.toInt * 10 - Decimal.value b = -(n * 10 + Decimal.value b : Nat) := by
      rw [start]
      omega
    rw [accumulate_cons text rest (by omega) (decimal b List.mem_cons_self), horner, step]
    cases next : Word.ofInt? (-(n * 10 + Decimal.value b : Nat)) with
    | some w =>
      have value := (Word.ofInt?_eq_some_iff _ _).mp next
      rw [← value, exactly_toInt]
      exact ih later value
    | none =>
      -- a prefix that is out of range leaves the whole out of range
      have out := (Word.ofInt?_eq_none_iff _).mp next
      have grows : n * 10 + Decimal.value b ≤ (n * 10 + Decimal.value b) * 10 ^ rest.length :=
        Nat.le_mul_of_pos_right _ (Nat.pow_pos (by decide))
      have low : (-(n * 10 + Decimal.value b : Nat) : Int) < minWord := by
        unfold minWord maxWord at *
        omega
      rw [exactly_of_lt low, exactly_of_lt (by omega)]

theorem accumulate_zero (text : List UInt8) {digits : List UInt8} (decimal : ∀ b ∈ digits, isDigit b = true) :
    accumulate text .zero digits = exactly text (-magnitude digits) := by
  have read := accumulate_digits text decimal (show Word.zero.toInt = -((0 : Nat) : Int) from rfl)
  rwa [Nat.zero_mul, Nat.zero_add] at read

theorem isDigit_of_accumulate {text digits : List UInt8} {acc w : Word} (h : accumulate text acc digits = .ok w) :
    ∀ b ∈ digits, isDigit b = true := by
  induction digits generalizing acc with
  | nil => simp
  | cons b rest ih =>
    rw [accumulate] at h
    split at h
    · rename_i decimal
      split at h
      · cases h
      · split at h
        · cases h
        · intro c member
          rcases List.mem_cons.mp member with rfl | later
          · exact decimal
          · exact ih h c later
    · cases h

/-- Digits without a minus sign: the accumulator is turned about, which fails for the least word only. -/
theorem neg_of_exactly (text : List UInt8) (m : Nat) :
    (match exactly text (-(m : Int)) with
    | .error f => .error f
    | .ok acc =>
      match acc.neg with
      | .error _ => .error (.outOfRange text)
      | .ok w => .ok w) = exactly text m := by
  cases below : Word.ofInt? (-(m : Int)) with
  | none =>
    have out := (Word.ofInt?_eq_none_iff _).mp below
    have high : maxWord < m := by
      unfold minWord maxWord at *
      omega
    rw [exactly_of_gt high, exactly, below]
  | some acc =>
    have value := (Word.ofInt?_eq_some_iff _ _).mp below
    have turned : -acc.toInt = m := by omega
    rw [exactly, below]
    simp only [Word.neg, Word.checked, turned, exactly]
    cases Word.ofInt? (m : Int) <;> rfl

/-- A text of the grammar is read as its value, if that is a word. -/
theorem parse_text (n : SignedDigits) : parse n.text = exactly n.text n.value := by
  have some : n.digits.isEmpty = false := by
    rw [Bool.eq_false_iff]
    exact fun empty => n.nonempty (List.isEmpty_iff.mp empty)
  simp only [parse, splitSign_text, some, Bool.false_eq_true, if_false, accumulate_zero n.text n.decimal]
  by_cases minus : n.sign = .minus
  · simp only [minus, decide_true, if_true, SignedDigits.value]
    cases exactly n.text (-(magnitude n.digits : Int)) <;> rfl
  · have value : n.value = magnitude n.digits := by
      rw [SignedDigits.value]
      split
      · rename_i sign
        exact absurd sign minus
      · rfl
    simp only [minus, decide_false, Bool.false_eq_true, if_false, value]
    exact neg_of_exactly n.text (magnitude n.digits)

theorem exists_signedDigits_of_parse {text : List UInt8} {w : Word} (h : parse text = .ok w) :
    ∃ n : SignedDigits, text = n.text := by
  obtain ⟨sign, split⟩ := exists_sign text
  simp only [parse] at h
  split at h
  · cases h
  · rename_i some
    split at h
    · cases h
    · rename_i acc read
      have nonempty : (splitSign text).2 ≠ [] := fun empty => some (List.isEmpty_iff.mpr empty)
      exact ⟨⟨sign, (splitSign text).2, nonempty, isDigit_of_accumulate read⟩, split⟩

theorem parse_eq_ok_iff (text : List UInt8) (w : Word) :
    parse text = .ok w ↔ ∃ n : SignedDigits, text = n.text ∧ w.toInt = n.value := by
  constructor
  · intro h
    obtain ⟨n, rfl⟩ := exists_signedDigits_of_parse h
    rw [parse_text, exactly_eq_ok_iff] at h
    exact ⟨n, rfl, h⟩
  · rintro ⟨n, rfl, value⟩
    rw [parse_text, exactly_eq_ok_iff]
    exact value

/-- A byte string is read if and only if it is an optional sign and decimal digits whose value is a word, and then as
that value. Everything else is a conversion fault. On the way no product or difference leaves the range unreported:
after any digits the accumulator is their exact value below zero, down to the least word. -/
theorem toWord_reads_signedDigits (s : ByteString) :
    (∀ w, s.toWord = .ok w ↔
      ∃ n : SignedDigits, s.bytes = n.text ∧ minWord ≤ n.value ∧ n.value ≤ maxWord ∧ w.toInt = n.value) ∧
    ((∀ n : SignedDigits, s.bytes = n.text → n.value < minWord ∨ maxWord < n.value) →
      ∃ f, s.toWord = .error f ∧ f.fault.kind = .conversion) ∧
    ∀ digits : List UInt8, (∀ b ∈ digits, isDigit b = true) →
      (∀ acc, accumulate s.bytes .zero digits = .ok acc ↔ acc.toInt = -magnitude digits) ∧
      (-(magnitude digits : Int) < minWord → accumulate s.bytes .zero digits = .error (.outOfRange s.bytes)) := by
  have grammar : ∀ w, s.toWord = .ok w ↔
      ∃ n : SignedDigits, s.bytes = n.text ∧ minWord ≤ n.value ∧ n.value ≤ maxWord ∧ w.toInt = n.value := by
    intro w
    rw [toWord, parse_eq_ok_iff]
    constructor
    · rintro ⟨n, text, value⟩
      exact ⟨n, text, value ▸ w.min_le, value ▸ w.le_max, value⟩
    · rintro ⟨n, text, _, _, value⟩
      exact ⟨n, text, value⟩
  refine ⟨grammar, fun foreign => ?_, fun digits decimal => ?_⟩
  · cases read : s.toWord with
    | error f => exact ⟨f, rfl, rfl⟩
    | ok w =>
      obtain ⟨n, text, low, high, _⟩ := (grammar w).mp read
      rcases foreign n text with below | above
      · omega
      · omega
  · rw [accumulate_zero s.bytes decimal]
    exact ⟨exactly_eq_ok_iff s.bytes _, exactly_of_lt⟩

end ByteString

end Quota
