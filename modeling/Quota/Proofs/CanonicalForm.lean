import Mathlib.Data.List.Induction
import Quota.Proofs.SignedDigits

set_option autoImplicit false

/-!
# Canonical decimal forms

An integer is written in one form and read in many: a plus sign and leading zeros change nothing, and zero may have a
minus sign. Writing what was read gives the canonical one of these forms, and reading what was written gives the integer
back, down to the least word.
-/
namespace Quota

namespace Decimal

theorem toNat_digit {d : Nat} (h : d < 10) : (digit d).toNat = 48 + d := by
  rw [digit, UInt8.toNat_ofNat', Nat.mod_eq_of_lt (by omega)]

theorem isDigit_digit {d : Nat} (h : d < 10) : isDigit (digit d) = true := by
  rw [isDigit, toNat_digit h, Bool.and_eq_true, decide_eq_true_eq, decide_eq_true_eq]
  omega

theorem value_digit {d : Nat} (h : d < 10) : value (digit d) = d := by
  rw [value, toNat_digit h]
  omega

theorem digit_value {b : UInt8} (h : isDigit b = true) : digit (value b) = b := by
  simp only [isDigit, Bool.and_eq_true, decide_eq_true_eq] at h
  rw [digit, value, show 48 + (b.toNat - 48) = b.toNat by omega, UInt8.ofNat_toNat]

theorem value_lt {b : UInt8} (h : isDigit b = true) : value b < 10 := by
  simp only [isDigit, Bool.and_eq_true, decide_eq_true_eq] at h
  rw [value]
  omega

theorem value_eq_zero_iff {b : UInt8} (h : isDigit b = true) : value b = 0 ↔ b = 48 := by
  constructor
  · intro zero
    rw [← digit_value h, zero]
    rfl
  · rintro rfl
    rfl

theorem magnitude_concat (front : List UInt8) (b : UInt8) :
    magnitude (front ++ [b]) = magnitude front * 10 + value b := by
  simp only [magnitude, List.map_append, List.map_cons, List.map_nil, List.reverse_append, List.reverse_cons,
    List.reverse_nil, List.nil_append, List.singleton_append, Nat.ofDigits_cons]
  ring

theorem magnitude_digits (n : Nat) : magnitude (digits n) = n := by
  induction n using Nat.strong_induction_on with
  | _ n ih =>
    rw [digits]
    split
    · rename_i small
      rw [magnitude_cons, value_digit small, magnitude_nil, List.length_nil]
      omega
    · rw [magnitude_concat, ih (n / 10) (by omega), value_digit (Nat.mod_lt n (by decide))]
      omega

theorem digits_ne_nil (n : Nat) : digits n ≠ [] := by
  rw [digits]
  split <;> simp

theorem isDigit_of_mem_digits (n : Nat) : ∀ b ∈ digits n, isDigit b = true := by
  induction n using Nat.strong_induction_on with
  | _ n ih =>
    rw [digits]
    split
    · rename_i small
      intro b member
      rw [List.mem_singleton.mp member]
      exact isDigit_digit small
    · intro b member
      rcases List.mem_append.mp member with front | last
      · exact ih (n / 10) (by omega) b front
      · rw [List.mem_singleton.mp last]
        exact isDigit_digit (Nat.mod_lt n (by decide))

/-- Digits without their leading zeros, down to the last digit. -/
def trimZeros : List UInt8 → List UInt8
  | [] => []
  | [b] => [b]
  | b :: c :: rest => if b = 48 then trimZeros (c :: rest) else b :: c :: rest

/-- The canonical form of a text: without a plus sign and leading zeros, and with a minus sign only below zero. -/
def canonical : List UInt8 → List UInt8
  | [] => []
  | b :: rest =>
    if b = 45 then
      if magnitude rest = 0 then trimZeros rest else 45 :: trimZeros rest
    else if b = 43 then trimZeros rest
    else trimZeros (b :: rest)

theorem canonical_eq_splitSign (text : List UInt8) :
    canonical text =
      if (ByteString.splitSign text).1 ∧ magnitude (ByteString.splitSign text).2 ≠ 0 then
        45 :: trimZeros (ByteString.splitSign text).2
      else trimZeros (ByteString.splitSign text).2 := by
  cases text with
  | nil => rfl
  | cons b rest =>
    simp only [canonical, ByteString.splitSign]
    by_cases minus : b = 45
    · by_cases zero : magnitude rest = 0
      · simp [minus, zero]
      · simp [minus, zero]
    · by_cases plus : b = 43
      · simp [plus]
      · simp [minus, plus]

theorem trimZeros_concat {front : List UInt8} (nonempty : front ≠ []) (decimal : ∀ b ∈ front, isDigit b = true)
    (last : UInt8) :
    trimZeros (front ++ [last]) = if magnitude front = 0 then [last] else trimZeros front ++ [last] := by
  induction front with
  | nil => exact absurd rfl nonempty
  | cons b rest ih =>
    have zero := value_eq_zero_iff (decimal b List.mem_cons_self)
    have power : 0 < 10 ^ rest.length := Nat.pow_pos (by decide)
    by_cases lead : b = 48
    · have same : magnitude (b :: rest) = magnitude rest := by
        rw [magnitude_cons, zero.mpr lead, Nat.zero_mul, Nat.zero_add]
      rw [same]
      cases rest with
      | nil => simp [trimZeros, magnitude_nil, lead]
      | cons c rest =>
        have later := ih (List.cons_ne_nil c rest) fun d member => decimal d (List.mem_cons_of_mem b member)
        simp only [List.cons_append, trimZeros, if_pos lead] at later ⊢
        exact later
    · have positive : magnitude (b :: rest) ≠ 0 := by
        have product := Nat.mul_pos (Nat.pos_of_ne_zero (mt zero.mp lead)) power
        rw [magnitude_cons]
        omega
      rw [if_neg positive]
      cases rest with
      | nil => simp [trimZeros, lead]
      | cons c rest => simp [trimZeros, lead]

/-- Writing the number of some digits leaves out their leading zeros. -/
theorem digits_magnitude {text : List UInt8} (nonempty : text ≠ []) (decimal : ∀ b ∈ text, isDigit b = true) :
    digits (magnitude text) = trimZeros text := by
  induction text using List.reverseRecOn with
  | nil => exact absurd rfl nonempty
  | append_singleton front last ih =>
    have earlier : ∀ b ∈ front, isDigit b = true := fun b member => decimal b (List.mem_append_left _ member)
    have final : isDigit last = true := decimal last (by simp)
    have small := value_lt final
    rw [magnitude_concat]
    by_cases alone : front = []
    · subst alone
      rw [magnitude_nil, Nat.zero_mul, Nat.zero_add, digits, if_pos small, digit_value final]
      rfl
    · rw [trimZeros_concat alone earlier]
      split
      · rename_i zero
        rw [zero, Nat.zero_mul, Nat.zero_add, digits, if_pos small, digit_value final]
      · rename_i positive
        have high : (magnitude front * 10 + value last) / 10 = magnitude front := by omega
        have low : (magnitude front * 10 + value last) % 10 = value last := by omega
        rw [digits, if_neg (by omega), high, low, ih alone earlier, digit_value final]

/-- The digits of an integer behind its sign. -/
def ofInteger (v : Int) : SignedDigits where
  sign := if v < 0 then .minus else .absent
  digits := digits v.natAbs
  nonempty := digits_ne_nil v.natAbs
  decimal := isDigit_of_mem_digits v.natAbs

theorem text_ofInteger (v : Int) : (ofInteger v).text = ofInt v := by
  by_cases below : v < 0
  · simp [SignedDigits.text, ofInteger, ofInt, below, Sign.octets]
  · simp [SignedDigits.text, ofInteger, ofInt, below, Sign.octets]

theorem value_ofInteger (v : Int) : (ofInteger v).value = v := by
  by_cases below : v < 0
  · simp only [SignedDigits.value, ofInteger, if_pos below, magnitude_digits]
    omega
  · simp only [SignedDigits.value, ofInteger, if_neg below, magnitude_digits]
    omega

/-- Writing the value of a text gives its canonical form. -/
theorem ofInt_value (n : SignedDigits) : ofInt n.value = canonical n.text := by
  have trimmed := digits_magnitude n.nonempty n.decimal
  rw [canonical_eq_splitSign, ByteString.splitSign_text]
  cases sign : n.sign with
  | minus =>
    simp only [SignedDigits.value, sign, ofInt, Int.natAbs_neg, Int.natAbs_natCast, trimmed]
    by_cases zero : magnitude n.digits = 0
    · rw [if_neg (by omega), if_neg (fun h => h.2 zero)]
    · rw [if_pos (by omega), if_pos ⟨rfl, zero⟩]
  | absent | plus =>
    simp only [SignedDigits.value, sign, ofInt, Int.natAbs_natCast, trimmed]
    rw [if_neg (by omega), if_neg (by simp)]

end Decimal

namespace ByteString

open Decimal

theorem parse_ofInt (v : Word) : parse (Decimal.ofInt v.toInt) = .ok v :=
  (parse_eq_ok_iff _ v).mpr ⟨ofInteger v.toInt, (text_ofInteger v.toInt).symm, (value_ofInteger v.toInt).symm⟩

theorem ofInt_of_parse {text : List UInt8} {v : Word} (h : parse text = .ok v) :
    Decimal.ofInt v.toInt = canonical text := by
  obtain ⟨n, rfl, value⟩ := (parse_eq_ok_iff text v).mp h
  rw [value, ofInt_value]

theorem ofInt_of_reserve {alloc : Allocator} {source : Source} {v : Int} {books after : Books} {block : Block}
    (granted : Block.reserve alloc source .byte (Decimal.ofInt v).length books = (.ok block, after)) :
    ofInt alloc source v books = (.ok (.owned block (Decimal.ofInt v)), after) := by
  rw [ofInt, ofBytes, granted]

/-- Reading and writing integers are inverse up to the canonical form. What is written for a word, if its block is
granted, is read as that word; what is written for a word that was read is the canonical form of the text. So two
texts denote the same word if and only if they have the same canonical form. -/
theorem canonical_round_trips :
    (∀ (alloc : Allocator) (source : Source) (v : Word) (books after : Books) (block : Block),
      Block.reserve alloc source .byte (Decimal.ofInt v.toInt).length books = (.ok block, after) →
      ∃ t, ofInt alloc source v.toInt books = (.ok t, after) ∧ t.toWord = .ok v ∧
        ∀ s : ByteString, s.toWord = .ok v → t.bytes = canonical s.bytes) ∧
    ∀ (s t : ByteString) (v w : Word), s.toWord = .ok v → t.toWord = .ok w →
      (v = w ↔ canonical s.bytes = canonical t.bytes) := by
  refine ⟨fun alloc source v books after block granted => ?_, fun s t v w first second => ⟨?_, fun same => ?_⟩⟩
  · exact ⟨_, ofInt_of_reserve granted, parse_ofInt v, fun s read => ofInt_of_parse read⟩
  · rintro rfl
    rw [← ofInt_of_parse first, ← ofInt_of_parse second]
  · have written : Decimal.ofInt v.toInt = Decimal.ofInt w.toInt := by
      rw [ofInt_of_parse first, ofInt_of_parse second, same]
    have read := parse_ofInt v
    rw [written, parse_ofInt w] at read
    cases read
    rfl

/-- Zero is written in one byte, which is what remains of a minus sign and three zeros. -/
theorem ofInt_zero_eq_canonical :
    ∃ t, (ofInt .granting (.budget 0) 0 (.ofLimits [1])).1 = .ok t ∧ t.toWord = .ok .zero ∧
      t.bytes = canonical [45, 48, 48, 48] ∧ canonical [45, 48, 48, 48] = canonical [43, 48] := by
  have digits : Decimal.ofInt Word.zero.toInt = [48] := by simp [Decimal.ofInt, Decimal.digits, Word.zero, digit]
  obtain ⟨t, made, read, form⟩ := canonical_round_trips.1 .granting (.budget 0) .zero (.ofLimits [1]) _ _
    (by rw [digits]; rfl)
  have same := canonical_round_trips.2 (.literal .heap [45, 48, 48, 48]) (.literal .heap [43, 48]) .zero .zero
    (by decide) (by decide)
  exact ⟨t, by rw [show (0 : Int) = Word.zero.toInt from rfl, made], read,
    form (.literal .heap [45, 48, 48, 48]) (by decide), same.mp rfl⟩

end ByteString

end Quota
