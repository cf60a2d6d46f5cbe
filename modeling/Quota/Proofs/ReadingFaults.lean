import Mathlib.Data.List.TakeWhile
import Quota.Proofs.SignedDigits

set_option autoImplicit false

/-!
# Faults of reading

Which fault is reported for a text that is no word, said of the text alone. Syntax and range are tested in one pass over
the digits, so what shows first is reported, and in that pass the range ends at the least word, whatever the sign is.
-/
namespace Quota

namespace Decimal

variable {text rest : List UInt8} {sign : Sign}

theorem Sign.eq_of_octets_eq {a b : Sign} (h : a.octets = b.octets) : a = b := by
  cases a <;> cases b <;> simp [Sign.octets] at h ⊢

/-- The sign with which a text opens, if there is one, and what follows it. -/
structure Signed (text : List UInt8) (sign : Sign) (rest : List UInt8) : Prop where
  whole : text = sign.octets ++ rest
  unsigned : sign = .absent → ∀ b, rest.head? = some b → b ≠ 43 ∧ b ≠ 45

/-- The first byte that is no digit, where the digits before it do not pass the least word. -/
def Stray (rest : List UInt8) (b : UInt8) : Prop :=
  rest.find? (fun c => !isDigit c) = some b ∧ magnitude (rest.takeWhile isDigit) ≤ 2 ^ 63

/-- The leading digits pass the least word, or there are digits only and they just pass the greatest word. -/
def Exceeds (sign : Sign) (rest : List UInt8) : Prop :=
  2 ^ 63 < magnitude (rest.takeWhile isDigit) ∨
    (∀ b ∈ rest, isDigit b = true) ∧ magnitude rest = 2 ^ 63 ∧ sign ≠ .minus

/-- Digits and nothing else: they pass the range if their value with its sign is no word. -/
theorem exceeds_iff_of_decimal (decimal : ∀ b ∈ rest, isDigit b = true) (nonempty : rest ≠ []) :
    Exceeds sign rest ↔ Word.ofInt? (SignedDigits.mk sign rest nonempty decimal).value = none := by
  rw [Exceeds, List.takeWhile_eq_self_iff.mpr decimal, Word.ofInt?_eq_none_iff]
  unfold minWord maxWord
  by_cases minus : sign = .minus
  · subst minus
    have value : (SignedDigits.mk .minus rest nonempty decimal).value = -(magnitude rest : Int) := rfl
    rw [value]
    constructor
    · rintro (big | ⟨_, _, unsigned⟩)
      · omega
      · exact absurd rfl unsigned
    · intro out
      exact .inl (by omega)
  · have value : (SignedDigits.mk sign rest nonempty decimal).value = magnitude rest := by
      cases sign with
      | minus => exact absurd rfl minus
      | plus => rfl
      | absent => rfl
    rw [value]
    constructor
    · rintro (big | ⟨_, just, _⟩)
      · omega
      · omega
    · intro out
      by_cases just : magnitude rest = 2 ^ 63
      · exact .inr ⟨decimal, just, minus⟩
      · exact .inl (by omega)

end Decimal

namespace ConversionFault

/-- The text that is quoted. -/
def text : ConversionFault → List UInt8
  | .noDigits text => text
  | .unexpected text _ => text
  | .outOfRange text => text

/-- By how much the message is longer than what it quotes. -/
def surplus : ConversionFault → Nat
  | .noDigits _ => 20
  | .unexpected _ _ => 42
  | .outOfRange _ => 26

theorem length_message (f : ConversionFault) : f.message.length = (Utf8.lossy f.text).length + f.surplus := by
  cases f with
  | noDigits t =>
    have words : "'".length + "' is not an integer".length = 20 := by decide
    simp only [message, String.length_append, text, surplus]
    omega
  | unexpected t b =>
    have words : "'".length + "' is not an integer: unexpected byte 0x".length = 40 := by decide
    have digits : (Hex.octet b).length = 2 := rfl
    simp only [message, String.length_append, String.length_ofList, text, surplus]
    omega
  | outOfRange t =>
    have words : "'".length + "' is out of range for i64".length = 26 := by decide
    simp only [message, String.length_append, text, surplus]
    omega

/-- The message tells faults of one text apart. -/
theorem eq_of_message_eq {f g : ConversionFault} (same : f.text = g.text) (h : f.message = g.message) : f = g := by
  have lengths : f.surplus = g.surplus := by
    have total := congrArg String.length h
    rw [length_message, length_message, same] at total
    omega
  cases f with
  | noDigits t =>
    cases g with
    | noDigits u => exact congrArg noDigits same
    | unexpected u c => exact absurd lengths (by decide : 20 ≠ 42)
    | outOfRange u => exact absurd lengths (by decide : 20 ≠ 26)
  | unexpected t b =>
    cases g with
    | noDigits u => exact absurd lengths (by decide : 42 ≠ 20)
    | unexpected u c =>
      change t = u at same
      subst same
      simp only [message, String.append_right_inj, String.ofList_inj] at h
      rw [Hex.octet_inj h]
    | outOfRange u => exact absurd lengths (by decide : 42 ≠ 26)
  | outOfRange t =>
    cases g with
    | noDigits u => exact absurd lengths (by decide : 26 ≠ 20)
    | unexpected u c => exact absurd lengths (by decide : 26 ≠ 42)
    | outOfRange u => exact congrArg outOfRange same

end ConversionFault

namespace ByteString

open Decimal

variable {text rest : List UInt8} {sign : Sign}

theorem splitSign_of_signed (h : Signed text sign rest) : splitSign text = (decide (sign = .minus), rest) := by
  obtain ⟨rfl, unsigned⟩ := h
  cases sign with
  | plus => rfl
  | minus => rfl
  | absent =>
    cases rest with
    | nil => rfl
    | cons b rest =>
      obtain ⟨notPlus, notMinus⟩ := unsigned rfl b rfl
      simp only [Sign.octets, List.nil_append, splitSign, if_neg notMinus, if_neg notPlus]
      rfl

theorem exists_signed (text : List UInt8) : ∃ sign rest, Signed text sign rest := by
  cases text with
  | nil => exact ⟨.absent, [], rfl, fun _ b first => absurd first (by simp)⟩
  | cons b rest =>
    by_cases minus : b = 45
    · exact ⟨.minus, rest, by rw [minus]; rfl, fun absent => absurd absent (by decide)⟩
    · by_cases plus : b = 43
      · exact ⟨.plus, rest, by rw [plus]; rfl, fun absent => absurd absent (by decide)⟩
      · refine ⟨.absent, b :: rest, rfl, fun _ c first => ?_⟩
        obtain rfl := Option.some.inj first
        exact ⟨plus, minus⟩

theorem signed_unique {sign' : Sign} {rest' : List UInt8} (h : Signed text sign rest) (h' : Signed text sign' rest') :
    sign' = sign ∧ rest' = rest := by
  have parts := (splitSign_of_signed h').symm.trans (splitSign_of_signed h)
  obtain rfl : rest' = rest := congrArg Prod.snd parts
  exact ⟨Sign.eq_of_octets_eq (List.append_cancel_right (h'.whole.symm.trans h.whole)), rfl⟩

/-- Where a part of the digits is read, the rest is read with what it came to. -/
theorem accumulate_append (text : List UInt8) (acc : Word) (front back : List UInt8) :
    accumulate text acc (front ++ back) = (accumulate text acc front).bind fun next => accumulate text next back := by
  induction front generalizing acc with
  | nil => rfl
  | cons b front ih =>
    rw [List.cons_append, accumulate, accumulate]
    split
    · split
      · rfl
      · split
        · rfl
        · exact ih _
    · rfl

theorem accumulate_stray (text : List UInt8) {digits : List UInt8} (decimal : ∀ c ∈ digits, isDigit c = true)
    {b : UInt8} (stray : isDigit b = false) (back : List UInt8) :
    accumulate text .zero (digits ++ b :: back) =
      .error (if magnitude digits ≤ 2 ^ 63 then .unexpected text b else .outOfRange text) := by
  rw [accumulate_append, accumulate_zero text decimal]
  by_cases small : magnitude digits ≤ 2 ^ 63
  · have word : minWord ≤ -(magnitude digits : Int) ∧ -(magnitude digits : Int) ≤ maxWord := by
      unfold minWord maxWord
      omega
    have read : exactly text (-magnitude digits) = .ok ⟨-magnitude digits, word.1, word.2⟩ :=
      (exactly_eq_ok_iff _ _ _).mpr rfl
    rw [read, if_pos small]
    simp [Except.bind, accumulate, stray]
  · have low : -(magnitude digits : Int) < minWord := by
      unfold minWord
      omega
    rw [exactly_of_lt low, if_neg small]
    rfl

theorem parse_of_accumulate_error (h : Signed text sign rest) (nonempty : rest ≠ []) {f : ConversionFault}
    (failed : accumulate text .zero rest = .error f) : parse text = .error f := by
  have some : rest.isEmpty = false := List.isEmpty_eq_false_iff.mpr nonempty
  simp only [parse, splitSign_of_signed h, some, failed, Bool.false_eq_true, if_false]

/-- What comes of a first byte that is no digit. -/
theorem parse_of_find? (h : Signed text sign rest) {b : UInt8} (first : rest.find? (fun c => !isDigit c) = some b) :
    parse text =
      .error (if magnitude (rest.takeWhile isDigit) ≤ 2 ^ 63 then .unexpected text b else .outOfRange text) := by
  obtain ⟨stray, digits, back, rfl, decimal⟩ := List.find?_eq_some_iff_append.mp first
  simp only [Bool.not_not] at decimal
  rw [Bool.not_eq_true'] at stray
  have leading : (digits ++ b :: back).takeWhile isDigit = digits := by
    rw [List.takeWhile_append_of_pos decimal, List.takeWhile_cons_of_neg (by rw [stray]; decide), List.append_nil]
  rw [leading]
  exact parse_of_accumulate_error h (by simp) (accumulate_stray text decimal stray back)

/-- What comes of digits and nothing else. -/
theorem parse_of_decimal (h : Signed text sign rest) (nonempty : rest ≠ []) (decimal : ∀ b ∈ rest, isDigit b = true) :
    parse text = exactly text (SignedDigits.mk sign rest nonempty decimal).value := by
  rw [h.whole]
  exact parse_text ⟨sign, rest, nonempty, decimal⟩

end ByteString

namespace ConversionFault

open Decimal

/-- The fault is the one that fits a text with this sign and this rest. -/
def Befits (sign : Sign) (rest : List UInt8) : ConversionFault → Prop
  | .noDigits _ => rest = []
  | .unexpected _ b => Stray rest b
  | .outOfRange _ => Exceeds sign rest

end ConversionFault

namespace ByteString

open Decimal

variable {text rest : List UInt8} {sign : Sign}

theorem parse_of_befits (h : Signed text sign rest) {f : ConversionFault} (quoted : f.text = text)
    (fits : f.Befits sign rest) : parse text = .error f := by
  cases f with
  | noDigits t =>
    obtain rfl : t = text := quoted
    have empty : rest = [] := fits
    simp only [parse, splitSign_of_signed h, empty, List.isEmpty_nil, if_true]
  | unexpected t b =>
    obtain rfl : t = text := quoted
    obtain ⟨first, small⟩ := fits
    rw [parse_of_find? h first, if_pos small]
  | outOfRange t =>
    obtain rfl : t = text := quoted
    have exceeds : Exceeds sign rest := fits
    cases first : rest.find? fun c => !isDigit c with
    | some b =>
      have big : 2 ^ 63 < magnitude (rest.takeWhile isDigit) := by
        rcases exceeds with big | ⟨decimal, _⟩
        · exact big
        · have other := List.find?_some first
          rw [decimal b (List.mem_of_find?_eq_some first)] at other
          cases other
      rw [parse_of_find? h first, if_neg (by omega)]
    | none =>
      have decimal : ∀ b ∈ rest, isDigit b = true := by simpa using first
      have nonempty : rest ≠ [] := by
        rintro rfl
        rcases exceeds with big | ⟨_, value, _⟩
        · exact absurd big (by decide)
        · exact absurd value (by decide)
      rw [parse_of_decimal h nonempty decimal, exactly, (exceeds_iff_of_decimal decimal nonempty).mp exceeds]

theorem befits_unique (h : Signed text sign rest) {f g : ConversionFault} (quoted : f.text = text)
    (quoted' : g.text = text) (fits : f.Befits sign rest) (fits' : g.Befits sign rest) : f = g :=
  Except.error.inj ((parse_of_befits h quoted fits).symm.trans (parse_of_befits h quoted' fits'))

/-- Some fault fits every text that is no word. -/
theorem exists_befits_or_ok (h : Signed text sign rest) :
    (∃ f : ConversionFault, f.text = text ∧ f.Befits sign rest) ∨ ∃ w, parse text = .ok w := by
  by_cases nonempty : rest = []
  · exact .inl ⟨.noDigits text, rfl, nonempty⟩
  by_cases exceeds : Exceeds sign rest
  · exact .inl ⟨.outOfRange text, rfl, exceeds⟩
  cases first : rest.find? fun c => !isDigit c with
  | some b =>
    have small : magnitude (rest.takeWhile isDigit) ≤ 2 ^ 63 := Nat.not_lt.mp fun big => exceeds (.inl big)
    exact .inl ⟨.unexpected text b, rfl, first, small⟩
  | none =>
    have decimal : ∀ b ∈ rest, isDigit b = true := by simpa using first
    rw [exceeds_iff_of_decimal decimal nonempty] at exceeds
    obtain ⟨w, value⟩ := Option.ne_none_iff_exists'.mp exceeds
    right
    rw [parse_of_decimal h nonempty decimal, exactly, value]
    exact ⟨w, rfl⟩

theorem befits_of_parse (h : Signed text sign rest) {f : ConversionFault} (failed : parse text = .error f) :
    f.text = text ∧ f.Befits sign rest := by
  rcases exists_befits_or_ok h with ⟨g, quoted, fits⟩ | ⟨w, read⟩
  · have other := parse_of_befits h quoted fits
    rw [failed] at other
    cases other
    exact ⟨quoted, fits⟩
  · rw [failed] at read
    cases read

theorem exists_parse_error_iff (h : Signed text sign rest) :
    (∃ f, parse text = .error f) ↔ rest = [] ∨ (∃ b, Stray rest b) ∨ Exceeds sign rest := by
  constructor
  · rintro ⟨f, failed⟩
    have fits := (befits_of_parse h failed).2
    cases f with
    | noDigits t => exact .inl fits
    | unexpected t b => exact .inr (.inl ⟨b, fits⟩)
    | outOfRange t => exact .inr (.inr fits)
  · rintro (empty | ⟨b, stray⟩ | exceeds)
    · exact ⟨.noDigits text, parse_of_befits h rfl empty⟩
    · exact ⟨.unexpected text b, parse_of_befits h rfl stray⟩
    · exact ⟨.outOfRange text, parse_of_befits h rfl exceeds⟩

/-- The report names the fault that fits, and no other. -/
theorem mapError_toWord_iff {s : ByteString} (h : Signed s.bytes sign rest) {f : ConversionFault}
    (quoted : f.text = s.bytes) :
    s.toWord.mapError ConversionFault.fault = .error f.fault ↔ f.Befits sign rest := by
  constructor
  · intro reported
    cases failed : s.toWord with
    | ok w =>
      rw [failed] at reported
      cases reported
    | error g =>
      rw [failed] at reported
      obtain ⟨other, fits⟩ := befits_of_parse h failed
      have message : g.message = f.message := congrArg Fault.message (Except.error.inj reported)
      rwa [ConversionFault.eq_of_message_eq (other.trans quoted.symm) message] at fits
  · intro fits
    rw [toWord, parse_of_befits h quoted fits]
    rfl

/-- A byte string that is no word is reported in one of three ways, which exclude each other. With the sign taken off:
there is nothing left; or the first byte that is no digit is named, where the digits before it come to 2^63 at most; or
the value is out of range, as the leading digits come to more than 2^63, or they are all there is, come to just 2^63 and
are not signed minus. -/
theorem toWord_faults_classified (s : ByteString) :
    ∃ sign rest, (∀ sign' rest', Signed s.bytes sign' rest' ↔ sign' = sign ∧ rest' = rest) ∧
      (s.toWord.mapError ConversionFault.fault =
          .error ⟨.conversion, "'" ++ s.display ++ "' is not an integer"⟩ ↔ rest = []) ∧
      (∀ b, s.toWord.mapError ConversionFault.fault =
          .error ⟨.conversion, "'" ++ s.display ++ "' is not an integer: unexpected byte 0x" ++
            String.ofList (Hex.octet b)⟩ ↔ Stray rest b) ∧
      (s.toWord.mapError ConversionFault.fault =
          .error ⟨.conversion, "'" ++ s.display ++ "' is out of range for i64"⟩ ↔ Exceeds sign rest) ∧
      ((∃ f, s.toWord = .error f) ↔ rest = [] ∨ (∃ b, Stray rest b) ∨ Exceeds sign rest) ∧
      (rest = [] → ¬ Exceeds sign rest) ∧ ∀ b, Stray rest b → rest ≠ [] ∧ ¬ Exceeds sign rest := by
  obtain ⟨sign, rest, h⟩ := exists_signed s.bytes
  refine ⟨sign, rest, ?_, mapError_toWord_iff (f := .noDigits s.bytes) h rfl,
    fun b => mapError_toWord_iff (f := .unexpected s.bytes b) h rfl,
    mapError_toWord_iff (f := .outOfRange s.bytes) h rfl, exists_parse_error_iff h, ?_, ?_⟩
  · intro sign' rest'
    refine ⟨signed_unique h, ?_⟩
    rintro ⟨rfl, rfl⟩
    exact h
  · intro empty exceeds
    cases befits_unique (f := .noDigits s.bytes) (g := .outOfRange s.bytes) h rfl rfl empty exceeds
  · intro b stray
    constructor
    · intro empty
      cases befits_unique (f := .noDigits s.bytes) (g := .unexpected s.bytes b) h rfl rfl empty stray
    · intro exceeds
      cases befits_unique (f := .unexpected s.bytes b) (g := .outOfRange s.bytes) h rfl rfl stray exceeds

/-- With 2^63 before it the letter is still reached, with more it is not. -/
example :
    parse (Utf8.encode "9223372036854775808x") = .error (.unexpected (Utf8.encode "9223372036854775808x") 120) ∧
      parse (Utf8.encode "99999999999999999999x") = .error (.outOfRange (Utf8.encode "99999999999999999999x")) := by
  decide +kernel

end ByteString

end Quota
