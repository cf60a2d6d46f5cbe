set_option autoImplicit false

/-!
# Hexadecimal text

Digits of octets, of sixteen-bit codes and of natural numbers. Octets are written in lower case with two digits,
codes in upper case with four.
-/
namespace Quota.Hex

/-- The lower-case digit of a value below sixteen. -/
def digit (n : Nat) : Char :=
  if n < 10 then Char.ofNat (48 + n) else Char.ofNat (87 + n)

/-- The upper-case digit of a value below sixteen. -/
def upperDigit (n : Nat) : Char :=
  if n < 10 then Char.ofNat (48 + n) else Char.ofNat (55 + n)

/-- Two lower-case digits. -/
def octet (b : UInt8) : List Char :=
  [digit (b.toNat / 16), digit (b.toNat % 16)]

theorem digit_inj {m n : Nat} (hm : m < 16) (hn : n < 16) (h : digit m = digit n) : m = n := by
  have distinct : ∀ i < 16, ∀ j < 16, digit i = digit j → i = j := by decide
  exact distinct m hm n hn h

theorem octet_inj {b c : UInt8} (h : octet b = octet c) : b = c := by
  obtain ⟨high, rest⟩ := List.cons.inj h
  obtain ⟨low, _⟩ := List.cons.inj rest
  have bounds := And.intro b.toNat_lt c.toNat_lt
  have upper := digit_inj (by omega) (by omega) high
  have lower := digit_inj (Nat.mod_lt _ (by decide)) (Nat.mod_lt _ (by decide)) low
  apply UInt8.toNat_inj.mp
  omega

/-- Every octet in turn, two digits each. -/
def octets (bytes : List UInt8) : String :=
  String.ofList (bytes.flatMap octet)

/-- Four upper-case digits, most significant first. -/
def code (w : UInt16) : List Char :=
  [upperDigit (w.toNat / 4096), upperDigit (w.toNat / 256 % 16),
    upperDigit (w.toNat / 16 % 16), upperDigit (w.toNat % 16)]

theorem upperDigit_inj {m n : Nat} (hm : m < 16) (hn : n < 16) (h : upperDigit m = upperDigit n) : m = n := by
  have distinct : ∀ i < 16, ∀ j < 16, upperDigit i = upperDigit j → i = j := by decide
  exact distinct m hm n hn h

theorem code_inj {v w : UInt16} (h : code v = code w) : v = w := by
  obtain ⟨first, rest⟩ := List.cons.inj h
  obtain ⟨second, rest⟩ := List.cons.inj rest
  obtain ⟨third, rest⟩ := List.cons.inj rest
  obtain ⟨last, _⟩ := List.cons.inj rest
  have bounds := And.intro v.toNat_lt w.toNat_lt
  have one := upperDigit_inj (by omega) (by omega) first
  have two := upperDigit_inj (by omega) (by omega) second
  have three := upperDigit_inj (by omega) (by omega) third
  have four := upperDigit_inj (by omega) (by omega) last
  apply UInt16.toNat_inj.mp
  omega

/-- Lower-case digits without leading zeros. -/
def minimal (n : Nat) : String :=
  String.ofList (Nat.toDigits 16 n)

end Quota.Hex
