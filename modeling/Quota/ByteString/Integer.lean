import Quota.ByteString.Basic

set_option autoImplicit false

/-!
# Integers from byte strings

An optional sign and at least one decimal digit. The digits are accumulated below zero, so that the least word can be
read; a byte that is no digit and a value out of range are reported at the first place where either shows.
-/
namespace Quota

/-- Why a text is no word. -/
inductive ConversionFault where
  | noDigits (text : List UInt8)
  | unexpected (text : List UInt8) (byte : UInt8)
  | outOfRange (text : List UInt8)
deriving DecidableEq, Repr

namespace ConversionFault

def message : ConversionFault → String
  | .noDigits text => "'" ++ Utf8.lossy text ++ "' is not an integer"
  | .unexpected text byte =>
    "'" ++ Utf8.lossy text ++ "' is not an integer: unexpected byte 0x" ++ String.ofList (Hex.octet byte)
  | .outOfRange text => "'" ++ Utf8.lossy text ++ "' is out of range for i64"

def fault (f : ConversionFault) : Fault := ⟨.conversion, f.message⟩

end ConversionFault

namespace ByteString

/-- Whether the text is signed minus, and what follows the sign. -/
def splitSign : List UInt8 → Bool × List UInt8
  | [] => (false, [])
  | b :: rest => if b = 45 then (true, rest) else if b = 43 then (false, rest) else (false, b :: rest)

/-- Ten times the accumulator less the next digit, for every digit. -/
def accumulate (text : List UInt8) : Word → List UInt8 → Except ConversionFault Word
  | acc, [] => .ok acc
  | acc, b :: rest =>
    if Decimal.isDigit b then
      match acc.mul .ten with
      | .error _ => .error (.outOfRange text)
      | .ok shifted =>
        match shifted.sub (.ofByte (b - 48)) with
        | .error _ => .error (.outOfRange text)
        | .ok acc => accumulate text acc rest
    else .error (.unexpected text b)

/-- The word that a text denotes. -/
def parse (text : List UInt8) : Except ConversionFault Word :=
  let (negative, digits) := splitSign text
  if digits.isEmpty then .error (.noDigits text)
  else
    match accumulate text .zero digits with
    | .error f => .error f
    | .ok acc =>
      if negative then .ok acc
      else
        match acc.neg with
        | .error _ => .error (.outOfRange text)
        | .ok w => .ok w

/-- The word that a byte string denotes. -/
def toWord (s : ByteString) : Except ConversionFault Word := parse s.bytes

end ByteString

end Quota
