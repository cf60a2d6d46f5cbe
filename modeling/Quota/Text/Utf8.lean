set_option autoImplicit false

/-!
# UTF-8 as an octet machine

`scan` reads octets one at a time. It keeps what a multi-octet sequence still expects, and answers one entry per
scalar value and one empty entry per maximal malformed part. Strict decoding succeeds when no entry is empty;
lossy decoding writes the replacement character for each empty one.
-/
namespace Quota.Utf8

/-- The first octets of an array, before those in `tail`. -/
def listed (b : ByteArray) : (count : Nat) → (tail : List UInt8) → List UInt8
  | 0, tail => tail
  | n + 1, tail => listed b n (if h : n < b.size then b[n] :: tail else tail)

def encode (s : String) : List UInt8 := listed s.toByteArray s.toByteArray.size []

theorem listed_eq_take (b : ByteArray) (count : Nat) (tail : List UInt8) :
    listed b count tail = b.data.toList.take count ++ tail := by
  induction count generalizing tail with
  | zero => simp [listed]
  | succ n ih =>
    rw [listed, ih, List.take_add_one]
    split
    · rename_i h
      have next : b.data.toList[n]? = some b[n] := by
        rw [Array.getElem?_toList, Array.getElem?_eq_getElem h]
        rfl
      simp [next]
    · rename_i h
      have none : b.data.toList[n]? = none := by
        rw [Array.getElem?_toList]
        exact Array.getElem?_eq_none (Nat.le_of_not_lt h)
      simp [none]

/-- Every scalar value gives its octets, one to four, in order. -/
theorem encode_eq_flatMap (s : String) : encode s = s.toList.flatMap String.utf8EncodeChar := by
  have whole : s.toByteArray.data.toList.take s.toByteArray.size = s.toByteArray.data.toList :=
    List.take_length
  rw [encode, listed_eq_take, whole, List.append_nil, ← String.utf8Encode_toList, List.utf8Encode,
    List.toList_data_toByteArray]

/-- A sequence that has begun: how many octets it still needs, the bounds of the next one, and the bits read so far. -/
structure Pending where
  need : Nat
  lo : Nat
  hi : Nat
  value : Nat
deriving DecidableEq, Repr

/-- What an octet yields at once, and the sequence it leaves open. -/
abbrev Progress := List (Option Char) × Option Pending

/-- Read an octet where no sequence is open. The bounds on the second octet exclude overlong forms, surrogates and
values above the last scalar value. -/
def start (b : UInt8) : Progress :=
  let n := b.toNat
  if n < 0x80 then ([some (Char.ofNat n)], none)
  else if n < 0xC2 then ([none], none)
  else if n < 0xE0 then ([], some ⟨1, 0x80, 0xBF, n - 0xC0⟩)
  else if n = 0xE0 then ([], some ⟨2, 0xA0, 0xBF, 0⟩)
  else if n = 0xED then ([], some ⟨2, 0x80, 0x9F, 0xD⟩)
  else if n < 0xF0 then ([], some ⟨2, 0x80, 0xBF, n - 0xE0⟩)
  else if n = 0xF0 then ([], some ⟨3, 0x90, 0xBF, 0⟩)
  else if n < 0xF4 then ([], some ⟨3, 0x80, 0xBF, n - 0xF0⟩)
  else if n = 0xF4 then ([], some ⟨3, 0x80, 0x8F, 4⟩)
  else ([none], none)

/-- Read an octet inside a sequence. An octet out of bounds ends the sequence as malformed and is read afresh. -/
def resume (p : Pending) (b : UInt8) : Progress :=
  if p.lo ≤ b.toNat ∧ b.toNat ≤ p.hi then
    let value := p.value * 64 + b.toNat % 64
    if p.need ≤ 1 then ([some (Char.ofNat value)], none)
    else ([], some ⟨p.need - 1, 0x80, 0xBF, value⟩)
  else
    (none :: (start b).1, (start b).2)

def step (state : Option Pending) (b : UInt8) : Progress :=
  match state with
  | none => start b
  | some p => resume p b

/-- The entries of the remaining octets; an open sequence at the end is one malformed part. -/
def scanFrom : Option Pending → List UInt8 → List (Option Char)
  | none, [] => []
  | some _, [] => [none]
  | state, b :: rest => (step state b).1 ++ scanFrom (step state b).2 rest

/-- One entry per scalar value or maximal malformed part. -/
def scan (bytes : List UInt8) : List (Option Char) := scanFrom none bytes

/-- Whether the octets are well-formed throughout. -/
def isValid (bytes : List UInt8) : Bool := (scan bytes).all Option.isSome

/-- The text of well-formed octets. -/
def decode? (bytes : List UInt8) : Option String :=
  if isValid bytes then some (String.ofList ((scan bytes).filterMap id)) else none

/-- U+FFFD. -/
def replacement : Char := Char.ofNat 0xFFFD

/-- The text of any octets: each maximal malformed part reads as one replacement character. -/
def lossy (bytes : List UInt8) : String :=
  String.ofList ((scan bytes).map fun c => c.getD replacement)

end Quota.Utf8
