import Quota.ByteString.Basic
import Quota.Container.FixedArray

set_option autoImplicit false

/-!
# Transforms of byte strings

Substring, concatenation, formatting and replacement. Each computes the length of its result first and then reserves
exactly that much from the source of the string it transforms.
-/
namespace Quota

/-- Why a range was refused; the tests are made in this order. -/
inductive RangeFault where
  | startNegative (start : Int)
  | stopNegative (stop : Int)
  | crossed (start stop : Int)
  | beyond (stop : Int) (length : Nat)
  | vacant (start stop : Int)
  | unaddressable (start stop : Int)
deriving DecidableEq, Repr

def RangeFault.message : RangeFault → String
  | .startNegative start => s!"substring start {start} is negative"
  | .stopNegative stop => s!"substring end {stop} is negative"
  | .crossed start stop => s!"substring start {start} is greater than end {stop}"
  | .beyond stop length => s!"substring end {stop} exceeds length {length}"
  | .vacant start stop => s!"substring range {start}..{stop} is empty"
  | .unaddressable start stop => s!"substring range {start}..{stop} is not addressable"

inductive SubstringFault where
  | range (f : RangeFault)
  | storage (f : StorageFault)
deriving DecidableEq, Repr

def SubstringFault.fault : SubstringFault → Fault
  | .range f => ⟨.index, f.message⟩
  | .storage f => f.fault

/-- Why a concatenation cannot be answered. -/
inductive ConcatStop where
  | length (f : ArithmeticFault)
  | negative (total : Word)
  | storage (f : StorageFault)
deriving DecidableEq

def ConcatStop.fragments : ConcatStop → List String
  | .length f => ["concat: ", f.message]
  | .negative total => ["concat: negative length ", toString total.toInt]
  | .storage f => ["concat: ", f.message]

inductive FormatFault where
  | length (argument : Nat) (f : ArithmeticFault)
  | unaddressable (total : Word)
  | index (f : IndexFault)
  | storage (f : StorageFault)
deriving DecidableEq

def FormatFault.fault : FormatFault → Fault
  | .length argument f => ⟨.overflow, s!"formatted length overflows at argument {argument}: {f.message}"⟩
  | .unaddressable total => ⟨.overflow, s!"formatted length {total.toInt} is not addressable"⟩
  | .index f => f.fault
  | .storage f => f.fault

namespace ByteString

/-- Whether `start` and `stop` bound a range of at least one byte. -/
def checkRange (length : Nat) (start stop : Int) : Except RangeFault Unit :=
  if start < 0 then .error (.startNegative start)
  else if stop < 0 then .error (.stopNegative stop)
  else if start > stop then .error (.crossed start stop)
  else if stop > length then .error (.beyond stop length)
  else if start = stop then .error (.vacant start stop)
  else .ok ()

/-- The bytes from one offset up to another, if the offsets are in order and inside. -/
def slice? (bytes : List UInt8) (start stop : Nat) : Option (List UInt8) :=
  if start ≤ stop ∧ stop ≤ bytes.length then some ((bytes.drop start).take (stop - start)) else none

/-- The bytes from `start` up to `stop`, if both can be taken for offsets. -/
def window? (bytes : List UInt8) (start stop : Int) : Option (List UInt8) :=
  match start.toNat?, stop.toNat? with
  | some i, some j => slice? bytes i j
  | _, _ => none

/-- A copy of the bytes from `start` up to `stop`. -/
def substring (alloc : Allocator) (s : ByteString) (start stop : Int) (books : Books) :
    Except SubstringFault ByteString × Books :=
  match checkRange s.length start stop with
  | .error f => (.error (.range f), books)
  | .ok () =>
    match window? s.bytes start stop with
    | none => (.error (.range (.unaddressable start stop)), books)
    | some window =>
      match ofBytes alloc s.source window books with
      | (.error f, books) => (.error (.storage f), books)
      | (.ok t, books) => (.ok t, books)

/-- A range is good if it is not empty and inside the string. -/
theorem checkRange_eq_ok_iff (length : Nat) (start stop : Int) :
    checkRange length start stop = .ok () ↔ 0 ≤ start ∧ start < stop ∧ stop ≤ length := by
  simp only [checkRange]
  split
  · simp only [reduceCtorEq, false_iff]
    omega
  · split
    · simp only [reduceCtorEq, false_iff]
      omega
    · split
      · simp only [reduceCtorEq, false_iff]
        omega
      · split
        · simp only [reduceCtorEq, false_iff]
          omega
        · split
          · simp only [reduceCtorEq, false_iff]
            omega
          · simp only [true_iff]
            omega

theorem window?_eq_some {bytes : List UInt8} {start stop : Int} (natural : 0 ≤ start) (forward : start ≤ stop)
    (inside : stop ≤ bytes.length) :
    window? bytes start stop = some ((bytes.drop start.toNat).take (stop - start).toNat) := by
  obtain ⟨i, rfl⟩ := Int.eq_ofNat_of_zero_le natural
  obtain ⟨j, rfl⟩ := Int.eq_ofNat_of_zero_le (Int.le_trans natural forward)
  have bounds : i ≤ j ∧ j ≤ bytes.length := by omega
  have width : ((j : Int) - i).toNat = j - i := by omega
  rw [Int.toNat_natCast, width]
  exact if_pos bounds

/-- Where the tests on a range find nothing, its bounds can be taken for offsets. -/
theorem substring_of_checked {s : ByteString} {start stop : Int} (good : checkRange s.length start stop = .ok ())
    (alloc : Allocator) (books : Books) :
    s.substring alloc start stop books =
      match ofBytes alloc s.source ((s.bytes.drop start.toNat).take (stop - start).toNat) books with
      | (.error f, books) => (.error (.storage f), books)
      | (.ok t, books) => (.ok t, books) := by
  obtain ⟨natural, forward, inside⟩ := (checkRange_eq_ok_iff s.length start stop).mp good
  rw [substring, good]
  simp only [window?_eq_some natural (Int.le_of_lt forward) inside]

/-- One string after another. A failure cannot be answered and enters the abort path. -/
def concat (alloc : Allocator) (s t : ByteString) (books : Books) : Except ConcatStop ByteString × Books :=
  let refuse (stop : ConcatStop) (books : Books) : Except ConcatStop ByteString × Books :=
    (.error stop, books.note (.abortEntered stop.fragments.length))
  match (Word.ofLength s.length).add (Word.ofLength t.length) with
  | .error f => refuse (.length f) books
  | .ok total =>
    match total.toInt.toNat? with
    | none => refuse (.negative total) books
    | some bytes =>
      match assemble alloc s.source bytes [s.bytes, t.bytes] books with
      | (.error f, books) => refuse (.storage f) books
      | (.ok r, books) => (.ok r, books)

theorem concat_of_error {s t : ByteString} {f : ArithmeticFault}
    (sum : (Word.ofLength s.length).add (Word.ofLength t.length) = .error f) (alloc : Allocator) (books : Books) :
    s.concat alloc t books = (.error (.length f), books.note (.abortEntered 2)) := by
  simp only [concat, sum]
  rfl

/-- A sum of lengths is not negative. -/
theorem concat_of_ok {s t : ByteString} {total : Word}
    (sum : (Word.ofLength s.length).add (Word.ofLength t.length) = .ok total) (alloc : Allocator) (books : Books) :
    s.concat alloc t books =
      match assemble alloc s.source total.toInt.toNat [s.bytes, t.bytes] books with
      | (.error f, books) => (.error (.storage f), books.note (.abortEntered 2))
      | (.ok r, books) => (.ok r, books) := by
  have natural : 0 ≤ total.toInt := by
    have value := ((Word.checked_eq_ok_iff _ _ _).mp sum).symm
    have first := Word.ofLength_nonneg s.length
    have second := Word.ofLength_nonneg t.length
    omega
  have addressed : total.toInt.toNat? = some total.toInt.toNat := toNat?_of_nonneg natural
  simp only [concat, sum, addressed]
  rfl

/-- The total of a length and the lengths of `remaining` arguments from `index` on. -/
def formatLength (args : FixedArray ByteString) : (remaining index : Nat) → Word → Except FormatFault Word
  | 0, _, total => .ok total
  | remaining + 1, index, total =>
    match args.get index with
    | .error f => .error (.index f)
    | .ok arg =>
      match total.add (Word.ofLength arg.length) with
      | .error f => .error (.length index f)
      | .ok total => formatLength args remaining (index + 1) total

/-- The lead string followed by every argument, in one reservation. -/
def format (alloc : Allocator) (lead : ByteString) (args : FixedArray ByteString) (books : Books) :
    Except FormatFault ByteString × Books :=
  match formatLength args args.length 0 (Word.ofLength lead.length) with
  | .error f => (.error f, books)
  | .ok total =>
    match total.toInt.toNat? with
    | none => (.error (.unaddressable total), books)
    | some bytes =>
      match assemble alloc lead.source bytes (lead.bytes :: args.toList.map ByteString.bytes) books with
      | (.error f, books) => (.error (.storage f), books)
      | (.ok r, books) => (.ok r, books.note (.stringFormatted args.length bytes))

theorem concat_ne_negative (alloc : Allocator) (s t : ByteString) (books : Books) (total : Word) :
    (s.concat alloc t books).1 ≠ .error (.negative total) := by
  cases sum : (Word.ofLength s.length).add (Word.ofLength t.length) with
  | error f =>
    rw [concat_of_error sum]
    rintro ⟨⟩
  | ok bytes =>
    rw [concat_of_ok sum]
    split <;> rintro ⟨⟩

theorem formatLength_nonneg {args : FixedArray ByteString} {remaining index : Nat} {start total : Word}
    (natural : 0 ≤ start.toInt) (sum : formatLength args remaining index start = .ok total) : 0 ≤ total.toInt := by
  induction remaining generalizing index start with
  | zero =>
    cases sum
    exact natural
  | succ remaining ih =>
    rw [formatLength] at sum
    split at sum
    · cases sum
    · rename_i arg _
      split at sum
      · cases sum
      · rename_i next added
        have value := ((Word.checked_eq_ok_iff _ _ _).mp added).symm
        have more := Word.ofLength_nonneg arg.length
        exact ih (by omega) sum

theorem formatLength_ne_unaddressable (args : FixedArray ByteString) (remaining index : Nat) (start total : Word) :
    formatLength args remaining index start ≠ .error (.unaddressable total) := by
  induction remaining generalizing index start with
  | zero => rintro ⟨⟩
  | succ remaining ih =>
    rw [formatLength]
    split
    · rintro ⟨⟩
    · split
      · rintro ⟨⟩
      · exact ih _ _

theorem format_of_error {lead : ByteString} {args : FixedArray ByteString} {f : FormatFault}
    (sum : formatLength args args.length 0 (Word.ofLength lead.length) = .error f) (alloc : Allocator)
    (books : Books) : lead.format alloc args books = (.error f, books) := by
  simp only [format, sum]

/-- A total of lengths is not negative. -/
theorem format_of_ok {lead : ByteString} {args : FixedArray ByteString} {total : Word}
    (sum : formatLength args args.length 0 (Word.ofLength lead.length) = .ok total) (alloc : Allocator)
    (books : Books) :
    lead.format alloc args books =
      match assemble alloc lead.source total.toInt.toNat (lead.bytes :: args.toList.map ByteString.bytes) books with
      | (.error f, books) => (.error (.storage f), books)
      | (.ok r, books) => (.ok r, books.note (.stringFormatted args.length total.toInt.toNat)) := by
  have addressed : total.toInt.toNat? = some total.toInt.toNat :=
    toNat?_of_nonneg (formatLength_nonneg (Word.ofLength_nonneg lead.length) sum)
  simp only [format, sum, addressed]

theorem format_ne_unaddressable (alloc : Allocator) (lead : ByteString) (args : FixedArray ByteString) (books : Books)
    (total : Word) : (lead.format alloc args books).1 ≠ .error (.unaddressable total) := by
  cases sum : formatLength args args.length 0 (Word.ofLength lead.length) with
  | error f =>
    rw [format_of_error sum]
    rintro ⟨⟩
    exact formatLength_ne_unaddressable _ _ _ _ _ sum
  | ok bytes =>
    rw [format_of_ok sum]
    split <;> rintro ⟨⟩

/-- The length after `count` occurrences of `width` bytes each gave way to `insert` bytes each. -/
def replacedLength? (length count width insert : Nat) : Option Nat :=
  let added := count * insert
  let total := length - count * width + added
  if added < addressSpace ∧ total < addressSpace then some total else none

/-- Replace up to `limit` leftmost occurrences. Where nothing is replaced the result is a copy. -/
def replace (alloc : Allocator) (s needle insert : ByteString) (limit : Int) (books : Books) :
    Except StorageFault ByteString × Books :=
  let found := Search.leftmost s.bytes needle.bytes limit
  if found.isEmpty then s.clone alloc books
  else
    match replacedLength? s.length found.length needle.length insert.length with
    | none => (.error .replacementOverflow, books)
    | some total =>
      match assemble alloc s.source total (Search.pieces insert.bytes needle.length 0 s.bytes found) books with
      | (.error f, books) => (.error f, books)
      | (.ok r, books) => (.ok r, books.note (.stringReplaced found.length total))

end ByteString

end Quota
