import Quota.Command.Execution
import Quota.Proofs.Replacement
import Quota.Proofs.WellFormed

set_option autoImplicit false

/-!
# Texts stay texts

Search compares octets and knows no characters. Still, in the octets of a text it finds those of a text only between
characters, so that what is put together from texts is a text again, and the answer of a command shows it as it is.
-/
namespace Quota

open Utf8

namespace Search

theorem isBoundary_of_leftmost {needle text p q : List UInt8} (leftmost : Leftmost needle text p q)
    (whole : isValid text = true) (part : isValid needle = true) (nonempty : needle ≠ []) :
    IsBoundary text p.length ∧ IsBoundary text (p.length + needle.length) := by
  obtain ⟨before, after⟩ := isValid_around (leftmost.split ▸ whole) part nonempty
  obtain ⟨front, rfl⟩ := (isValid_iff_encode _).mp before
  obtain ⟨middle, rfl⟩ := (isValid_iff_encode _).mp part
  obtain ⟨back, rfl⟩ := (isValid_iff_encode _).mp after
  constructor
  · exact ⟨front, middle ++ back, by rw [leftmost.split, encode_append, List.append_assoc], rfl⟩
  · exact ⟨front ++ middle, back, by rw [leftmost.split, encode_append], by rw [encode_append, List.length_append]⟩

/-- What is replaced in a text by a text leaves a text, and brings in no character of its own. -/
theorem exists_text_of_replaced {needle insert : String} {limit : Int} {bytes result : List UInt8}
    (h : Replaced (encode needle) (encode insert) limit bytes result) (text : String) (source : bytes = encode text) :
    ∃ out : String, result = encode out ∧ ∀ c ∈ out.toList, c ∈ text.toList ∨ c ∈ insert.toList := by
  induction h generalizing text with
  | unchanged _ => exact ⟨text, source, fun c member => .inl member⟩
  | replaced _ nonempty leftmost _ ih =>
    have split := source.symm.trans leftmost.split
    obtain ⟨before, after⟩ := isValid_around (split ▸ isValid_encode text) (isValid_encode needle) nonempty
    obtain ⟨front, rfl⟩ := (isValid_iff_encode _).mp before
    obtain ⟨back, rfl⟩ := (isValid_iff_encode _).mp after
    rw [← encode_append, ← encode_append] at split
    have joined : text = front ++ needle ++ back := encode_injective split
    obtain ⟨rest, rfl, from_back⟩ := ih back rfl
    refine ⟨front ++ insert ++ rest, by rw [encode_append, encode_append], fun c member => ?_⟩
    simp only [joined, String.toList_append, List.mem_append] at member ⊢
    rcases member with (inFront | inInsert) | inRest
    · exact .inl (.inl (.inl inFront))
    · exact .inr inInsert
    · exact (from_back c inRest).imp_left .inr

theorem exists_replaced_text (text needle insert : String) (limit : Int) :
    ∃ out : String, Replaced (encode needle) (encode insert) limit (encode text) (encode out) ∧
      ∀ c ∈ out.toList, c ∈ text.toList ∨ c ∈ insert.toList := by
  have replaced := replaced_leftmost (encode needle) (encode insert) limit (encode text)
  obtain ⟨out, bytes, known⟩ := exists_text_of_replaced replaced text rfl
  rw [bytes] at replaced
  exact ⟨out, replaced, known⟩

end Search

namespace ByteString

open Search

theorem bytes_of_ofBytes {alloc : Allocator} {source : Source} {bytes : List UInt8} {books after : Books}
    {r : ByteString} (h : ofBytes alloc source bytes books = (.ok r, after)) : r.bytes = bytes := by
  simp only [ofBytes] at h
  split at h
  · cases h
  · cases h
    rfl

theorem bytes_of_assemble {alloc : Allocator} {source : Source} {total : Nat} {runs : List (List UInt8)}
    {books after : Books} {r : ByteString} (h : assemble alloc source total runs books = (.ok r, after)) :
    r.bytes = runs.flatten := by
  simp only [assemble] at h
  split at h
  · cases h
  · cases h
    rfl

theorem bytes_of_concat {alloc : Allocator} {s t r : ByteString} {books after : Books}
    (h : s.concat alloc t books = (.ok r, after)) : r.bytes = s.bytes ++ t.bytes := by
  cases sum : (Word.ofLength s.length).add (Word.ofLength t.length) with
  | error f =>
    rw [concat_of_error sum] at h
    cases h
  | ok total =>
    rw [concat_of_ok sum] at h
    split at h
    · cases h
    · rename_i assembled
      cases h
      rw [bytes_of_assemble assembled]
      simp

theorem bytes_of_format {alloc : Allocator} {lead r : ByteString} {args : FixedArray ByteString} {books after : Books}
    (h : lead.format alloc args books = (.ok r, after)) : r.bytes = lead.bytes ++ args.toList.flatMap bytes := by
  cases sum : formatLength args args.length 0 (Word.ofLength lead.length) with
  | error f =>
    rw [format_of_error sum] at h
    cases h
  | ok total =>
    rw [format_of_ok sum] at h
    split at h
    · cases h
    · rename_i assembled
      cases h
      rw [bytes_of_assemble assembled, List.flatten_cons, List.flatMap_def]

theorem replaced_of_replace {alloc : Allocator} {s needle insert r : ByteString} {limit : Int} {books after : Books}
    (h : s.replace alloc needle insert limit books = (.ok r, after)) :
    Replaced needle.bytes insert.bytes limit s.bytes r.bytes := by
  have replaced := replaced_leftmost needle.bytes insert.bytes limit s.bytes
  simp only [replace] at h
  split at h
  · rename_i nothing
    rw [List.isEmpty_iff.mp nothing] at replaced
    rw [bytes_of_ofBytes h]
    simpa [pieces] using replaced
  · split at h
    · cases h
    · split at h
      · cases h
      · rename_i assembled
        cases h
        rw [bytes_of_assemble assembled]
        exact replaced

theorem search_of_find {s needle : ByteString} {k : Nat} (h : s.find needle = k) :
    Search.find s.bytes needle.bytes = some k := by
  rw [find] at h
  split at h
  · rename_i found
    rw [found, Int.ofNat.inj h]
  · omega

theorem isValid_of_replace {alloc : Allocator} {s needle insert r : ByteString} {limit : Int} {books after : Books}
    (h : s.replace alloc needle insert limit books = (.ok r, after)) (whole : isValid s.bytes = true)
    (part : isValid needle.bytes = true) (other : isValid insert.bytes = true) : isValid r.bytes = true := by
  obtain ⟨text, source⟩ := (isValid_iff_encode _).mp whole
  obtain ⟨n, part⟩ := (isValid_iff_encode _).mp part
  obtain ⟨i, other⟩ := (isValid_iff_encode _).mp other
  have replaced := replaced_of_replace h
  rw [part, other] at replaced
  obtain ⟨out, result, _⟩ := exists_text_of_replaced replaced text source
  exact result ▸ isValid_encode out

theorem isValid_flatMap {strings : List ByteString} (h : ∀ t ∈ strings, isValid t.bytes = true) :
    isValid (strings.flatMap bytes) = true := by
  induction strings with
  | nil => rfl
  | cons t rest ih =>
    rw [List.flatMap_cons, isValid_append (h t List.mem_cons_self)]
    exact ih fun u member => h u (List.mem_cons_of_mem t member)

end ByteString

namespace Execution

open Search

variable {alloc : Allocator} {source : Source}

theorem of_holding {α β : Type} {make : Action β} {release : β → Books → Books} {body : β → Action α}
    {books after : Books} {a : α} (h : holding make release body books = (.ok a, after)) :
    ∃ b middle last, make books = (.ok b, middle) ∧ body b middle = (.ok a, last) := by
  simp only [holding] at h
  split at h
  · cases h
  · rename_i b middle made
    rcases done : body b middle with ⟨answer, last⟩
    rw [done] at h
    cases h
    exact ⟨b, middle, last, made, done⟩

theorem of_inContext {α : Type} {context : String} {made : Except StorageFault α × Books} {a : α} {after : Books}
    (h : inContext context made = (.ok a, after)) : made = (.ok a, after) := by
  rcases made with ⟨_ | _, _⟩
  · cases h
  · cases h
    rfl

theorem bytes_of_copyArgument {value : String} {books after : Books} {s : ByteString}
    (h : copyArgument alloc source value books = (.ok s, after)) : s.bytes = encode value :=
  ByteString.bytes_of_ofBytes (of_inContext h)

theorem bytes_of_copyArguments {args : List String} {copied strings : List ByteString} {books after : Books}
    (h : copyArguments alloc source copied args books = (.ok strings, after)) :
    strings.map ByteString.bytes = copied.reverse.map ByteString.bytes ++ args.map encode := by
  induction args generalizing copied books with
  | nil =>
    cases h
    simp
  | cons value rest ih =>
    rw [copyArguments] at h
    split at h
    · cases h
    · rename_i s middle made
      rw [ih h, List.reverse_cons, List.map_append, List.append_assoc]
      simp [bytes_of_copyArgument made]

theorem bytes_of_gatherArguments {args : List String} {array : FixedArray ByteString} {books after : Books}
    (h : gatherArguments alloc source args books = (.ok array, after)) :
    array.toList.map ByteString.bytes = args.map encode := by
  simp only [gatherArguments] at h
  split at h
  · cases h
  · rename_i strings middle copied
    split at h
    · cases h
    · rename_i gathered
      cases h
      have made := of_inContext gathered
      rw [FixedArray.ofList_eq] at made
      split at made
      · cases made
      · cases made
        rw [FixedArray.toList, Rows.toList_ofArray, bytes_of_copyArguments copied]
        simp

/-- A formatted answer is the lead text with the arguments behind it. -/
theorem eq_of_format {lead out : String} {args : List String} {books after : Books}
    (h : format alloc source lead args books = (.ok out, after)) : out = lead ++ String.join args := by
  obtain ⟨s, _, _, copied, inner⟩ := of_holding h
  obtain ⟨array, _, _, gathered, body⟩ := of_holding inner
  split at body
  · cases body
  · rename_i r _ made
    cases body
    have bytes : r.bytes = encode (lead ++ String.join args) := by
      rw [ByteString.bytes_of_format made, bytes_of_copyArgument copied, List.flatMap_def,
        bytes_of_gatherArguments gathered, encode_append, encode_join]
    rw [ByteString.display, bytes, lossy_encode]

/-- An answer of replacement is the text with its leftmost occurrences replaced. -/
theorem replaced_of_answer {text needle insert out : String} {count : Int} {books after : Books}
    (h : replace alloc source text needle insert count books = (.ok out, after)) :
    Replaced (encode needle) (encode insert) count (encode text) (encode out) := by
  simp only [replace] at h
  split at h
  · cases h
  · rename_i r _ made
    cases h
    obtain ⟨s, _, _, copied, inner⟩ := of_holding made
    obtain ⟨n, _, _, copied', inner'⟩ := of_holding inner
    obtain ⟨i, _, _, copied'', body⟩ := of_holding inner'
    have replaced := ByteString.replaced_of_replace (of_inContext body)
    rw [bytes_of_copyArgument copied, bytes_of_copyArgument copied', bytes_of_copyArgument copied''] at replaced
    obtain ⟨result, bytes, _⟩ := exists_text_of_replaced replaced text rfl
    rw [bytes] at replaced
    rwa [ByteString.display, bytes, lossy_encode]

end Execution

end Quota
