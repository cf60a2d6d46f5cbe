import Quota.Proofs.Script
import Quota.Session.Run

set_option autoImplicit false

/-!
# Operations follow scripts

Every operation on blocks, strings, arrays and vectors follows a script, and so does every request of a session: the
values of a session decide what is asked of the books, never the books themselves.
-/
namespace Quota

section Values

variable {α : Type}

/-- What follows the allocator's verdict on a block that its source has granted. -/
def Block.verdictScript (source : Source) (slots bytes : Nat) :
    Option AllocatorRefusal → Script (Except StorageFault Block)
  | some cause => .credit source bytes (.done (.error (.refused bytes cause)))
  | none => .note (.blockAcquired slots bytes) (.done (.ok ⟨source, slots, bytes⟩))

/-- What follows the answer of a source that was asked for the bytes of a block. -/
def Block.answerScript (source : Source) (element : ElementType) (slots bytes : Nat) :
    Except StorageFault Unit → Script (Except StorageFault Block)
  | .error f => .done (.error f)
  | .ok () => .ask element slots (verdictScript source slots bytes)

theorem Block.scripted_reserve (source : Source) (element : ElementType) (slots : Nat) :
    Scripted fun alloc books => Block.reserve alloc source element slots books := by
  by_cases big : addressSpace ≤ slots * element.size
  · refine (Scripted.pure (.error (.oversized slots element.size))).congr fun alloc books => ?_
    simp only [Block.reserve]
    rw [if_pos big]
  · refine ⟨.acquire source (slots * element.size) (answerScript source element slots (slots * element.size)),
      fun alloc books => ?_⟩
    simp only [Block.reserve, Script.exec]
    rw [if_neg big]
    rcases books.acquire source (slots * element.size) with ⟨f | ⟨⟩, after⟩
    · rfl
    · simp only [answerScript, Script.exec]
      cases alloc after.asked element slots <;> rfl

theorem Block.scripted_release (b : Block) : ScriptedEdit b.release :=
  (ScriptedEdit.note _).comp (.credit b.source b.bytes)

/-- Operations that reserve one block, and then at most note an event, follow a script. -/
theorem scripted_of_reserve {β : Type} {c : Allocator → Books → β × Books} (source : Source) (element : ElementType)
    (slots : Nat) (onError : StorageFault → β) (onOk : Block → β) (finish : Block → Books → Books)
    (hfinish : ∀ b, ScriptedEdit (finish b))
    (h : ∀ alloc books, c alloc books =
      match Block.reserve alloc source element slots books with
      | (.error f, books) => (onError f, books)
      | (.ok b, books) => (onOk b, finish b books)) : Scripted c := by
  refine ((Block.scripted_reserve source element slots).attempt (fun f => .pure (onError f))
    fun b => (Scripted.pure (onOk b)).andThen (hfinish b)).congr fun alloc books => ?_
  rw [h]
  rcases Block.reserve alloc source element slots books with ⟨_ | _, _⟩ <;> rfl

namespace ByteString

theorem scripted_release (t : ByteString) : ScriptedEdit t.release := by
  cases t with
  | literal source bytes => exact .id
  | owned block bytes => exact block.scripted_release

theorem scripted_assemble (source : Source) (total : Nat) (runs : List (List UInt8)) :
    Scripted fun alloc books => assemble alloc source total runs books :=
  scripted_of_reserve source .byte total .error (fun b => .ok (.owned b runs.flatten)) (fun _ books => books)
    (fun _ => .id) fun alloc books => by
      unfold assemble
      rcases Block.reserve alloc source .byte total books with ⟨_ | _, _⟩ <;> rfl

theorem scripted_ofBytes (source : Source) (bytes : List UInt8) :
    Scripted fun alloc books => ofBytes alloc source bytes books :=
  scripted_of_reserve source .byte bytes.length .error (fun b => .ok (.owned b bytes)) (fun _ books => books)
    (fun _ => .id) fun alloc books => by
      unfold ofBytes
      rcases Block.reserve alloc source .byte bytes.length books with ⟨_ | _, _⟩ <;> rfl

theorem scripted_substring (t : ByteString) (start stop : Int) :
    Scripted fun alloc books => t.substring alloc start stop books := by
  cases range : checkRange t.length start stop with
  | error f =>
    refine (Scripted.pure (.error (.range f))).congr fun alloc books => ?_
    rw [substring, range]
  | ok _ =>
    let window := (t.bytes.drop start.toNat).take (stop - start).toNat
    refine ((scripted_ofBytes t.source window).attempt (fun f => .pure (.error (.storage f)))
      fun r => .pure (.ok r)).congr fun alloc books => ?_
    rw [substring_of_checked range]
    rcases ofBytes alloc t.source window books with ⟨_ | _, _⟩ <;> rfl

theorem scripted_concat (t u : ByteString) : Scripted fun alloc books => t.concat alloc u books := by
  have refused : ∀ stop : ConcatStop, Scripted fun _ books =>
      ((.error stop : Except ConcatStop ByteString), books.note (.abortEntered stop.fragments.length)) :=
    fun stop => (Scripted.pure _).andThen (.note _)
  cases sum : (Word.ofLength t.length).add (Word.ofLength u.length) with
  | error f =>
    refine (refused (.length f)).congr fun alloc books => ?_
    rw [concat_of_error sum]
    rfl
  | ok total =>
    refine ((scripted_assemble t.source total.toInt.toNat [t.bytes, u.bytes]).attempt
      (fun f => refused (.storage f)) fun r => .pure (.ok r)).congr fun alloc books => ?_
    rw [concat_of_ok sum]
    rcases assemble alloc t.source total.toInt.toNat [t.bytes, u.bytes] books with ⟨_ | _, _⟩ <;> rfl

theorem scripted_format (lead : ByteString) (args : FixedArray ByteString) :
    Scripted fun alloc books => lead.format alloc args books := by
  cases sum : formatLength args args.length 0 (Word.ofLength lead.length) with
  | error f =>
    exact (Scripted.pure (.error f)).congr fun alloc books => format_of_error sum alloc books
  | ok total =>
    let runs := lead.bytes :: args.toList.map ByteString.bytes
    refine ((scripted_assemble lead.source total.toInt.toNat runs).attempt (fun f => .pure (.error (.storage f)))
      fun r => (Scripted.pure (.ok r)).andThen (.note (.stringFormatted args.length total.toInt.toNat))).congr
        fun alloc books => ?_
    rw [format_of_ok sum]
    rcases assemble alloc lead.source total.toInt.toNat runs books with ⟨_ | _, _⟩ <;> rfl

theorem scripted_replace (t needle insert : ByteString) (limit : Int) :
    Scripted fun alloc books => t.replace alloc needle insert limit books := by
  obtain ⟨found, hfound⟩ : ∃ found, Search.leftmost t.bytes needle.bytes limit = found := ⟨_, rfl⟩
  by_cases none : found.isEmpty
  · refine (scripted_ofBytes t.source t.bytes).congr fun alloc books => ?_
    simp only [replace, hfound]
    rw [if_pos none]
    rfl
  · cases size : replacedLength? t.length found.length needle.length insert.length with
    | none =>
      refine (Scripted.pure (.error .replacementOverflow)).congr fun alloc books => ?_
      simp only [replace, hfound, size]
      rw [if_neg none]
    | some total =>
      refine ((scripted_assemble t.source total (Search.pieces insert.bytes needle.length 0 t.bytes found)).attempt
        (fun f => .pure (.error f))
        fun r => (Scripted.pure (.ok r)).andThen (.note (.stringReplaced found.length total))).congr
          fun alloc books => ?_
      simp only [replace, hfound, size]
      rw [if_neg none]
      rcases assemble alloc t.source total _ books with ⟨_ | _, _⟩ <;> rfl

end ByteString

namespace FixedArray

theorem scripted_zeros (source : Source) (element : ElementType) (zero : α) (capacity : Int) :
    Scripted fun alloc books => zeros alloc source element zero capacity books := by
  by_cases negative : capacity < 0
  · refine (Scripted.pure (.error (.negativeCapacity capacity))).congr fun alloc books => ?_
    rw [zeros, if_pos negative]
  · refine scripted_of_reserve source element capacity.toNat .error
      (fun b => .ok ⟨element, b, Rows.replicate b.slots zero⟩) (fun _ books => books) (fun _ => .id)
      fun alloc books => ?_
    rcases reserved : Block.reserve alloc source element capacity.toNat books with ⟨_ | _, _⟩
    · simp only [zeros, if_neg negative, reserved]
    · simp only [zeros, if_neg negative, reserved]

theorem scripted_ofReported (source : Source) (element : ElementType) (reported : Nat) (values : List α) :
    Scripted fun alloc books => ofReported alloc source element reported values books :=
  scripted_of_reserve source element reported .error
    (fun b => .ok ⟨element, b, Rows.ofArray (values.take b.slots).toArray⟩)
    (fun _ books => books) (fun _ => .id) fun alloc books => by
      unfold ofReported
      rcases Block.reserve alloc source element reported books with ⟨_ | _, _⟩ <;> rfl

theorem scripted_ofList (source : Source) (element : ElementType) (values : List α) :
    Scripted fun alloc books => ofList alloc source element values books :=
  scripted_ofReported source element values.length values

theorem release_eq (releaseItem : α → Books → Books) (a : FixedArray α) (books : Books) :
    a.release releaseItem books = a.toList.foldl (fun books x => releaseItem x books) (a.block.release books) :=
  Rows.foldl_eq_foldl_toList _ _ _

theorem scripted_release {releaseItem : α → Books → Books} (h : ∀ x, ScriptedEdit (releaseItem x)) (a : FixedArray α) :
    ScriptedEdit (a.release releaseItem) :=
  ((ScriptedEdit.foldl h a.toList).comp a.block.scripted_release).congr fun _ books => by rw [release_eq]

end FixedArray

namespace CappedVector

theorem scripted_create (source : Source) (element : ElementType) :
    Scripted fun alloc books => (create alloc source element books : Except StorageFault (CappedVector α) × Books) :=
  scripted_of_reserve source element initialCapacity .error (fun b => .ok ⟨element, b, #[]⟩) (fun _ books => books)
    (fun _ => .id) fun alloc books => by
      unfold create
      rcases Block.reserve alloc source element initialCapacity books with ⟨_ | _, _⟩ <;> rfl

theorem scripted_grow (v : CappedVector α) :
    Scripted fun alloc books =>
      (((v.grow alloc books).1, (v.grow alloc books).2.1), (v.grow alloc books).2.2) := by
  by_cases capped : maxCapacity < 2 * v.capacity
  · let full := Event.vectorCapped v.capacity cappedReport.display
    refine ((Scripted.pure (.error .capped, v)).andThen
      ((ScriptedEdit.note (.abortEntered cappedFragments.length)).comp (.note full))).congr fun alloc books => ?_
    simp only [grow]
    rw [if_pos capped]
  · refine scripted_of_reserve v.block.source v.element (2 * v.capacity) (fun f => (.error (.storage f), v))
      (fun next => (.ok (), ⟨v.element, next, v.items⟩))
      (fun _ books => (v.block.release books).note (.vectorGrown v.element.name v.capacity (2 * v.capacity)))
      (fun _ => (ScriptedEdit.note _).comp v.block.scripted_release) fun alloc books => ?_
    simp only [grow]
    rw [if_neg capped]
    rcases Block.reserve alloc v.block.source v.element (2 * v.capacity) books with ⟨_ | _, _⟩ <;> rfl

theorem scripted_push (v : CappedVector α) (x : α) :
    Scripted fun alloc books =>
      (((v.push alloc x books).1, (v.push alloc x books).2.1), (v.push alloc x books).2.2) := by
  by_cases full : v.isFull
  · let append : Except PushStop Unit × CappedVector α → Except PushStop Unit × CappedVector α
      | (.error stop, v) => (.error stop, v)
      | (.ok (), v) => (.ok (), v.append x)
    refine (v.scripted_grow.bind fun r => Scripted.pure (append r)).congr fun alloc books => ?_
    simp only [push]
    rw [if_pos full]
    rcases v.grow alloc books with ⟨_ | _, _, _⟩ <;> rfl
  · refine (Scripted.pure (.ok (), v.append x)).congr fun alloc books => ?_
    simp only [push]
    rw [if_neg full]

theorem release_eq (releaseItem : α → Books → Books) (v : CappedVector α) (books : Books) :
    v.release releaseItem books = v.toList.foldl (fun books x => releaseItem x books) (v.block.release books) := by
  rw [release, toList, ← Array.foldl_toList]

theorem scripted_release {releaseItem : α → Books → Books} (h : ∀ x, ScriptedEdit (releaseItem x))
    (v : CappedVector α) : ScriptedEdit (v.release releaseItem) :=
  ((ScriptedEdit.foldl h v.toList).comp v.block.scripted_release).congr fun _ books => by rw [release_eq]

end CappedVector

theorem Cell.scripted_release (c : Cell) : ScriptedEdit c.release := by
  cases c with
  | string t => exact t.scripted_release
  | number v => exact .id
  | flag b => exact .id

end Values

end Quota
