import Quota.Command.Program
import Quota.Proofs.Stages
import Quota.Proofs.Substrings
import Quota.Proofs.TextResults

set_option autoImplicit false

/-!
# What budget a text command needs

A text command copies its arguments, reserves room for its result and gives nothing back before that. So it takes its
reservations in stages, and the bytes of the texts decide how it ends under a budget.
-/
namespace Quota

namespace Execution

open Stage

/-- How many bytes a text has. -/
def size (text : String) : Nat := (Utf8.encode text).length

theorem size_eq (text : String) : size text = (Utf8.encode text).length := rfl

def copying (value : String) : Stage := ⟨"copying argument '" ++ value ++ "' into a runtime string", .byte, size value⟩

/-- The copy of a text that owns a block of the source. -/
def copy (source : Source) (value : String) : ByteString := .owned ((copying value).block source) (Utf8.encode value)

def gathering (count : Nat) : Stage := ⟨"allocating argument array", .string, count⟩

/-- The array of copies of texts. -/
def copies (source : Source) (args : List String) : FixedArray ByteString :=
  ⟨.string, (gathering args.length).block source, Rows.ofArray (args.map (copy source)).toArray⟩

def joining (lead : String) (args : List String) : Stage :=
  ⟨"format failed with status 3", .byte, size (lead ++ String.join args)⟩

def substituting (result : String) : Stage := ⟨"replacen failed with status 1", .byte, size result⟩

/-- The stages of a command that formats. -/
def formatting (lead : String) (args : List String) : List Stage :=
  copying lead :: (args.map copying ++ [gathering args.length] ++ [joining lead args])

/-- The stages of a command that replaces. -/
def replacing (text needle insert result : String) : List Stage :=
  [copying text, copying needle, copying insert, substituting result]

section

variable {alloc : Allocator} {source : Source}

theorem returns_release (stage : Stage) (source : Source) (bytes : List UInt8) :
    Returns source stage.bytes (ByteString.owned (stage.block source) bytes).release :=
  returns_block stage source

theorem returns_releaseAll (source : Source) (values : List String) :
    Returns source (total (values.map copying)) (releaseAll (values.map (copy source))) := by
  induction values with
  | nil =>
    intro books budget used refusals stands
    exact stands
  | cons value rest ih => exact (returns_release (copying value) source (Utf8.encode value)).comp ih

theorem returns_releaseArray (source : Source) (args : List String) :
    Returns source (total (args.map copying ++ [gathering args.length])) (releaseArray (copies source args)) := by
  have elements : (copies source args).toList = args.map (copy source) := by
    rw [copies, FixedArray.toList, Rows.toList_ofArray]
  rw [total_append, Nat.add_comm]
  intro books budget used refusals stands
  rw [releaseArray, FixedArray.release_eq, elements]
  exact (returns_block (gathering args.length) source).comp (returns_releaseAll source args) _ _ _ _ stands

/-- A string that is made in one reservation. -/
theorem takes_of_madeOnce {ε : Type} {result : List UInt8} {storage : StorageFault → ε}
    {make : Books → Except ε ByteString × Books} (stage : Stage) (report : ε → CommandStop)
    (once : ∀ books, ByteString.MadeOnce alloc source books result storage (make books))
    (granted : ∀ earlier, alloc earlier stage.element stage.slots = none) (sized : stage.slots = result.length)
    (bytewise : stage.element = .byte) (reported : ∀ f, report (storage f) = failure stage.context f.fault) :
    Takes source 0 [stage] (.ok (.owned (stage.block source) result)) stage.bytes fun books =>
      followed (make books) (fun f books => (.error (report f), books)) fun r books => (.ok r, books) := by
  apply takes_of_reserve granted
  · intro books middle reserved
    rw [sized, bytewise] at reserved
    have made := (once books).granted _ (congrArg Prod.fst reserved)
    have same := (once books).remarked.ledger?_eq source
    rw [reserved] at same
    exact ⟨_, by rw [← Prod.eta (make books), made, followed], same⟩
  · intro books middle f reserved
    rw [sized, bytewise] at reserved
    have failed := (once books).refused _ (congrArg Prod.fst reserved)
    have same := (once books).remarked.ledger?_eq source
    rw [reserved] at same
    exact ⟨_, by rw [← Prod.eta (make books), failed, followed, reported], same⟩

theorem takes_inContext {result : List UInt8} {make : Books → Except StorageFault ByteString × Books} (stage : Stage)
    (once : ∀ books, ByteString.MadeOnce alloc source books result id (make books))
    (granted : ∀ earlier, alloc earlier stage.element stage.slots = none) (sized : stage.slots = result.length)
    (bytewise : stage.element = .byte) :
    Takes source 0 [stage] (.ok (.owned (stage.block source) result)) stage.bytes fun books =>
      inContext stage.context (make books) := by
  refine (takes_of_madeOnce stage (fun f : StorageFault => failure stage.context f.fault) once granted sized bytewise
    fun _ => rfl).congr fun books => ?_
  rcases make books with ⟨_ | _, _⟩ <;> rfl

theorem takes_copyArgument {value : String} (granted : ∀ earlier, alloc earlier .byte (size value) = none) :
    Takes source 0 [copying value] (.ok (copy source value)) (copying value).bytes (copyArgument alloc source value) :=
  takes_inContext (copying value)
    (fun books => ByteString.madeOnce_ofBytes alloc books source (Utf8.encode value)) granted (size_eq value) rfl

theorem takes_holdingCopy {α : Type} {value : String} {back : List Stage} {answer : Except CommandStop α} {owed : Nat}
    {body : ByteString → Action α} (granted : ∀ earlier, alloc earlier .byte (size value) = none)
    (second : Takes source 0 back answer owed (body (copy source value))) :
    Takes source 0 (copying value :: back) answer owed
      (holding (copyArgument alloc source value) ByteString.release body) :=
  (takes_copyArgument granted).holding rfl second (returns_release (copying value) source (Utf8.encode value))

/-- Copies are made after those of earlier texts, which are released with them if one cannot be made. -/
theorem takes_copyArguments {args : List String} (grants : alloc.Grants (args.map copying)) (done : List String) :
    Takes source (total (done.map copying)) (args.map copying) (.ok ((done ++ args).map (copy source)))
      (total ((done ++ args).map copying)) (copyArguments alloc source (done.map (copy source)).reverse args) := by
  induction args generalizing done with
  | nil =>
    rw [List.append_nil]
    refine (takes_nothing source (total (done.map copying)) _).congr fun books => ?_
    rw [copyArguments, List.reverse_reverse]
  | cons value rest ih =>
    -- the copies so far are in use but are no stages of this step, and it returns them if the next one fails
    have first : Takes source (total (done.map copying)) [copying value] (.ok (copy source value)) _ _ :=
      (takes_copyArgument fun earlier => grants _ List.mem_cons_self earlier).orUndo (returns_releaseAll source done)
    have second := ih (fun stage member => grants stage (List.mem_cons_of_mem _ member)) (done ++ [value])
    have held : total ((done ++ [value]).map copying) = total (done.map copying) + (copying value).bytes := by
      rw [List.map_append, total_append]
      rfl
    have copied : ((done ++ [value]).map (copy source)).reverse =
        copy source value :: (done.map (copy source)).reverse := by
      rw [List.map_append, List.reverse_append]
      rfl
    rw [held, copied, List.append_assoc] at second
    refine (first.andThen rfl (fun s => copyArguments alloc source (s :: (done.map (copy source)).reverse) rest)
      second).congr fun books => ?_
    rw [copyArguments, List.reverse_reverse]
    rcases copyArgument alloc source value books with ⟨_ | _, _⟩ <;> rfl

theorem takes_ofList (source : Source) {args : List String}
    (granted : ∀ earlier, alloc earlier .string args.length = none) :
    Takes source 0 [gathering args.length] (.ok (copies source args)) (gathering args.length).bytes fun books =>
      inContext "allocating argument array"
        (FixedArray.ofList alloc source .string (args.map (copy source)) books) := by
  have gathered : ∀ {books middle : Books} {r : Except StorageFault Block},
      Block.reserve alloc source .string args.length books = (r, middle) →
      FixedArray.ofList alloc source .string (args.map (copy source)) books =
        (r.map fun block => ⟨.string, block, Rows.ofArray (args.map (copy source)).toArray⟩, middle) := by
    intro books middle r reserved
    rw [FixedArray.ofList_eq, List.length_map, reserved]
    cases r <;> rfl
  apply takes_of_reserve granted
  · intro books middle reserved
    exact ⟨middle, by rw [gathered reserved]; rfl, rfl⟩
  · intro books middle f reserved
    exact ⟨middle, by rw [gathered reserved]; rfl, rfl⟩

theorem takes_gatherArguments (source : Source) {args : List String}
    (grants : alloc.Grants (args.map copying ++ [gathering args.length])) :
    Takes source 0 (args.map copying ++ [gathering args.length]) (.ok (copies source args))
      (total (args.map copying ++ [gathering args.length])) (gatherArguments alloc source args) := by
  have copied : Takes source 0 (args.map copying) (.ok (args.map (copy source))) (total (args.map copying))
      (copyArguments alloc source [] args) :=
    takes_copyArguments (fun stage member => grants stage (List.mem_append_left _ member)) []
  have array := takes_ofList source (grants (gathering args.length) (by simp))
  have both := copied.andThen (Nat.zero_add _).symm (fun strings books =>
    followed (inContext "allocating argument array" (FixedArray.ofList alloc source .string strings books))
      (fun stop books => (.error stop, releaseAll strings books)) fun array books => (.ok array, books))
    (array.orUndo (returns_releaseAll source args))
  rw [total_append]
  refine both.congr fun books => ?_
  rw [gatherArguments]
  rcases copyArguments alloc source [] args books with ⟨_ | strings, middle⟩
  · rfl
  · simp only [followed]
    rcases FixedArray.ofList alloc source .string strings middle with ⟨_ | _, _⟩ <;> rfl

theorem size_join (lead : String) (args : List String) :
    size (lead ++ String.join args) = size lead + (args.map size).sum := by
  rw [size, Utf8.encode_append, Utf8.encode_join, List.length_append, List.length_flatten, List.map_map]
  rfl

theorem bytes_copying (value : String) : (copying value).bytes = size value := Nat.mul_one (size value)

theorem total_copying (values : List String) : total (values.map copying) = (values.map size).sum := by
  rw [total, List.map_map]
  congr 1
  apply List.map_congr_left
  intro value _
  exact bytes_copying value

theorem total_formatting (lead : String) (args : List String) :
    total (formatting lead args) = 2 * (size lead + (args.map size).sum) + 16 * args.length := by
  have array : (gathering args.length).bytes = args.length * 16 := rfl
  have result : (joining lead args).bytes = size (lead ++ String.join args) := Nat.mul_one _
  rw [formatting, total_cons, total_append, total_append, total_cons, total_cons, total_nil, total_copying,
    bytes_copying, array, result, size_join]
  omega

theorem total_replacing (text needle insert result : String) :
    total (replacing text needle insert result) = size text + size needle + size insert + size result := by
  have last : (substituting result).bytes = size result := Nat.mul_one _
  rw [replacing, total_cons, total_cons, total_cons, total_cons, total_nil, bytes_copying, bytes_copying, bytes_copying,
    last]
  omega

theorem bytes_formatted (source : Source) (lead : String) (args : List String) :
    (copy source lead).bytes ++ (copies source args).toList.flatMap ByteString.bytes =
      Utf8.encode (lead ++ String.join args) := by
  rw [copies, FixedArray.toList, Rows.toList_ofArray, Utf8.encode_append, Utf8.encode_join, List.flatMap_def,
    List.map_map]
  rfl

theorem failure_of_format (f : StorageFault) :
    failure s!"format failed with status {(FaultSet.formatting.statusOf (FormatFault.storage f).fault).toNat}"
      (FormatFault.storage f).fault = failure "format failed with status 3" f.fault := by
  have status : FaultSet.formatting.statusOf (FormatFault.storage f).fault = 3 := rfl
  rw [status]
  rfl

/-- The operation itself, on copies of its arguments. -/
theorem takes_joining (source : Source) {lead : String} {args : List String}
    (granted : ∀ earlier, alloc earlier .byte (size (lead ++ String.join args)) = none)
    (fits : (size (lead ++ String.join args) : Int) ≤ maxWord) :
    Takes source 0 [joining lead args] (.ok (lead ++ String.join args)) 0 fun books =>
      followed ((copy source lead).format alloc (copies source args) books)
        (fun f books => (.error (failure
          s!"format failed with status {(FaultSet.formatting.statusOf f.fault).toNat}" f.fault), books))
        fun r books => (.ok r.display, r.release books) := by
  rw [size, ← bytes_formatted source] at fits
  have once : ∀ books, ByteString.MadeOnce alloc source books _ FormatFault.storage _ := fun books =>
    ByteString.madeOnce_format alloc books (copy source lead) (copies source args) fits
  rw [bytes_formatted] at once
  have formatted := takes_of_madeOnce (joining lead args) (fun f : FormatFault =>
    failure s!"format failed with status {(FaultSet.formatting.statusOf f.fault).toNat}" f.fault) once granted
    (size_eq _) rfl failure_of_format
  have answered := formatted.finish (returns_release (joining lead args) source _) ByteString.display
  rw [ByteString.display, ByteString.bytes, Utf8.lossy_encode] at answered
  refine answered.congr fun books => ?_
  rcases (copy source lead).format alloc (copies source args) books with ⟨_ | _, _⟩ <;> rfl

theorem takes_format {lead : String} {args : List String} (grants : alloc.Grants (formatting lead args))
    (small : total (formatting lead args) < addressSpace) :
    Takes source 0 (formatting lead args) (.ok (lead ++ String.join args)) 0 (format alloc source lead args) := by
  -- the texts are charged twice, as copies and as the result, so the result is a word where the total is addressable
  have fits : (size (lead ++ String.join args) : Int) ≤ maxWord := by
    rw [total_formatting, ← size_join, addressSpace] at small
    rw [maxWord]
    omega
  have grantsRest : alloc.Grants (args.map copying ++ [gathering args.length] ++ [joining lead args]) :=
    fun stage member => grants stage (List.mem_cons_of_mem _ member)
  have joined := takes_joining source (grantsRest (joining lead args) (by simp)) fits
  have gathered := takes_gatherArguments source fun stage member => grantsRest stage (List.mem_append_left _ member)
  refine takes_holdingCopy (grants (copying lead) List.mem_cons_self)
    (gathered.holding rfl (joined.congr fun books => ?_) (returns_releaseArray source args))
  rcases (copy source lead).format alloc (copies source args) books with ⟨_ | _, _⟩ <;> rfl

theorem takes_replace {text needle insert result : String} {count : Int}
    (replaced : Search.Replaced (Utf8.encode needle) (Utf8.encode insert) count (Utf8.encode text)
      (Utf8.encode result))
    (grants : alloc.Grants (replacing text needle insert result)) (small : size result < addressSpace) :
    Takes source 0 (replacing text needle insert result) (.ok result) 0
      (replace alloc source text needle insert count) := by
  have onCopies : Search.Replaced (copy source needle).bytes (copy source insert).bytes count (copy source text).bytes
      (Utf8.encode result) := replaced
  have once : ∀ books, ByteString.MadeOnce alloc source books (Utf8.encode result) id _ := fun books =>
    ByteString.madeOnce_replace alloc books onCopies small
  have held : Takes source 0 (replacing text needle insert result)
      (.ok (.owned ((substituting result).block source) (Utf8.encode result))) (substituting result).bytes
      (holding (copyArgument alloc source text) ByteString.release fun text =>
        holding (copyArgument alloc source needle) ByteString.release fun needle =>
          holding (copyArgument alloc source insert) ByteString.release fun insert books =>
            inContext "replacen failed with status 1" (text.replace alloc needle insert count books)) := by
    apply takes_holdingCopy (grants (copying text) (by simp [replacing]))
    apply takes_holdingCopy (grants (copying needle) (by simp [replacing]))
    apply takes_holdingCopy (grants (copying insert) (by simp [replacing]))
    exact takes_inContext (substituting result) once (grants (substituting result) (by simp [replacing]))
      (size_eq result) rfl
  have answered := held.finish (returns_release (substituting result) source _) ByteString.display
  rw [ByteString.display, ByteString.bytes, Utf8.lossy_encode] at answered
  refine answered.congr fun books => ?_
  rw [replace]
  split
  · rename_i failed
    rw [failed]
    rfl
  · rename_i made
    rw [made]
    rfl

theorem takes_execute_format {lead : String} {args : List String} (grants : alloc.Grants (formatting lead args))
    (small : total (formatting lead args) < addressSpace) :
    Takes source 0 (formatting lead args) (.ok (lead ++ String.join args)) 0
      (execute alloc source (.format lead args)) :=
  (takes_format grants small).afterNote _

theorem takes_execute_replace {text needle insert result : String} {count : Int}
    (replaced : Search.Replaced (Utf8.encode needle) (Utf8.encode insert) count (Utf8.encode text)
      (Utf8.encode result))
    (grants : alloc.Grants (replacing text needle insert result))
    (small : total (replacing text needle insert result) < addressSpace) :
    Takes source 0 (replacing text needle insert result) (.ok result) 0
      (execute alloc source (.replace text needle insert count)) := by
  have fits : size result < addressSpace := by
    rw [total_replacing] at small
    omega
  exact (takes_replace replaced grants fits).afterNote _

end

end Execution

namespace Program

open Execution Stage

theorem stands_start (budget : Option Nat) (earlier : List Event) :
    Books.Stands { (start budget).2 with journal := earlier } (start budget).1 budget 0 0 := by
  cases budget with
  | none => rfl
  | some limit => rfl

theorem ledger?_noteUsage (books : Books) (source : Source) :
    (noteUsage books).ledger? source = books.ledger? source := by
  rw [noteUsage]
  split
  · exact Books.ledger?_note _ _ _
  · rfl

theorem run_of_execute {alloc : Allocator} {budget : Option Nat} {command : Command} {earlier : List Event}
    {answer : Except CommandStop String} {after : Books}
    (h : execute alloc (start budget).1 command { (start budget).2 with journal := earlier } = (answer, after))
    (logLevel : Option String) :
    (run alloc ⟨budget, logLevel, command⟩ earlier).1 = answer ∧
      ∀ source, (run alloc ⟨budget, logLevel, command⟩ earlier).2.ledger? source = after.ledger? source := by
  rw [run]
  simp only [h]
  split
  · rename_i aborted
    cases aborted
    exact ⟨rfl, fun source => rfl⟩
  · rename_i ended
    cases ended
    exact ⟨rfl, ledger?_noteUsage after⟩

/-- How runs of a command end under budgets, if the command takes the given stages and then has the given answer. -/
structure Budgeted (limit : Nat) (stages : List Stage) (answer : Except CommandStop String)
    (run : Option Nat → Except CommandStop String × Books) : Prop where
  unlimited : (run none).1 = answer
  covered : total stages ≤ limit →
    (run (some limit)).1 = answer ∧ (run (some limit)).2.Stands (.budget 0) (some limit) 0 0
  /-- The first stage that goes beyond the limit is reported, and its refusal is the only one. -/
  short : limit < total stages → ∃ before stage after, stages = before ++ stage :: after ∧
    total before ≤ limit ∧ limit < total before + stage.bytes ∧
    (run (some limit)).1 = .error (stage.refusal (total before) limit) ∧
    (run (some limit)).2.Stands (.budget 0) (some limit) 0 1

theorem budgeted_of_takes {alloc : Allocator} {stages : List Stage} {answer : Except CommandStop String}
    (command : Command) (takes : ∀ source, Takes source 0 stages answer 0 (execute alloc source command))
    (small : total stages < addressSpace) (limit : Nat) (logLevel : Option String) (earlier : List Event) :
    Budgeted limit stages answer fun budget => run alloc ⟨budget, logLevel, command⟩ earlier where
  unlimited := by
    obtain ⟨after, done, _⟩ := (takes _).covered 0 (stands_start none earlier) (by omega)
      (shortfall?_unlimited _ stages)
    exact (run_of_execute done logLevel).1
  covered enough := by
    obtain ⟨after, done, stands⟩ := (takes _).covered 0 (stands_start (some limit) earlier) (by omega)
      (shortfall?_of_le (by omega))
    obtain ⟨answered, same⟩ := run_of_execute done logLevel
    exact ⟨answered, stands.of_ledger?_eq (same _)⟩
  short beyond := by
    obtain ⟨before, stage, later, split, passed, exceeded, report⟩ :=
      shortfall?_of_lt (Nat.zero_le limit) (show limit < 0 + total stages by omega)
    rw [Nat.zero_add] at passed exceeded report
    obtain ⟨after, done, stands⟩ := (takes _).short 0 (stands_start (some limit) earlier) (by omega) report
    obtain ⟨answered, same⟩ := run_of_execute done logLevel
    exact ⟨before, stage, later, split, passed, exceeded, answered, stands.of_ledger?_eq (same _)⟩

end Program

end Quota
