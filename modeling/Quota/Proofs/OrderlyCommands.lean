import Quota.Command.Execution
import Quota.Proofs.Holdings

set_option autoImplicit false

/-!
# Commands give back what they take

A computation is orderly if it follows a script and turns the holdings that it is given into those of its result, with
all other holdings left alone. Orderly computations can be put together, and every command is orderly from no holdings to
none: what it took is given back on every way out.
-/
namespace Quota

/-- Begun with some holdings, the computation ends with those of its result. -/
structure Orderly {α : Type} (held : Multiset Holding) (left : α → Multiset Holding)
    (c : Allocator → Books → α × Books) : Prop where
  scripted : Scripted c
  backs : ∀ (alloc : Allocator) (books : Books) (direct : Source → Nat) (rest : Multiset Holding),
    books.Backs direct (held + rest) → (c alloc books).2.Backs direct (left (c alloc books).1 + rest)

/-- What is held after a computation that may fail: the holdings of its value, or none. -/
def unlessFailed {ε α : Type} (owned : α → Multiset Holding) : Except ε α → Multiset Holding
  | .ok x => owned x
  | .error _ => 0

/-- Nothing is held, whatever the result. -/
def nothing {α : Type} (_ : α) : Multiset Holding := 0

theorem unlessFailed_nothing {ε α : Type} :
    unlessFailed (nothing : α → Multiset Holding) = (nothing : Except ε α → Multiset Holding) := by
  funext r
  cases r <;> rfl

/-- Go on after a computation that may have failed. -/
def followed {ε α β : Type} (c : Except ε α × Books) (onError : ε → Books → β × Books) (onOk : α → Books → β × Books) :
    β × Books :=
  match c with
  | (.error e, books) => onError e books
  | (.ok x, books) => onOk x books

namespace Orderly

variable {ε α β : Type} {held more : Multiset Holding} {left : β → Multiset Holding}

theorem of_yields {owned : α → Multiset Holding} {c : Allocator → Books → Except ε α × Books} (scripted : Scripted c)
    (yields : ∀ alloc, Yields owned (c alloc)) : Orderly 0 (unlessFailed owned) c := by
  refine ⟨scripted, ?_⟩
  intro alloc books direct rest backs
  rw [zero_add] at backs
  rcases done : c alloc books with ⟨e | x, after⟩
  · rw [show unlessFailed owned (.error e : Except ε α) = 0 from rfl, zero_add]
    exact (yields alloc).failed backs done
  · exact (yields alloc).made backs done

theorem pure (left : β → Multiset Holding) (x : β) : Orderly (left x) left fun _ books => (x, books) :=
  ⟨.pure x, fun _ _ _ _ backs => backs⟩

theorem answer (x : β) : Orderly 0 nothing fun _ books => (x, books) := pure nothing x

theorem congr {c d : Allocator → Books → β × Books} (hc : Orderly held left c)
    (h : ∀ alloc books, d alloc books = c alloc books) : Orderly held left d := by
  refine ⟨hc.scripted.congr h, ?_⟩
  intro alloc books direct rest backs
  rw [h]
  exact hc.backs alloc books direct rest backs

/-- Holdings that a computation does not know of stay as they are. -/
theorem frame {c : Allocator → Books → β × Books} (hc : Orderly held left c) (more : Multiset Holding) :
    Orderly (held + more) (fun x => left x + more) c := by
  refine ⟨hc.scripted, ?_⟩
  intro alloc books direct rest backs
  rw [add_assoc] at backs ⊢
  exact hc.backs alloc books direct (more + rest) backs

theorem bind {between : α → Multiset Holding} {c : Allocator → Books → α × Books}
    {f : α → Allocator → Books → β × Books} (hc : Orderly held between c) (hf : ∀ x, Orderly (between x) left (f x)) :
    Orderly held left fun alloc books => f (c alloc books).1 alloc (c alloc books).2 := by
  refine ⟨hc.scripted.bind fun x => (hf x).scripted, ?_⟩
  intro alloc books direct rest backs
  exact (hf _).backs alloc _ direct rest (hc.backs alloc books direct rest backs)

/-- A change of the books that ends holdings, before a result that has none of them. -/
theorem edit {f : Books → Books} (scripted : ScriptedEdit f) (frees : Frees held f) (x : β) :
    Orderly (left x + held) left fun _ books => (x, f books) := by
  refine ⟨(Scripted.pure x).andThen scripted, ?_⟩
  intro alloc books direct rest backs
  rw [add_comm (left x), add_assoc] at backs
  exact frees books direct (left x + rest) backs

theorem release {f : Books → Books} (scripted : ScriptedEdit f) (frees : Frees held f) {x : β} (empty : left x = 0) :
    Orderly held left fun _ books => (x, f books) := by
  have edited : Orderly (left x + held) left fun _ books => (x, f books) := edit scripted frees x
  rwa [empty, zero_add] at edited

theorem note {c : Allocator → Books → β × Books} (hc : Orderly held left c) (e : Event) :
    Orderly held left fun alloc books => c alloc (books.note e) := by
  have noted : Orderly held (fun _ : Unit => held) fun _ books => ((), books.note e) :=
    ⟨ScriptedEdit.note e, fun _ _ _ _ backs => backs.note e⟩
  exact noted.bind fun _ => hc

/-- A computation that may fail, with what follows in either case and the holdings that only the latter knows of. -/
theorem attempt {owned : α → Multiset Holding} {c : Allocator → Books → Except ε α × Books}
    {onError : ε → Allocator → Books → β × Books} {onOk : α → Allocator → Books → β × Books}
    (hc : Orderly held (unlessFailed owned) c) (he : ∀ e, Orderly more left (onError e))
    (hk : ∀ x, Orderly (owned x + more) left (onOk x)) :
    Orderly (held + more) left fun alloc books =>
      followed (c alloc books) (fun e => onError e alloc) fun x => onOk x alloc := by
  refine ((hc.frame more).bind (f := fun r alloc books => followed (r, books) (fun e => onError e alloc) fun x =>
    onOk x alloc) ?_).congr fun _ _ => rfl
  rintro (e | x)
  · rw [show unlessFailed owned (.error e : Except ε α) = 0 from rfl, zero_add]
    exact he e
  · exact hk x

theorem andThen {owned : α → Multiset Holding} {c : Allocator → Books → Except ε α × Books}
    {onError : ε → Allocator → Books → β × Books} {onOk : α → Allocator → Books → β × Books}
    (hc : Orderly held (unlessFailed owned) c) (he : ∀ e, Orderly 0 left (onError e))
    (hk : ∀ x, Orderly (owned x) left (onOk x)) :
    Orderly held left fun alloc books =>
      followed (c alloc books) (fun e => onError e alloc) fun x => onOk x alloc := by
  have none : ∀ x, Orderly (owned x + 0) left (onOk x) := by
    intro x
    rw [add_zero]
    exact hk x
  have attempted := hc.attempt he none
  rwa [add_zero] at attempted

/-- A computation without holdings, whose failure is passed on. -/
theorem proceed {γ : Type} {c : Allocator → Books → Except ε α × Books}
    {onOk : α → Allocator → Books → Except ε γ × Books} (hc : Orderly held nothing c)
    (hk : ∀ x, Orderly 0 nothing (onOk x)) :
    Orderly held nothing fun alloc books =>
      followed (c alloc books) (fun e books => (.error e, books)) fun x => onOk x alloc := by
  rw [← unlessFailed_nothing] at hc
  exact hc.andThen (fun e => .answer (Except.error e)) hk

/-- A value that is made, used for a result, and released. -/
theorem finish {owned : α → Multiset Holding} {c : Allocator → Books → Except ε α × Books}
    {release : α → Books → Books} (hc : Orderly held (unlessFailed owned) c) (scripted : ∀ x, ScriptedEdit (release x))
    (frees : ∀ x, Frees (owned x) (release x)) (onError : ε → β) (onOk : α → β) :
    Orderly held nothing fun alloc books =>
      followed (c alloc books) (fun e books => (onError e, books)) fun x books => (onOk x, release x books) :=
  hc.andThen (fun e => .answer (onError e)) fun x => .release (scripted x) (frees x) rfl

end Orderly

namespace Execution

variable {α β : Type} {held : Multiset Holding} {owned : β → Multiset Holding}

theorem orderly_inContext {c : Allocator → Books → Except StorageFault β × Books}
    (hc : Orderly held (unlessFailed owned) c) (context : String) :
    Orderly held (unlessFailed owned) fun alloc books => inContext context (c alloc books) := by
  refine (hc.andThen (fun f => .pure (unlessFailed owned) (.error (failure context f.fault)))
    fun x => .pure (unlessFailed owned) (.ok x)).congr fun alloc books => ?_
  rcases c alloc books with ⟨_ | _, _⟩ <;> rfl

theorem orderly_holding {left : Except CommandStop α → Multiset Holding} {make : Allocator → Action β}
    {release : β → Books → Books} {body : β → Allocator → Action α} (failed : ∀ stop, left (.error stop) = 0)
    (hm : Orderly held (unlessFailed owned) make) (scripted : ∀ b, ScriptedEdit (release b))
    (frees : ∀ b, Frees (owned b) (release b)) (hb : ∀ b, Orderly 0 left (body b)) :
    Orderly held left fun alloc => holding (make alloc) release fun b => body b alloc := by
  have stopped : ∀ stop, Orderly 0 left fun _ books => (.error stop, books) := by
    intro stop
    rw [← failed stop]
    exact .pure left (.error stop)
  have used : ∀ b, Orderly (owned b) left fun alloc books =>
      ((body b alloc books).1, release b (body b alloc books).2) := by
    intro b
    -- The body does not know of the value's holdings, so they are still there to be released.
    have framed := (hb b).frame (owned b)
    rw [zero_add] at framed
    exact framed.bind fun r => .edit (scripted b) (frees b) r
  refine (hm.andThen stopped used).congr fun alloc books => ?_
  rw [holding]
  rcases make alloc books with ⟨_ | _, _⟩ <;> rfl

end Execution

def stringHoldings (strings : List ByteString) : Multiset Holding := (strings.map ByteString.holdings).sum

theorem stringHoldings_cons (s : ByteString) (strings : List ByteString) :
    stringHoldings (s :: strings) = s.holdings + stringHoldings strings := by
  simp [stringHoldings]

theorem stringHoldings_reverse (strings : List ByteString) : stringHoldings strings.reverse = stringHoldings strings :=
  (strings.reverse_perm.map ByteString.holdings).sum_eq

/-- What an array of strings holds: its own block, and what the strings hold. -/
def arrayHoldings (a : FixedArray ByteString) : Multiset Holding := {⟨a.block, a.element⟩} + stringHoldings a.toList

/-- What is held after strings were to be put into an array: they are in it, or still apart. -/
def gathered {ε : Type} (strings : List ByteString) : Except ε (FixedArray ByteString) → Multiset Holding
  | .ok a => arrayHoldings a
  | .error _ => stringHoldings strings

namespace Execution

theorem scripted_releaseAll (strings : List ByteString) : ScriptedEdit (releaseAll strings) :=
  .foldl ByteString.scripted_release strings

theorem frees_releaseAll (strings : List ByteString) : Frees (stringHoldings strings) (releaseAll strings) :=
  .foldl ByteString.frees_release strings

theorem scripted_releaseArray (a : FixedArray ByteString) : ScriptedEdit (releaseArray a) :=
  FixedArray.scripted_release ByteString.scripted_release a

theorem frees_releaseArray (a : FixedArray ByteString) : Frees (arrayHoldings a) (releaseArray a) := by
  have freed := (a.block.frees_release a.element).comp (frees_releaseAll a.toList)
  intro books direct rest backs
  rw [releaseArray, FixedArray.release_eq]
  exact freed books direct rest backs

variable (source : Source)

theorem orderly_copyArgument (value : String) :
    Orderly 0 (unlessFailed ByteString.holdings) fun alloc => copyArgument alloc source value :=
  orderly_inContext (.of_yields (ByteString.scripted_ofBytes source _)
    fun alloc => ByteString.yields_ofBytes alloc source _) _

theorem orderly_holdingCopy {α : Type} {left : Except CommandStop α → Multiset Holding}
    {body : ByteString → Allocator → Action α} (failed : ∀ stop, left (.error stop) = 0) (value : String)
    (hb : ∀ s, Orderly 0 left (body s)) :
    Orderly 0 left fun alloc => holding (copyArgument alloc source value) ByteString.release fun s => body s alloc :=
  orderly_holding failed (orderly_copyArgument source value) ByteString.scripted_release ByteString.frees_release hb

theorem orderly_copyArguments (copied : List ByteString) (args : List String) :
    Orderly (stringHoldings copied) (unlessFailed stringHoldings)
      fun alloc => copyArguments alloc source copied args := by
  induction args generalizing copied with
  | nil =>
    have done := Orderly.pure (unlessFailed stringHoldings) (.ok copied.reverse : Except CommandStop _)
    rw [show unlessFailed stringHoldings (.ok copied.reverse : Except CommandStop _) = stringHoldings copied.reverse
      from rfl, stringHoldings_reverse] at done
    exact done
  | cons value rest ih =>
    have released : ∀ stop : CommandStop, Orderly (stringHoldings copied) (unlessFailed stringHoldings)
        fun _ books => (Except.error stop, releaseAll copied.reverse books) := by
      intro stop
      rw [← stringHoldings_reverse]
      exact .release (scripted_releaseAll _) (frees_releaseAll _) rfl
    have copiedNext : ∀ s, Orderly (s.holdings + stringHoldings copied) (unlessFailed stringHoldings)
        fun alloc => copyArguments alloc source (s :: copied) rest := by
      intro s
      rw [← stringHoldings_cons]
      exact ih (s :: copied)
    have both := (orderly_copyArgument source value).attempt released copiedNext
    rw [zero_add] at both
    refine both.congr fun alloc books => ?_
    rw [copyArguments]
    rcases copyArgument alloc source value books with ⟨_ | _, _⟩ <;> rfl

/-- Strings that are put into an array are held by it. -/
theorem orderly_ofList (strings : List ByteString) :
    Orderly (stringHoldings strings) (gathered strings)
      fun alloc books => FixedArray.ofList alloc source .string strings books := by
  refine ⟨FixedArray.scripted_ofList source .string strings, ?_⟩
  intro alloc books direct rest backs
  have yields := FixedArray.yields_ofList alloc source .string strings
  rcases done : FixedArray.ofList alloc source .string strings books with ⟨f | a, after⟩
  · exact yields.failed backs done
  · have made := yields.made backs done
    rwa [← add_assoc, ← FixedArray.toList_of_ofList done] at made

theorem orderly_gatherArguments (args : List String) :
    Orderly 0 (unlessFailed arrayHoldings) fun alloc => gatherArguments alloc source args := by
  have released : ∀ strings : List ByteString, ∀ r : Except StorageFault (FixedArray ByteString),
      Orderly (gathered strings r) (unlessFailed arrayHoldings) fun _ books =>
        followed (inContext "allocating argument array" (r, books))
          (fun stop books => (Except.error stop, releaseAll strings books)) fun a books => (Except.ok a, books) := by
    rintro strings (f | a)
    · exact .release (scripted_releaseAll strings) (frees_releaseAll strings) rfl
    · exact .pure (unlessFailed arrayHoldings) (.ok a)
  refine ((orderly_copyArguments source [] args).andThen (fun stop => .pure (unlessFailed arrayHoldings)
    (.error stop)) fun strings => (orderly_ofList source strings).bind (released strings)).congr fun alloc books => ?_
  rw [gatherArguments]
  rcases copyArguments alloc source [] args books with ⟨_ | strings, middle⟩
  · rfl
  · simp only [followed]
    rcases FixedArray.ofList alloc source .string strings middle with ⟨_ | _, _⟩ <;> rfl

theorem orderly_format (lead : String) (args : List String) :
    Orderly 0 nothing fun alloc => format alloc source lead args := by
  refine orderly_holdingCopy source (fun _ => rfl) lead fun lead => ?_
  refine orderly_holding (fun _ => rfl) (orderly_gatherArguments source args) scripted_releaseArray frees_releaseArray
    fun args => ?_
  have formatted : Orderly 0 (unlessFailed ByteString.holdings) fun alloc books => lead.format alloc args books :=
    .of_yields (ByteString.scripted_format lead args) fun alloc => lead.yields_format alloc args
  refine (formatted.finish ByteString.scripted_release ByteString.frees_release (fun f => .error (failure
    s!"format failed with status {(FaultSet.formatting.statusOf f.fault).toNat}" f.fault)) fun r =>
    .ok r.display).congr fun alloc books => ?_
  rcases lead.format alloc args books with ⟨_ | _, _⟩ <;> rfl

theorem orderly_replace (text needle insert : String) (count : Int) :
    Orderly 0 nothing fun alloc => replace alloc source text needle insert count := by
  have replaced : Orderly 0 (unlessFailed ByteString.holdings) fun alloc =>
      holding (copyArgument alloc source text) ByteString.release fun text =>
        holding (copyArgument alloc source needle) ByteString.release fun needle =>
          holding (copyArgument alloc source insert) ByteString.release fun insert books =>
            inContext "replacen failed with status 1" (text.replace alloc needle insert count books) := by
    refine orderly_holdingCopy source (fun _ => rfl) text fun text => ?_
    refine orderly_holdingCopy source (fun _ => rfl) needle fun needle => ?_
    refine orderly_holdingCopy source (fun _ => rfl) insert fun insert => ?_
    exact orderly_inContext (.of_yields (text.scripted_replace needle insert count)
      fun alloc => text.yields_replace alloc needle insert count) _
  refine (replaced.finish ByteString.scripted_release ByteString.frees_release .error fun r =>
    .ok r.display).congr fun alloc books => ?_
  simp only [replace]
  generalize holding (copyArgument alloc source text) _ _ books = r
  rcases r with ⟨_ | _, _⟩ <;> rfl

theorem orderly_window (text : ByteString) (start stop : Int) :
    Orderly 0 (unlessFailed ByteString.holdings) fun alloc books => text.substring alloc start stop books :=
  .of_yields (text.scripted_substring start stop) fun alloc => text.yields_substring alloc start stop

theorem orderly_substr (text : String) (start stop : Int) :
    Orderly 0 nothing fun alloc => substr alloc source text start stop := by
  refine orderly_holdingCopy source (fun _ => rfl) text fun text => ?_
  refine ((orderly_window text start stop).finish ByteString.scripted_release ByteString.frees_release
    (fun f => .error (failure
      s!"get_substr failed with status {(FaultSet.substring.statusOf f.fault).toNat}" f.fault))
    fun r => .ok r.display).congr fun alloc books => ?_
  rcases text.substring alloc start stop books with ⟨_ | _, _⟩ <;> rfl

/-- What comes of a range is still held after the text was released. -/
theorem orderly_cut (text : String) (start stop : Int) :
    Orderly 0 (unlessFailed (unlessFailed ByteString.holdings)) fun alloc => cut alloc source text start stop := by
  refine orderly_holdingCopy source (fun _ => rfl) text fun text => ?_
  exact (orderly_window text start stop).bind fun r => .pure (unlessFailed (unlessFailed ByteString.holdings)) (.ok r)

theorem scripted_releaseCut (r : Except SubstringFault ByteString) : ScriptedEdit (releaseCut r) := by
  cases r with
  | error f => exact .id
  | ok t => exact t.scripted_release

theorem frees_releaseCut (r : Except SubstringFault ByteString) :
    Frees (unlessFailed ByteString.holdings r) (releaseCut r) := by
  cases r with
  | error f => exact .zero
  | ok t => exact t.frees_release

end Execution

/-- The answer to a run of pushes. -/
def Execution.answer : CappedVector Int × Option (Nat × PushStop) → Except CommandStop String
  | (v, none) => shape v
  | (_, some (next, .storage f)) => .error (failure s!"push {next} failed with status 1" f.fault)
  | (_, some (_, .capped)) => .error (.abort CappedVector.cappedFragments)

def vectorHoldings (v : CappedVector Int) : Multiset Holding := {⟨v.block, v.element⟩}

namespace Execution

theorem scripted_releaseVector (v : CappedVector Int) : ScriptedEdit (releaseVector v) :=
  CappedVector.scripted_release (fun _ => .id) v

theorem frees_releaseVector (v : CappedVector Int) : Frees (vectorHoldings v) (releaseVector v) := by
  have freed := (v.block.frees_release v.element).comp (Frees.foldl (fun _ : Int => .zero) v.toList)
  intro books direct rest backs
  rw [releaseVector, CappedVector.release_eq]
  refine freed books direct rest ?_
  simpa [vectorHoldings] using backs

theorem orderly_pushOne (v : CappedVector Int) (x : Int) :
    Orderly (vectorHoldings v) (fun r => vectorHoldings r.2) fun alloc books =>
      (((v.push alloc x books).1, (v.push alloc x books).2.1), (v.push alloc x books).2.2) := by
  refine ⟨v.scripted_push x, ?_⟩
  intro alloc books direct rest backs
  simp only [CappedVector.push]
  split
  · rcases grown : v.grow alloc books with ⟨_ | _, w, after⟩
    · exact (CappedVector.backs_grow backs grown).2
    · exact (CappedVector.backs_grow backs grown).2
  · exact backs

/-- Every push leaves the vector as the only thing held, whether it was done or not. -/
theorem orderly_pushFrom (remaining next : Nat) (v : CappedVector Int) :
    Orderly (vectorHoldings v) (fun r => vectorHoldings r.1) fun alloc => pushFrom alloc remaining next v := by
  induction remaining generalizing next v with
  | zero => exact .pure (fun r : CappedVector Int × Option (Nat × PushStop) => vectorHoldings r.1) (v, none)
  | succ remaining ih =>
    -- A push that fails leaves a vector too, so what is held is read off the vector in either case.
    have goOn : ∀ r : Except PushStop Unit × CappedVector Int,
        Orderly (vectorHoldings r.2) (fun r => vectorHoldings r.1) fun alloc books =>
          followed (r.1, books) (fun stop books => ((r.2, some (next, stop)), books))
            fun _ books => pushFrom alloc remaining (next + 1) r.2 books := by
      rintro ⟨stop | _, w⟩
      · exact .pure (fun r : CappedVector Int × Option (Nat × PushStop) => vectorHoldings r.1) (w, some (next, stop))
      · exact ih (next + 1) w
    refine ((orderly_pushOne v next).bind goOn).congr fun alloc books => ?_
    rw [pushFrom]
    rcases v.push alloc next books with ⟨_ | _, _, _⟩ <;> rfl

variable (source : Source)

theorem orderly_push (count : Int) : Orderly 0 nothing fun alloc => push alloc source count := by
  by_cases negative : count < 0
  · refine (Orderly.answer (.error (.failed [s!"count must not be negative, got {count}"]))).congr
      fun alloc books => ?_
    rw [push, if_pos negative]
  · have created : Orderly 0 (unlessFailed vectorHoldings) fun alloc books =>
        inContext "allocating vector" (CappedVector.create alloc source .word books) :=
      orderly_inContext (.of_yields (CappedVector.scripted_create source .word)
        fun alloc => CappedVector.yields_create_of alloc source .word fun _ => rfl) _
    have pushed : ∀ v, Orderly (vectorHoldings v) nothing fun alloc books =>
        (answer (pushFrom alloc count.toNat 0 v books).1,
          releaseVector (pushFrom alloc count.toNat 0 v books).1.1 (pushFrom alloc count.toNat 0 v books).2) := fun v =>
      (orderly_pushFrom count.toNat 0 v).bind (f := fun r _ books => (answer r, releaseVector r.1 books)) fun r =>
        .release (scripted_releaseVector r.1) (frees_releaseVector r.1) rfl
    refine (created.andThen (fun stop => .answer (.error stop)) pushed).congr fun alloc books => ?_
    rw [push, if_neg negative]
    rcases inContext "allocating vector" (CappedVector.create alloc source .word books) with ⟨_ | v, middle⟩
    · rfl
    · simp only [followed]
      rcases pushFrom alloc count.toNat 0 v middle with ⟨⟨w, _ | ⟨n, _ | _⟩⟩, after⟩ <;> rfl

theorem orderly_verdicts_nil : Orderly 0 nothing fun _ => verdicts [] := .answer (Except.ok [])

theorem orderly_verdicts_cons {action : Allocator → Action String}
    {rest : Allocator → List (String × String × Action String)} (name expected : String)
    (first : Orderly 0 nothing action) (further : Orderly 0 nothing fun alloc => verdicts (rest alloc)) :
    Orderly 0 nothing fun alloc => verdicts ((name, expected, action alloc) :: rest alloc) := by
  refine (first.proceed fun actual => further.proceed fun lines =>
    .answer (Except.ok (verdict name actual expected :: lines))).congr fun alloc books => ?_
  rw [verdicts]
  rcases action alloc books with ⟨_ | _, middle⟩
  · rfl
  · simp only [followed]
    rcases verdicts (rest alloc) middle with ⟨_ | _, _⟩ <;> rfl

theorem orderly_report (lines : List (Bool × String)) : Orderly 0 nothing fun _ => report lines :=
  (Orderly.answer (Except.ok ("\n".intercalate (lines.map Prod.snd ++
    [s!"{(lines.filter Prod.fst).length}/{lines.length} scenarios passed"])))).note
    (.scenariosFinished (lines.filter Prod.fst).length lines.length)

theorem orderly_scenarios : Orderly 0 nothing fun alloc => scenarios alloc source := by
  have opening : Orderly 0 nothing fun alloc => verdicts (openingScenarios alloc source) := by
    refine orderly_verdicts_cons _ _ (orderly_format source _ _) ?_
    exact orderly_verdicts_cons _ _ (orderly_substr source _ _ _) orderly_verdicts_nil
  have closing : Orderly 0 nothing fun alloc => verdicts (closingScenarios alloc source) := by
    refine orderly_verdicts_cons _ _ (orderly_replace source _ _ _ _) ?_
    exact orderly_verdicts_cons _ _ (orderly_push source _) orderly_verdicts_nil
  -- the later scenarios run while what came of the empty range is held
  have later : ∀ first, Orderly 0 nothing fun alloc =>
      holding (cut alloc source "hello world" 5 5) releaseCut fun empty books =>
        followed (verdicts (closingScenarios alloc source) books) (fun stop books => (.error stop, books))
          fun third => report
            (first ++ verdict "substr-empty" s!"status {(cutStatus empty).toNat}" "status 1" :: third) := fun first =>
    orderly_holding (fun _ => rfl) (orderly_cut source "hello world" 5 5) scripted_releaseCut frees_releaseCut
      fun empty => closing.proceed fun third => orderly_report _
  refine (opening.proceed later).congr fun alloc books => ?_
  rw [scenarios]
  rcases verdicts (openingScenarios alloc source) books with ⟨_ | first, middle⟩
  · rfl
  · simp only [followed, holding]
    rcases cut alloc source "hello world" 5 5 middle with ⟨_ | empty, last⟩
    · rfl
    · dsimp only
      rcases verdicts (closingScenarios alloc source) last with ⟨_ | _, _⟩ <;> rfl

/-- Every command gives back what it takes, on every way out. -/
theorem orderly_execute (command : Command) : Orderly 0 nothing fun alloc => execute alloc source command := by
  cases command with
  | scenarios => exact (orderly_scenarios source).note _
  | format lead args => exact (orderly_format source lead args).note _
  | replace text needle insert count => exact (orderly_replace source text needle insert count).note _
  | substr text start stop => exact (orderly_substr source text start stop).note _
  | push count => exact (orderly_push source count).note _

end Execution

end Quota
