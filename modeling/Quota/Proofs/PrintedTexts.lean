import Quota.Proofs.TextBudgets

set_option autoImplicit false

/-!
# Printed texts

Where the storage that a command asks for is granted, replacing in texts and formatting them prints the exact result:
no octets are lost on the way from the words of the command to what is printed, and no character is made up.
-/
namespace Quota

open Utf8

/-- The allocator backs the stages, their bytes are addressable, and a budget has room for them. -/
structure Stage.Granted (alloc : Allocator) (budget : Option Nat) (stages : List Stage) : Prop where
  backed : alloc.Grants stages
  addressable : Stage.total stages < addressSpace
  covered : ∀ limit, budget = some limit → Stage.total stages ≤ limit

namespace Program

open Execution Search Stage

/-- Wherever its storage is granted, the command is answered with the text, and the program prints it. -/
structure Prints (alloc : Allocator) (command : Command) (stages : List Stage) (out : String) : Prop where
  answered : ∀ (budget : Option Nat) (logLevel : Option String) (earlier : List Event),
    Granted alloc budget stages → (run alloc ⟨budget, logLevel, command⟩ earlier).1 = .ok out
  /-- However the words and the filter are read. -/
  printed : ∀ (front : FrontEnd) (site : CallSite) (words : List String) (environment : Option String)
    (inv : Invocation) (shown : Filter), front.invocation words = .ok inv → inv.command = command →
    filter front inv.logLevel environment = .ok shown → Granted alloc inv.budget stages →
    ∃ stderr, launch front alloc site words environment false = .finished 0 (out ++ "\n") stderr

theorem launch_of_answer {front : FrontEnd} {alloc : Allocator} {words : List String} {environment : Option String}
    {inv : Invocation} {shown : Filter} {out : String} (read : front.invocation words = .ok inv)
    (chosen : filter front inv.logLevel environment = .ok shown)
    (answered : ∀ earlier, (run alloc inv earlier).1 = .ok out) (site : CallSite) :
    ∃ stderr, launch front alloc site words environment false = .finished 0 (out ++ "\n") stderr := by
  simp only [launch, read, chosen]
  have ended := answered [.handlerInstalled (Handler.fresh.install .default).2.inForce.exitCode]
  rcases done : run alloc inv [.handlerInstalled (Handler.fresh.install .default).2.inForce.exitCode]
    with ⟨answer, books⟩
  rw [done] at ended
  cases ended
  exact ⟨_, rfl⟩

theorem prints_of_takes {alloc : Allocator} {command : Command} {stages : List Stage} {out : String}
    (takes : alloc.Grants stages → total stages < addressSpace →
      ∀ source, Takes source 0 stages (.ok out) 0 (execute alloc source command)) :
    Prints alloc command stages out := by
  have answered : ∀ (budget : Option Nat) (logLevel : Option String) (earlier : List Event),
      Granted alloc budget stages → (run alloc ⟨budget, logLevel, command⟩ earlier).1 = .ok out := by
    intro budget logLevel earlier granted
    have budgeted := fun limit => budgeted_of_takes command (takes granted.backed granted.addressable)
      granted.addressable limit logLevel earlier
    cases budget with
    | none => exact (budgeted 0).unlimited
    | some limit => exact ((budgeted limit).covered (granted.covered limit rfl)).1
  refine ⟨answered, fun front site words environment inv shown read named chosen granted => ?_⟩
  obtain ⟨budget, logLevel, command⟩ := inv
  cases named
  exact launch_of_answer read chosen (fun earlier => answered budget logLevel earlier granted) site

theorem prints_replace {alloc : Allocator} {text needle insert result : String} {count : Int}
    (replaced : Replaced (encode needle) (encode insert) count (encode text) (encode result)) :
    Prints alloc (.replace text needle insert count) (replacing text needle insert result) result :=
  prints_of_takes fun grants small _ => takes_execute_replace replaced grants small

theorem prints_format (alloc : Allocator) (lead : String) (args : List String) :
    Prints alloc (.format lead args) (formatting lead args) (lead ++ String.join args) :=
  prints_of_takes fun grants small _ => takes_execute_format grants small

/-- What is made of texts is a text. A text is found between characters only. Replacing in texts, joining and formatting
them give well-formed octets, which read as what they are. An answer to such a command is the exact result, without a
character that was in none of its words, and where the storage is granted it is answered and printed. -/
theorem texts_stay_texts (alloc : Allocator) :
    (∀ s needle : ByteString, isValid s.bytes = true → isValid needle.bytes = true → ∀ k : Nat, s.find needle = k →
      IsBoundary s.bytes k ∧ IsBoundary s.bytes (k + needle.length)) ∧
    (∀ (s needle insert r : ByteString) (limit : Int) (books after : Books), isValid s.bytes = true →
      isValid needle.bytes = true → isValid insert.bytes = true →
      s.replace alloc needle insert limit books = (.ok r, after) →
      isValid r.bytes = true ∧ encode r.display = r.bytes) ∧
    (∀ (s t r : ByteString) (books after : Books), isValid s.bytes = true → isValid t.bytes = true →
      s.concat alloc t books = (.ok r, after) → isValid r.bytes = true ∧ encode r.display = r.bytes) ∧
    (∀ (s r : ByteString) (args : FixedArray ByteString) (books after : Books), isValid s.bytes = true →
      (∀ t ∈ args.toList, isValid t.bytes = true) →
      s.format alloc args books = (.ok r, after) → isValid r.bytes = true ∧ encode r.display = r.bytes) ∧
    (∀ (source : Source) (text needle insert out : String) (count : Int) (books after : Books),
      execute alloc source (.replace text needle insert count) books = (.ok out, after) →
      Replaced (encode needle) (encode insert) count (encode text) (encode out) ∧
      ∀ c ∈ out.toList, c ∈ text.toList ∨ c ∈ insert.toList) ∧
    (∀ (source : Source) (lead out : String) (args : List String) (books after : Books),
      execute alloc source (.format lead args) books = (.ok out, after) → out = lead ++ String.join args) ∧
    (∀ (text needle insert : String) (count : Int), ∃ result,
      Replaced (encode needle) (encode insert) count (encode text) (encode result) ∧
      (∀ c ∈ result.toList, c ∈ text.toList ∨ c ∈ insert.toList) ∧
      Prints alloc (.replace text needle insert count) (replacing text needle insert result) result) ∧
    ∀ (lead : String) (args : List String),
      Prints alloc (.format lead args) (formatting lead args) (lead ++ String.join args) := by
  refine ⟨fun s needle whole part k found => ?_,
    fun s needle insert r limit books after whole part other made => ?_,
    fun s t r books after first second made => ?_, fun s r args books after first others made => ?_,
    fun source text needle insert out count books after answered => ?_,
    fun source lead out args books after answered => eq_of_format answered,
    fun text needle insert count => ?_, prints_format alloc⟩
  · obtain ⟨nonempty, p, q, leftmost, place⟩ := leftmost_of_find (ByteString.search_of_find found)
    rw [place]
    exact isBoundary_of_leftmost leftmost whole part nonempty
  · have valid := ByteString.isValid_of_replace made whole part other
    exact ⟨valid, encode_lossy valid⟩
  · have valid : isValid r.bytes = true := by rw [ByteString.bytes_of_concat made, isValid_append first, second]
    exact ⟨valid, encode_lossy valid⟩
  · have valid : isValid r.bytes = true := by
      rw [ByteString.bytes_of_format made, isValid_append first]
      exact ByteString.isValid_flatMap others
    exact ⟨valid, encode_lossy valid⟩
  · have replaced := replaced_of_answer answered
    obtain ⟨same, bytes, known⟩ := exists_text_of_replaced replaced text rfl
    cases encode_injective bytes
    exact ⟨replaced, known⟩
  · obtain ⟨result, replaced, known⟩ := exists_replaced_text text needle insert count
    exact ⟨result, replaced, known, prints_replace replaced⟩

/-- A front end that reads any words as one command, under a budget. -/
def settled (budget : Nat) (command : Command) : FrontEnd :=
  ⟨fun _ => .ok ⟨some budget, none, command⟩, fun _ => .ok .warnings⟩

def spelled (text : String) : ByteString := .literal .heap (encode text)

/-- A letter of two octets is found between its neighbours, one of three octets takes its place, and texts with both are
put together, in strings as in commands. -/
theorem letters_printed :
    (IsBoundary (encode "año") 1 ∧ IsBoundary (encode "año") 3) ∧
    (∃ r, ((spelled "año").replace (.machine 40) (spelled "ñ") (spelled "日") 2 (.ofLimits [])).1 = .ok r ∧
      isValid r.bytes = true) ∧
    (∃ r, ((spelled "ñ").concat (.machine 40) (spelled "日") (.ofLimits [])).1 = .ok r ∧ isValid r.bytes = true) ∧
    (∃ r, ((spelled "ñ").format (.machine 40) ⟨.string, ⟨.heap, 1, 16⟩, Rows.ofArray #[spelled "日"]⟩
      (.ofLimits [])).1 = .ok r ∧ isValid r.bytes = true) ∧
    ((run (.machine 40) ⟨some 14, none, .replace "año" "ñ" "日" 2⟩ []).1 = .ok "a日o" ∧
      ∃ stderr, launch (settled 14 (.replace "año" "ñ" "日" 2)) (.machine 40) ⟨"main", 4, 9⟩ [] none false =
        .finished 0 "a日o\n" stderr) ∧
    (run (.machine 40) ⟨some 28, none, .format "añ" ["日"]⟩ []).1 = .ok "añ日" ∧
    ∃ stderr, launch (settled 28 (.format "añ" ["日"])) (.machine 40) ⟨"main", 4, 9⟩ [] none false =
      .finished 0 "añ日\n" stderr := by
  obtain ⟨found, replaced, joined, formatted, substituted, composed, replacement, format⟩ :=
    texts_stay_texts (.machine 40)
  have valid : ∀ text, isValid (spelled text).bytes = true := isValid_encode
  refine ⟨?_, ⟨.owned ⟨.heap, 5, 5⟩ (encode "a日o"), ?_⟩, ⟨.owned ⟨.heap, 5, 5⟩ (encode "ñ日"), ?_⟩,
    ⟨.owned ⟨.heap, 5, 5⟩ (encode "ñ日"), ?_⟩, ?_, ?_⟩
  · exact found (spelled "año") (spelled "ñ") (valid _) (valid _) 1 (by decide +kernel)
  · have made : ((spelled "año").replace (.machine 40) (spelled "ñ") (spelled "日") 2 (.ofLimits [])).1 =
        .ok (.owned ⟨.heap, 5, 5⟩ (encode "a日o")) := by
      decide +kernel
    exact ⟨made, (replaced _ _ _ _ _ _ _ (valid "año") (valid "ñ") (valid "日") (Prod.ext made rfl)).1⟩
  · have made : ((spelled "ñ").concat (.machine 40) (spelled "日") (.ofLimits [])).1 =
        .ok (.owned ⟨.heap, 5, 5⟩ (encode "ñ日")) := by
      decide +kernel
    exact ⟨made, (joined _ _ _ _ _ (valid "ñ") (valid "日") (Prod.ext made rfl)).1⟩
  · have made : ((spelled "ñ").format (.machine 40) ⟨.string, ⟨.heap, 1, 16⟩, Rows.ofArray #[spelled "日"]⟩
        (.ofLimits [])).1 = .ok (.owned ⟨.heap, 5, 5⟩ (encode "ñ日")) := by
      decide +kernel
    exact ⟨made, (formatted _ _ _ _ _ (valid "ñ") (by decide +kernel) (Prod.ext made rfl)).1⟩
  · obtain ⟨result, same, _, prints⟩ := replacement "año" "ñ" "日" 2
    have made : (execute (.machine 40) .heap (.replace "año" "ñ" "日" 2) (.ofLimits [])).1 = .ok "a日o" := by
      decide +kernel
    cases encode_injective (same.unique (substituted _ _ _ _ _ _ _ _ (Prod.ext made rfl)).1)
    have stages : ∀ stage ∈ replacing "año" "ñ" "日" "a日o",
        Allocator.machine 40 0 stage.element stage.slots = none := by
      decide +kernel
    have granted : Granted (.machine 40) (some 14) (replacing "año" "ñ" "日" "a日o") :=
      ⟨fun stage member _ => stages stage member, by decide +kernel, by rintro _ ⟨⟩; decide +kernel⟩
    exact ⟨prints.answered _ none [] granted, prints.printed _ _ _ none _ .warnings rfl rfl rfl granted⟩
  · have made : (execute (.machine 40) .heap (.format "añ" ["日"]) (.ofLimits [])).1 = .ok "añ日" := by
      decide +kernel
    have prints := format "añ" ["日"]
    rw [← composed _ _ _ _ _ _ (Prod.ext made rfl)] at prints
    have stages : ∀ stage ∈ formatting "añ" ["日"], Allocator.machine 40 0 stage.element stage.slots = none := by
      decide +kernel
    have granted : Granted (.machine 40) (some 28) (formatting "añ" ["日"]) :=
      ⟨fun stage member _ => stages stage member, by decide +kernel, by rintro _ ⟨⟩; decide +kernel⟩
    exact ⟨prints.answered _ none [] granted, prints.printed _ _ _ none _ .warnings rfl rfl rfl granted⟩

end Program

end Quota
