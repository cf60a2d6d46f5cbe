import Quota.Text.Quoted

set_option autoImplicit false

/-!
# Commands

The operations that the program offers on its command line.
-/
namespace Quota

inductive Command where
  | scenarios
  | format (lead : String) (args : List String)
  | replace (text needle insert : String) (count : Int)
  | substr (text : String) (start stop : Int)
  | push (count : Int)
deriving DecidableEq, Repr

def Command.debug : Command → String
  | .scenarios => Quoted.record "Scenarios" []
  | .format lead args =>
    Quoted.record "Format" [("prefix", Quoted.text lead), ("args", Quoted.list (args.map Quoted.text))]
  | .replace text needle insert count =>
    Quoted.record "Replace"
      [("text", Quoted.text text), ("from", Quoted.text needle), ("to", Quoted.text insert),
        ("count", toString count)]
  | .substr text start stop =>
    Quoted.record "Substr" [("text", Quoted.text text), ("start", toString start), ("end", toString stop)]
  | .push count => Quoted.record "Push" [("count", toString count)]

end Quota
