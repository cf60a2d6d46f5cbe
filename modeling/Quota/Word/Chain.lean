import Quota.Word.Basic

set_option autoImplicit false

/-!
# Chains of checked steps

An accumulator passes through a list of steps. A step that fails leaves it as it was, and the chain goes on.
-/
namespace Quota

/-- One step on an accumulator. -/
inductive ChainStep where
  | add (w : Word)
  | sub (w : Word)
  | mul (w : Word)
  | neg
  | narrow
deriving DecidableEq

namespace ChainStep

/-- What the step makes of the accumulator. Narrowing takes it to a byte and back. -/
def apply (acc : Word) : ChainStep → Except ArithmeticFault Word
  | .add w => acc.add w
  | .sub w => acc.sub w
  | .mul w => acc.mul w
  | .neg => acc.neg
  | .narrow => acc.toByte.map Word.ofByte

/-- The accumulator after the step. -/
def advance (acc : Word) (s : ChainStep) : Word :=
  match s.apply acc with
  | .ok w => w
  | .error _ => acc

end ChainStep

/-- The answer of every step, and the accumulator at the end. -/
def runChain : Word → List ChainStep → List (Except ArithmeticFault Word) × Word
  | acc, [] => ([], acc)
  | acc, s :: rest =>
    let (answers, last) := runChain (s.advance acc) rest
    (s.apply acc :: answers, last)

end Quota
