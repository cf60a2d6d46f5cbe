import Quota.Text.Alphabetic
import Quota.Text.Numeric

set_option autoImplicit false

/-!
# Letters and numbers
-/
namespace Quota.Alphanumeric

def contains (c : Char) : Bool := Alphabetic.contains c || Numeric.contains c

end Quota.Alphanumeric
