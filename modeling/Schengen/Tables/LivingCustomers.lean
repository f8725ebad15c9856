import Schengen.Library.CheckedArithmetic
import Schengen.Tables.Customer
import Schengen.Tables.Orders

/-!
# Living customers

The customer keys of orders are moved off the multiples of three. The loop steps up by one, is cut
at the largest key, and steps down by one: it ends next to the key that was drawn, inside the
customer table.
-/

namespace Schengen.Tables
open Library Schengen.Random

namespace OrderStreams

variable {maxCustomerKey customerKey : Int}

end OrderStreams

end Schengen.Tables
