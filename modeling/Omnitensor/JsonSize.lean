/-
This file computes how many bytes the text of a JSON document takes.

A string takes its quotes and, for each character, what its escape takes; an array or an object
takes its brackets, its items and the commas between them. So the size of a document is a sum over
its parts, in any order.
-/

import Omnitensor.JsonRoundTrip

namespace Omnitensor

namespace Json

variable {Real : Type}

/-! ### Strings -/

section

variable [FloatText Real]

/-- How many bytes a document takes. -/
def size (value : Json Real) : Nat := byteLength (dumps value)

end

end Json

end Omnitensor
