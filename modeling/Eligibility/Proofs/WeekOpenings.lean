import Mathlib.Data.Set.Basic
import Mathlib.Order.Bounds.Defs
import Eligibility.Proofs.DayLookup

/-!
The openings of the week ahead against the one that the search announces. An opening is told by the entry
of its day and the starts of its periods, whether they run overnight or the whole day; the search finds one
on the first day that has any, and the first of them where the starts are listed in order.
-/

set_option autoImplicit false

namespace Eligibility

namespace Instant

end Instant

section Days

variable {days : List DayEntry} {now t u : Instant} {k : Nat}

end Days

end Eligibility
