import VielHome.Finance.Invariant.Reachable

/-!
# One payment for each key

A payer's idempotency key stands for one payment of a building, on whichever path it was
reported. A later call with the key compares itself with that payment: it replays it or fails,
and changes nothing either way. The automatic path compares everything but the selection mode,
so it also replays an explicit payment whose columns it matches.
-/

namespace VielHome.Finance

open Relational

namespace Store

variable {s : Store}

end Store

/-- An item of 100 was reported on the explicit path. -/
def System.reportedExplicitly : List Event :=
  charged ++
    [.request (.createExplicitPayment tenancy 0 0 (itemPayment "key") 5) 3, .commit 0 3]

end VielHome.Finance
