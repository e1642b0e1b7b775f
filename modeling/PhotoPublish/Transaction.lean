import PhotoPublish.Failure

/-!
# Write access

The catalog is changed inside transactions, for which write access has to be granted in time. A
`WriteAccess` holds what has been requested so far and which requests the host refuses.
-/

set_option autoImplicit false

namespace PhotoPublish

/-- A request for write access: the name of the action and the seconds to wait for it. -/
structure Transaction where
  action : Text
  timeout : Nat
deriving DecidableEq, Repr

namespace Transaction

/-- The seconds that every action waits. -/
def usualTimeout : Nat := 5

/-- A request with the usual time to wait. -/
def named (action : String) : Transaction :=
  ⟨action.toList, usualTimeout⟩

/-- The words of a refusal. -/
def refusal (transaction : Transaction) : Text :=
  transaction.action ++ " timed out after ".toList ++ Numeral.ofNat transaction.timeout ++ ['s']

end Transaction

/-- Requests for write access: the kind of failure by which the host refuses one, by its number, and the
requests made so far. -/
structure WriteAccess where
  refusals : Nat → Option Family := fun _ => none
  requests : List Transaction := []

instance : Inhabited WriteAccess :=
  ⟨{}⟩

namespace WriteAccess

/-- The failure of the next request, if it is refused. -/
def refused? (access : WriteAccess) (transaction : Transaction) : Option Failure :=
  (access.refusals access.requests.length).map fun family => .host family transaction.refusal

/-- The state after a request. -/
def requested (access : WriteAccess) (transaction : Transaction) : WriteAccess :=
  { access with requests := access.requests ++ [transaction] }

end WriteAccess

end PhotoPublish
