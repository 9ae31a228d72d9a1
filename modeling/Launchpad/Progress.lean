/-!
# Work that goes on by steps

A call that has to wait is a value that holds all it needs to go on. One step does what can be done
without waiting and leaves either the call as it is then, or its result.
-/

namespace Launchpad

/-- What a step leaves of a call `κ` with results `α`. -/
inductive Progress (κ α : Type) where
  /-- The call goes on later. -/
  | again (call : κ)
  | done (result : α)

namespace Progress

variable {κ κ' α α' : Type}

def mapCall (f : κ → κ') : Progress κ α → Progress κ' α
  | .again call => .again (f call)
  | .done result => .done result

def mapResult (f : α → α') : Progress κ α → Progress κ α'
  | .again call => .again call
  | .done result => .done (f result)

def result? : Progress κ α → Option α
  | .again _ => none
  | .done result => some result

end Progress

end Launchpad
