import EngineActions.Action
import EngineActions.Failure

namespace EngineActions.Action

-- Trailing parameters may be left to their defaults. Where a malformed row accepts no count at all,
-- too few is said first.
def checkArguments (action : Action) (supplied : Nat) : Except Failure Unit :=
  if supplied < action.required then
    .error (.tooFewArguments action.ordinal supplied action.required)
  else if action.accepted < supplied then
    .error (.tooManyArguments action.ordinal supplied action.accepted)
  else .ok ()

-- Defaulted parameters are never pushed, so the size stored for the last argument supplied counts
-- everything.
def argumentsSize (action : Action) (supplied : Nat) : Except Failure UInt32 := do
  action.checkArguments supplied
  match supplied with
  | 0 => return 0
  | last + 1 => orFailure (.sizeMissing action.ordinal supplied) action.sizes[last]?

-- In bytes from the top of the stack. The size is read as a signed word of the same bits.
def argumentOffset? (action : Action) (index : Nat) : Option Int32 :=
  action.sizes[index]?.map fun size => -size.toInt32

def stackDelta (action : Action) (supplied : Nat) : Except Failure Int32 := do
  let popped ← action.argumentsSize supplied
  return action.returnSize.toInt32 - popped.toInt32

theorem checkArguments_ok_iff (action : Action) (supplied : Nat) :
    action.checkArguments supplied = .ok () ↔
      action.required ≤ supplied ∧ supplied ≤ action.accepted := by
  unfold checkArguments
  split
  · simp; omega
  · split
    · simp; omega
    · simp; omega

end EngineActions.Action
