import EngineActions.Text.Bytes
import EngineActions.ValueType

namespace EngineActions

def placeholderName : String := "BadBadReplaceMeThisDoesNothing"

-- A row as it is written down. Nothing forces its sizes to follow from the parameter types.
structure Declaration where
  ordinal : Nat
  name : String
  prototype : String
  required : Nat
  returns : ValueType
  parameters : List ValueType
  sizes : List UInt32
deriving DecidableEq

def declare (ordinal : Nat) (name : String) (required : Nat) (returns : ValueType)
    (parameters : List ValueType) (prototype : String) : Declaration where
  ordinal
  name
  prototype
  required
  returns
  parameters
  sizes := cumulativeSizes parameters

def Declaration.retired (ordinal : Nat) (prototype : String) : Declaration :=
  declare ordinal placeholderName 0 .void [] prototype

structure Detail where
  names : Bool
  prototypes : Bool
deriving DecidableEq

def Detail.full : Detail := ⟨true, true⟩

-- `sizes[i]` counts the stack bytes of the parameters up to and including i: arguments are pushed
-- last first, so parameter 0 lies on top.
structure Action where
  ordinal : Nat
  name : String
  prototype : String
  required : Nat
  returns : ValueType
  parameters : List ValueType
  sizes : List UInt32
  placeholder : Bool
deriving DecidableEq

namespace Action

-- A placeholder is recognised by its written name, also where names are left out.
def ofDeclaration (detail : Detail) (row : Declaration) : Action where
  ordinal := row.ordinal
  name := if detail.names then row.name else ""
  prototype := if detail.prototypes then row.prototype else ""
  required := row.required
  returns := row.returns
  parameters := row.parameters
  sizes := row.sizes
  placeholder := row.parameters.isEmpty && sameText row.name placeholderName

def restrict (detail : Detail) (action : Action) : Action :=
  { action with
    name := if detail.names then action.name else ""
    prototype := if detail.prototypes then action.prototype else "" }

def accepted (action : Action) : Nat := action.parameters.length

def returnSize (action : Action) : UInt32 := action.returns.stackSize

def cells (action : Action) : List ValueType := action.parameters.flatMap ValueType.cells

def sameSignature (left right : Action) : Bool :=
  left.required == right.required && left.returns == right.returns &&
    left.parameters == right.parameters

theorem ofDeclaration_restrict (detail : Detail) (row : Declaration) :
    (ofDeclaration .full row).restrict detail = ofDeclaration detail row := by
  simp [ofDeclaration, restrict, Detail.full]

theorem sameSignature_iff {left right : Action} : left.sameSignature right = true ↔
    left.required = right.required ∧ left.returns = right.returns ∧
      left.parameters = right.parameters := by
  simp [sameSignature, and_assoc]

end Action
end EngineActions
