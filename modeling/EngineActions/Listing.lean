import EngineActions.Action.Call
import EngineActions.Catalog.Divergence
import EngineActions.Json
import EngineActions.Text.Field
import EngineActions.Text.Numeral

namespace EngineActions

namespace Action

def parameterText (action : Action) (index : Nat) (type : ValueType) : String :=
  if index < action.required then type.keyword else "[" ++ type.keyword ++ "]"

def parameterTexts (action : Action) : List String :=
  action.parameters.mapIdx action.parameterText

def summary (action : Action) : String :=
  (Field.rightAligned 5).pad (toString action.ordinal) ++ "  " ++ action.returns.keyword ++ " " ++
    action.name ++ "(" ++ ", ".intercalate action.parameterTexts ++ ")"

def label (action : Action) : String :=
  if action.name = "" then "#" ++ toString action.ordinal
  else "#" ++ toString action.ordinal ++ " " ++ action.name

def indexText (index : Nat) : String := (Field.rightAligned 2).pad (toString index)

def typeText (type : ValueType) : String := (Field.leftAligned 12).pad type.keyword

def prototypeLines (action : Action) : List String :=
  if action.prototype = "" then [] else ["       " ++ action.prototype]

def arityLine (action : Action) : String :=
  "       parameters " ++ toString action.required ++ "..=" ++ toString action.accepted ++
    ", returns " ++ toString action.returnSize.toNat ++ " bytes"

def sizeLine (index : Nat) (parameter : ValueType × UInt32) : String :=
  "       " ++ indexText index ++ "  " ++ typeText parameter.1 ++ " cumulative " ++
    toString parameter.2.toNat

-- A parameter without a stored size is left out, as is a size without a parameter.
def description (action : Action) : List String :=
  action.summary :: action.prototypeLines ++ action.arityLine ::
    (action.parameters.zip action.sizes).mapIdx sizeLine

def argumentLine (action : Action) (index : Nat) (type : ValueType) : String :=
  "  arg " ++ indexText index ++ "  " ++ typeText type ++ " sp" ++
    Numeral.signed ((action.argumentOffset? index).getD 0).toInt

def argumentLines (action : Action) (supplied : Nat) : List String :=
  (action.parameters.take supplied).mapIdx action.argumentLine

def unwindLine (popped : UInt32) : String :=
  "  unwind      " ++ toString popped.toNat ++ " bytes"

def deltaLine (delta : Int32) : String :=
  "  stack delta " ++ Numeral.signed delta.toInt ++ " bytes"

end Action

def Divergence.description : Divergence → List String
  | onlyLeft action => ["nwn1 only  " ++ action.summary]
  | onlyRight action => ["nwn2 only  " ++ action.summary]
  | renamed left right | signature left right =>
    ["nwn1       " ++ left.summary, "nwn2       " ++ right.summary]

def Divergence.text (divergence : Divergence) : String :=
  "\n".intercalate divergence.description

-- Fields stand in alphabetical order, the order readers of the data rely on.
def Action.record (action : Action) : Json :=
  .object [
    ("max_parameters", .number action.accepted),
    ("min_parameters", .number action.required),
    ("name", .text action.name),
    ("ordinal", .number action.ordinal),
    ("parameter_cumulative_sizes", .array (action.sizes.map fun size => .number size.toNat)),
    ("parameter_types", .array (action.parameters.map fun type => .text type.keyword)),
    ("prototype", .text action.prototype),
    ("return_type", .text action.returns.keyword)]

def Divergence.record : Divergence → Json
  | onlyLeft action => .object [("kind", .text "nwn1_only"), ("nwn1", action.record)]
  | onlyRight action => .object [("kind", .text "nwn2_only"), ("nwn2", action.record)]
  | renamed left right =>
    .object [("kind", .text "renamed"), ("nwn1", left.record), ("nwn2", right.record)]
  | signature left right =>
    .object [("kind", .text "signature"), ("nwn1", left.record), ("nwn2", right.record)]

end EngineActions
