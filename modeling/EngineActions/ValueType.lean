namespace EngineActions

-- A vector is one value on this level, although the stack holds it as three floats.
inductive ValueType
  | void
  | int
  | float
  | string
  | object
  | vector
  | action
  | effect
  | event
  | location
  | talent
  | itemProperty
deriving DecidableEq

def cellSize : UInt32 := 4

namespace ValueType

def all : List ValueType :=
  [void, int, float, string, object, vector, action, effect, event, location, talent, itemProperty]

def code : ValueType → Nat
  | void => 0
  | int => 1
  | float => 2
  | string => 3
  | object => 4
  | vector => 5
  | action => 6
  | effect => 7
  | event => 8
  | location => 9
  | talent => 10
  | itemProperty => 11

def keyword : ValueType → String
  | void => "void"
  | int => "int"
  | float => "float"
  | string => "string"
  | object => "object"
  | vector => "vector"
  | action => "action"
  | effect => "effect"
  | event => "event"
  | location => "location"
  | talent => "talent"
  | itemProperty => "itemproperty"

-- An action argument is passed outside the stack. Void is listed as itself, although no value has
-- it.
def cells : ValueType → List ValueType
  | vector => [float, float, float]
  | action => []
  | other => [other]

def stackSize : ValueType → UInt32
  | void | action => 0
  | vector => 3 * cellSize
  | _ => cellSize

def stackCells (type : ValueType) : UInt32 := type.stackSize / cellSize

def engineStructure? : ValueType → Option Nat
  | effect => some 0
  | event => some 1
  | location => some 2
  | talent => some 3
  | itemProperty => some 4
  | _ => none

def ofCode? (code : Nat) : Option ValueType := all[code]?

def ofKeyword? (text : String) : Option ValueType := all.find? fun type => type.keyword == text

theorem mem_all (type : ValueType) : type ∈ all := by cases type <;> decide

theorem ofCode?_code (type : ValueType) : ofCode? type.code = some type := by cases type <;> rfl

theorem keyword_injective {left right : ValueType} (same : left.keyword = right.keyword) :
    left = right := by
  revert same
  cases left <;> cases right <;> simp [keyword]

theorem ofKeyword?_keyword (type : ValueType) : ofKeyword? type.keyword = some type := by
  cases type <;> simp [ofKeyword?, all, keyword]

end ValueType

-- Sizes are 32-bit words, and the sum wraps as words do.
def runningSizes (counted : UInt32) : List ValueType → List UInt32
  | [] => []
  | type :: rest => (counted + type.stackSize) :: runningSizes (counted + type.stackSize) rest

def cumulativeSizes (types : List ValueType) : List UInt32 := runningSizes 0 types

theorem length_runningSizes (counted : UInt32) (types : List ValueType) :
    (runningSizes counted types).length = types.length := by
  induction types generalizing counted with
  | nil => rfl
  | cons type rest ih => simp [runningSizes, ih]

theorem length_cumulativeSizes (types : List ValueType) :
    (cumulativeSizes types).length = types.length := length_runningSizes 0 types

end EngineActions
