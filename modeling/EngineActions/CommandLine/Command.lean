import EngineActions.Catalog
import EngineActions.CommandLine.Grammar
import EngineActions.Text.Numeral

namespace EngineActions

-- Whatever can be read as an ordinal is one; no action of a known catalog has such a name.
inductive Reference
  | ordinal (value : Int)
  | name (text : String)
deriving DecidableEq

def Reference.ofText (text : String) : Reference :=
  match Numeral.ordinal? text with
  | some value => .ordinal value
  | none => .name text

def Catalog.find (catalog : Catalog) : Reference → Except Failure Action
  | .ordinal value => catalog.actionAt value
  | .name text => catalog.actionNamed text

inductive Command
  | list (revision : Revision) (json : Bool)
  | describe (action : String) (revision : Revision) (json : Bool)
  | layout (action : String) (supplied : Nat) (revision : Revision)
  | check
  | compare (json : Bool)
deriving DecidableEq

def Command.ofGiven? (given : Given) : Option Command :=
  match given.verb with
  | .list => do
    return list (← given.revision?.bind Revision.ofText?) given.json
  | .describe => do
    return describe (← given.operand?) (← given.revision?.bind Revision.ofText?) given.json
  | .layout => do
    return layout (← given.operand?) (← given.supply?.bind Numeral.supply?)
      (← given.revision?.bind Revision.ofText?)
  | .check => some check
  | .compare => some (compare given.json)

namespace Command
variable {given : Given} {text : String} {revision : Revision} {supplied : Nat}

theorem ofGiven?_list (asked : given.verb = .list)
    (target : given.revision?.bind Revision.ofText? = some revision) :
    ofGiven? given = some (list revision given.json) := by
  rw [ofGiven?, asked]
  dsimp only
  rw [target]
  rfl

theorem ofGiven?_describe (asked : given.verb = .describe) (action : given.operand? = some text)
    (target : given.revision?.bind Revision.ofText? = some revision) :
    ofGiven? given = some (describe text revision given.json) := by
  rw [ofGiven?, asked]
  dsimp only
  rw [action, target]
  rfl

theorem ofGiven?_layout (asked : given.verb = .layout) (action : given.operand? = some text)
    (count : given.supply?.bind Numeral.supply? = some supplied)
    (target : given.revision?.bind Revision.ofText? = some revision) :
    ofGiven? given = some (layout text supplied revision) := by
  rw [ofGiven?, asked]
  dsimp only
  rw [action, count, target]
  rfl

end Command

def Reader.command? (read : Reader) (arguments : List String) : Option Command :=
  (read arguments).bind Command.ofGiven?

end EngineActions
