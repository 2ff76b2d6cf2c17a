import EngineActions.Action
import EngineActions.Failure

namespace EngineActions

-- Of several rows with one name the last is meant; the answer is the ordinal that row states.
abbrev NameIndex := String → Option Nat

namespace NameIndex

def empty : NameIndex := fun _ => none

def enter (index : NameIndex) (action : Action) : NameIndex := fun name =>
  if action.name ≠ "" ∧ name = action.name then some action.ordinal else index name

def ofActions (actions : List Action) : NameIndex := actions.foldl enter empty

variable {index : NameIndex} {action : Action} {name : String}

theorem enter_named (given : action.name ≠ "") :
    index.enter action action.name = some action.ordinal := by
  simp [enter, given]

theorem enter_other (other : action.name ≠ name) : index.enter action name = index name := by
  simp [enter, Ne.symm other]

theorem enter_empty : index.enter action "" = index "" := by
  unfold enter
  split
  · rename_i entered
    exact absurd entered.2.symm entered.1
  · rfl

theorem enter_eq_none_iff : index.enter action name = none ↔
    (action.name = name → name = "") ∧ index name = none := by
  by_cases named : action.name = name
  · subst named
    by_cases given : action.name = ""
    · rw [given, enter_empty]
      simp
    · simp [enter_named given, given]
  · simp [enter_other named, named]

end NameIndex

-- A compiled script names an action only by its position here; that every row also states its own
-- ordinal is data to be checked.
structure Catalog where
  revision : Revision
  actions : List Action
deriving DecidableEq

-- An ordinal too wide for a signed word is reported as the largest one, on either side.
def reportedOrdinal (ordinal : Int) : Int :=
  if Int64.minValue.toInt ≤ ordinal ∧ ordinal ≤ Int64.maxValue.toInt then ordinal
  else Int64.maxValue.toInt

namespace Catalog

def ofDeclarations (detail : Detail) (revision : Revision) (rows : List Declaration) : Catalog :=
  ⟨revision, rows.map (Action.ofDeclaration detail)⟩

def count (catalog : Catalog) : Nat := catalog.actions.length

def get? (catalog : Catalog) (position : Nat) : Option Action := catalog.actions[position]?

def actionAt (catalog : Catalog) (ordinal : Int) : Except Failure Action :=
  orFailure (.outOfRange catalog.revision (reportedOrdinal ordinal) catalog.count)
    (if 0 ≤ ordinal then catalog.get? ordinal.toNat else none)

def ordinalOf? (catalog : Catalog) (name : String) : Option Nat :=
  if name = "" then none else NameIndex.ofActions catalog.actions name

def actionNamed (catalog : Catalog) (name : String) : Except Failure Action :=
  orFailure (.unknownName catalog.revision name) ((catalog.ordinalOf? name).bind catalog.get?)

def inspect (catalog : Catalog) : String :=
  "Registry \x7b revision: " ++ catalog.revision.label ++ ", count: " ++
    toString catalog.count ++ ", .. \x7d"

theorem count_ofDeclarations (detail : Detail) (revision : Revision) (rows : List Declaration) :
    (ofDeclarations detail revision rows).count = rows.length := by
  simp [ofDeclarations, count]

theorem get?_ofDeclarations (detail : Detail) (revision : Revision) (rows : List Declaration)
    (position : Nat) : (ofDeclarations detail revision rows).get? position =
      rows[position]?.map (Action.ofDeclaration detail) := by
  simp [ofDeclarations, get?]

def extend (catalog : Catalog) (added : List Action) : Catalog :=
  { catalog with actions := catalog.actions ++ added }

def retire (detail : Detail) (catalog : Catalog) (position : Nat) (prototype : String) : Catalog :=
  { catalog with
    actions := catalog.actions.set position
      (Action.ofDeclaration detail (.retired position prototype)) }

theorem count_retire (detail : Detail) (catalog : Catalog) (position : Nat) (prototype : String) :
    (catalog.retire detail position prototype).count = catalog.count := by
  simp [retire, count]

end Catalog
end EngineActions
