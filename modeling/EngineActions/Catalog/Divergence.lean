import EngineActions.Catalog

namespace EngineActions

inductive Divergence
  | onlyLeft (action : Action)
  | onlyRight (action : Action)
  | renamed (left right : Action)
  | signature (left right : Action)
deriving DecidableEq

namespace Divergence

def left? : Divergence → Option Action
  | onlyLeft action => some action
  | onlyRight _ => none
  | renamed left _ | signature left _ => some left

def right? : Divergence → Option Action
  | onlyLeft _ => none
  | onlyRight action => some action
  | renamed _ right | signature _ right => some right

def ordinal : Divergence → Nat
  | onlyLeft action | onlyRight action => action.ordinal
  | renamed left _ | signature left _ => left.ordinal

def exchange : Divergence → Divergence
  | onlyLeft action => onlyRight action
  | onlyRight action => onlyLeft action
  | renamed left right => renamed right left
  | signature left right => signature right left

-- A new name hides a change of signature: the ordinal then means another action.
def ofRows? (left right : Action) : Option Divergence :=
  if left.name ≠ right.name then some (renamed left right)
  else if left.sameSignature right then none
  else some (signature left right)

def ofRowLists : List Action → List Action → List Divergence
  | left :: lefts, right :: rights => (ofRows? left right).toList ++ ofRowLists lefts rights
  | lefts, [] => lefts.map onlyLeft
  | [], rights => rights.map onlyRight

def nameless? : Divergence → Option Divergence
  | renamed left right => if left.sameSignature right then none else some (signature left right)
  | other => some other

def restrict (detail : Detail) : Divergence → Divergence
  | onlyLeft action => onlyLeft (action.restrict detail)
  | onlyRight action => onlyRight (action.restrict detail)
  | renamed left right => renamed (left.restrict detail) (right.restrict detail)
  | signature left right => signature (left.restrict detail) (right.restrict detail)

def between? : Option Action → Option Action → Option Divergence
  | some left, some right => ofRows? left right
  | some left, none => some (onlyLeft left)
  | none, some right => some (onlyRight right)
  | none, none => none

end Divergence

-- Catalogs grow at the end only, so rows are paired by position.
def Catalog.divergences (left right : Catalog) : List Divergence :=
  Divergence.ofRowLists left.actions right.actions

def Catalog.divergenceAt? (left right : Catalog) (position : Nat) : Option Divergence :=
  Divergence.between? (left.get? position) (right.get? position)

end EngineActions
