namespace EngineActions

inductive Revision
  | nwn1
  | nwn2
deriving DecidableEq

namespace Revision

def all : List Revision := [nwn1, nwn2]

def keyword : Revision → String
  | nwn1 => "nwn1"
  | nwn2 => "nwn2"

def label : Revision → String
  | nwn1 => "Nwn1"
  | nwn2 => "Nwn2"

def actionCount : Revision → Nat
  | nwn1 => 848
  | nwn2 => 1058

-- Only the letters A to Z have two cases here.
def foldCase (text : String) : List Char := text.toList.map Char.toLower

def ofText? (text : String) : Option Revision :=
  all.find? fun revision => revision.keyword.toList == foldCase text

theorem mem_all (revision : Revision) : revision ∈ all := by cases revision <;> decide

theorem keyword_injective {left right : Revision} (same : left.keyword = right.keyword) :
    left = right := by
  revert same
  cases left <;> cases right <;> simp [keyword]

theorem ofText?_keyword (revision : Revision) : ofText? revision.keyword = some revision := by
  cases revision <;> decide

end Revision
end EngineActions
