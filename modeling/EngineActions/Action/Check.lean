import EngineActions.Action
import EngineActions.Failure

namespace EngineActions.Action

-- Each size is compared with the one stored before it, never with a sum: up to the first defect the
-- stored one is the true one.
def sizeDefect? (before : UInt32) (index : Nat) : List ValueType → List UInt32 → Option Defect
  | type :: types, size :: sizes =>
    if type = .void then some (.voidParameter index)
    else if size ≠ before + type.stackSize then
      some (.wrongSize index type size (before + type.stackSize))
    else sizeDefect? size (index + 1) types sizes
  | _, _ => none

def defect? (action : Action) (position : Nat) : Option Defect :=
  if action.ordinal ≠ position then some (.misplaced position)
  else if action.accepted < action.required then
    some (.minimumAboveMaximum action.required action.accepted)
  else if parameterLimit < action.accepted then some (.tooManyParameters action.accepted)
  else if action.sizes.length ≠ action.parameters.length then
    some (.sizeCount action.parameters.length action.sizes.length)
  else sizeDefect? 0 0 action.parameters action.sizes

def check (action : Action) (revision : Revision) (position : Nat) : Except Failure Unit :=
  match action.defect? position with
  | some defect => .error (.malformed revision action.ordinal defect)
  | none => .ok ()

-- What a row has to be, said without following the order of the check.
structure WellFormed (action : Action) (position : Nat) : Prop where
  placed : action.ordinal = position
  required_le : action.required ≤ action.accepted
  accepted_le : action.accepted ≤ parameterLimit
  no_void : .void ∉ action.parameters
  sizes_eq : action.sizes = cumulativeSizes action.parameters

theorem check_ok_iff (action : Action) (revision : Revision) (position : Nat) :
    action.check revision position = .ok () ↔ action.defect? position = none := by
  unfold check
  split <;> simp_all

theorem sizeDefect?_eq_none_iff (before : UInt32) (index : Nat) (types : List ValueType)
    (sizes : List UInt32) (lengths : sizes.length = types.length) :
    sizeDefect? before index types sizes = none ↔
      .void ∉ types ∧ sizes = runningSizes before types := by
  induction types generalizing before index sizes with
  | nil =>
    cases List.length_eq_zero_iff.mp lengths
    simp [sizeDefect?, runningSizes]
  | cons type types ih =>
    cases sizes with
    | nil => cases lengths
    | cons size sizes =>
      have tails : sizes.length = types.length := by simpa using lengths
      unfold sizeDefect?
      by_cases empty : type = .void
      · simp [empty]
      · by_cases right : size = before + type.stackSize
        · subst right
          simp [empty, Ne.symm empty, ih _ _ _ tails, runningSizes]
        · simp [empty, right, runningSizes]

theorem defect?_eq_none_iff (action : Action) (position : Nat) :
    action.defect? position = none ↔ action.WellFormed position := by
  constructor
  · intro sound
    unfold defect? at sound
    split at sound
    · cases sound
    · rename_i placed
      split at sound
      · cases sound
      · rename_i least
        split at sound
        · cases sound
        · rename_i most
          split at sound
          · cases sound
          · rename_i lengths
            obtain ⟨noVoid, sizes⟩ :=
              (sizeDefect?_eq_none_iff 0 0 _ _ (Decidable.not_not.mp lengths)).mp sound
            exact ⟨Decidable.not_not.mp placed, Nat.le_of_not_lt least, Nat.le_of_not_lt most,
              noVoid, sizes⟩
  · rintro ⟨placed, least, most, noVoid, sizes⟩
    have lengths : action.sizes.length = action.parameters.length := by
      rw [sizes, length_cumulativeSizes]
    have found := (sizeDefect?_eq_none_iff 0 0 _ _ lengths).mpr ⟨noVoid, sizes⟩
    simp [defect?, placed, Nat.not_lt.mpr least, Nat.not_lt.mpr most, lengths, found]

theorem check_exact (action : Action) (revision : Revision) (position : Nat) :
    action.check revision position = .ok () ↔ action.WellFormed position :=
  (check_ok_iff action revision position).trans (defect?_eq_none_iff action position)

end EngineActions.Action
