import EngineActions.ValueType
import EngineActions.Revision

namespace EngineActions

def parameterLimit : Nat := 13

-- A row is judged alone, by the place it is stored at, except for its name, which an earlier row
-- may hold.
inductive Defect
  | misplaced (position : Nat)
  | minimumAboveMaximum (minimum maximum : Nat)
  | tooManyParameters (count : Nat)
  | sizeCount (parameters sizes : Nat)
  | voidParameter (index : Nat)
  | wrongSize (index : Nat) (type : ValueType) (stored expected : UInt32)
  | nameTaken (name : String) (holder : Nat)
deriving DecidableEq

def Defect.reason : Defect → String
  | misplaced position => "stored at position " ++ toString position
  | minimumAboveMaximum minimum maximum =>
    "min parameters " ++ toString minimum ++ " exceeds max " ++ toString maximum
  | tooManyParameters count =>
    toString count ++ " parameters, limit is " ++ toString parameterLimit
  | sizeCount parameters sizes =>
    toString parameters ++ " parameter types but " ++ toString sizes ++ " sizes"
  | voidParameter index => "parameter " ++ toString index ++ " is void"
  | wrongSize index type stored expected =>
    "parameter " ++ toString index ++ " (" ++ type.keyword ++ ") ends at " ++
      toString stored.toNat ++ ", expected " ++ toString expected.toNat
  | nameTaken name holder =>
    "name '" ++ name ++ "' already used by ordinal " ++ toString holder

inductive Failure
  | outOfRange (revision : Revision) (ordinal : Int) (count : Nat)
  | unknownName (revision : Revision) (name : String)
  | unknownTypeCode (code : Nat)
  | unknownTypeKeyword (text : String)
  | unknownRevision (text : String)
  | tooFewArguments (ordinal supplied least : Nat)
  | tooManyArguments (ordinal supplied most : Nat)
  | malformed (revision : Revision) (ordinal : Nat) (defect : Defect)
  -- Met where a row's sizes end before the last argument: the run is broken off and says nothing of
  -- its own.
  | sizeMissing (ordinal supplied : Nat)
deriving DecidableEq

def Failure.message : Failure → String
  | outOfRange revision ordinal count =>
    revision.keyword ++ " action ordinal " ++ toString ordinal ++ " out of range (count " ++
      toString count ++ ")"
  | unknownName revision name => revision.keyword ++ " has no action named '" ++ name ++ "'"
  | unknownTypeCode code => "Invalid action type code: " ++ toString code
  | unknownTypeKeyword text => "Unknown type keyword '" ++ text ++ "'"
  | unknownRevision text => "Unknown revision '" ++ text ++ "', expected 'nwn1' or 'nwn2'"
  | tooFewArguments ordinal supplied least =>
    "Too few arguments for action " ++ toString ordinal ++ ": " ++ toString supplied ++
      " supplied, at least " ++ toString least ++ " required"
  | tooManyArguments ordinal supplied most =>
    "Too many arguments for action " ++ toString ordinal ++ ": " ++ toString supplied ++
      " supplied, at most " ++ toString most ++ " accepted"
  | malformed revision ordinal defect =>
    revision.keyword ++ " action " ++ toString ordinal ++ " is malformed: " ++ defect.reason
  | sizeMissing .. => ""

def orFailure {α : Type} (failure : Failure) : Option α → Except Failure α
  | some value => .ok value
  | none => .error failure

theorem orFailure_ok_iff {α : Type} {failure : Failure} {found : Option α} {value : α} :
    orFailure failure found = .ok value ↔ found = some value := by
  cases found <;> simp [orFailure]

theorem orFailure_error_iff {α : Type} {failure other : Failure} {found : Option α} :
    orFailure failure found = .error other ↔ other = failure ∧ found = none := by
  cases found <;> simp [orFailure, eq_comm]

def ValueType.ofCode (code : Nat) : Except Failure ValueType :=
  orFailure (.unknownTypeCode code) (ValueType.ofCode? code)

def ValueType.ofKeyword (text : String) : Except Failure ValueType :=
  orFailure (.unknownTypeKeyword text) (ValueType.ofKeyword? text)

def Revision.ofText (text : String) : Except Failure Revision :=
  orFailure (.unknownRevision text) (Revision.ofText? text)

end EngineActions
