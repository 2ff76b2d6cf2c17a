import EngineActions.CommandLine.Response

namespace EngineActions

def Revision.word : Revision → String
  | nwn1 => "nwn1"
  | nwn2 => "nwn2"

theorem Revision.word_eq (revision : Revision) : revision.word = revision.keyword := by
  cases revision <;> rfl

-- What is said of a row in which something is wrong, each number in its place.
inductive Defect.Described : Defect → String → Prop where
  | misplaced (position : Nat) : Described (.misplaced position) s!"stored at position {position}"
  | minimumAboveMaximum (minimum maximum : Nat) :
      Described (.minimumAboveMaximum minimum maximum)
        s!"min parameters {minimum} exceeds max {maximum}"
  | tooManyParameters (count : Nat) :
      Described (.tooManyParameters count) s!"{count} parameters, limit is 13"
  | sizeCount (parameters sizes : Nat) :
      Described (.sizeCount parameters sizes) s!"{parameters} parameter types but {sizes} sizes"
  | voidParameter (index : Nat) : Described (.voidParameter index) s!"parameter {index} is void"
  | wrongSize (index : Nat) (type : ValueType) (stored expected : UInt32) :
      Described (.wrongSize index type stored expected)
        s!"parameter {index} ({type.keyword}) ends at {stored.toNat}, expected {expected.toNat}"
  | nameTaken (name : String) (holder : Nat) :
      Described (.nameTaken name holder) s!"name '{name}' already used by ordinal {holder}"

theorem Defect.described_reason (defect : Defect) : defect.Described defect.reason := by
  cases defect with
  | misplaced position => exact .misplaced position
  | minimumAboveMaximum minimum maximum => exact .minimumAboveMaximum minimum maximum
  | tooManyParameters count =>
    have limit : " parameters, limit is " ++ toString parameterLimit =
        " parameters, limit is 13" := by decide +kernel
    have said : (tooManyParameters count).reason =
        toString count ++ (" parameters, limit is " ++ toString parameterLimit) :=
      String.append_assoc
    rw [said, limit]
    exact .tooManyParameters count
  | sizeCount parameters sizes => exact .sizeCount parameters sizes
  | voidParameter index => exact .voidParameter index
  | wrongSize index type stored expected => exact .wrongSize index type stored expected
  | nameTaken name holder => exact .nameTaken name holder

namespace Failure
variable {revision : Revision}

theorem message_outOfRange (ordinal : Int) (count : Nat) :
    (outOfRange revision ordinal count).message =
      s!"{revision.word} action ordinal {ordinal} out of range (count {count})" := by
  rw [revision.word_eq]
  rfl

theorem message_unknownName (name : String) :
    (unknownName revision name).message = s!"{revision.word} has no action named '{name}'" := by
  rw [revision.word_eq]
  rfl

theorem message_malformed (ordinal : Nat) (defect : Defect) :
    (malformed revision ordinal defect).message =
      s!"{revision.word} action {ordinal} is malformed: {defect.reason}" := by
  rw [revision.word_eq]
  rfl

-- What is said of a failure, whatever it names. A missing size has no text of its own.
inductive Described : Failure → String → Prop where
  | outOfRange (revision : Revision) (ordinal : Int) (count : Nat) :
      Described (.outOfRange revision ordinal count)
        s!"{revision.word} action ordinal {ordinal} out of range (count {count})"
  | unknownName (revision : Revision) (name : String) :
      Described (.unknownName revision name) s!"{revision.word} has no action named '{name}'"
  | unknownTypeCode (code : Nat) :
      Described (.unknownTypeCode code) s!"Invalid action type code: {code}"
  | unknownTypeKeyword (text : String) :
      Described (.unknownTypeKeyword text) s!"Unknown type keyword '{text}'"
  | unknownRevision (text : String) :
      Described (.unknownRevision text) s!"Unknown revision '{text}', expected 'nwn1' or 'nwn2'"
  | tooFewArguments (ordinal supplied least : Nat) :
      Described (.tooFewArguments ordinal supplied least)
        s!"Too few arguments for action {ordinal}: {supplied} supplied, at least {least} required"
  | tooManyArguments (ordinal supplied most : Nat) :
      Described (.tooManyArguments ordinal supplied most)
        s!"Too many arguments for action {ordinal}: {supplied} supplied, at most {most} accepted"
  | malformed (revision : Revision) (ordinal : Nat) (defect : Defect) (reason : String) :
      defect.Described reason → Described (.malformed revision ordinal defect)
        s!"{revision.word} action {ordinal} is malformed: {reason}"

theorem described_message {failure : Failure}
    (told : ∀ ordinal supplied, failure ≠ .sizeMissing ordinal supplied) :
    failure.Described failure.message := by
  cases failure with
  | outOfRange revision ordinal count =>
    rw [message_outOfRange]
    exact .outOfRange revision ordinal count
  | unknownName revision name =>
    rw [message_unknownName]
    exact .unknownName revision name
  | unknownTypeCode code => exact .unknownTypeCode code
  | unknownTypeKeyword text => exact .unknownTypeKeyword text
  | unknownRevision text => exact .unknownRevision text
  | tooFewArguments ordinal supplied least => exact .tooFewArguments ordinal supplied least
  | tooManyArguments ordinal supplied most => exact .tooManyArguments ordinal supplied most
  | malformed revision ordinal defect =>
    rw [message_malformed]
    exact .malformed revision ordinal defect _ defect.described_reason
  | sizeMissing ordinal supplied => exact absurd rfl (told ordinal supplied)

end Failure

theorem Action.text_cannotCall {action : Action} (named : action.name ≠ "") (failure : Failure) :
    Complaint.text ⟨some ("Cannot call " ++ action.label), failure⟩ =
      s!"Error: Cannot call #{action.ordinal} {action.name}" ++ "\n\nCaused by:\n    " ++
        failure.message ++ "\n" := by
  have words : "Error: Cannot call #" = "Error: " ++ "Cannot call " ++ "#" := by decide
  change _ = "Error: Cannot call #" ++ toString action.ordinal ++ " " ++ action.name ++ _ ++ _ ++ _
  rw [Complaint.text, label, if_neg named, words]
  simp only [String.append_assoc]

end EngineActions
