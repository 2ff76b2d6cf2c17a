import EngineActions.Action.Call
import EngineActions.Proofs.FirstDefect
import Mathlib.Algebra.Ring.Nat

namespace EngineActions

def signedReading (word : UInt32) : Int :=
  if word.toNat < 2 ^ 31 then word.toNat else word.toNat - (UInt32.size : Int)

def FitsSigned (value : Int) : Prop :=
  Int32.minValue.toInt ≤ value ∧ value ≤ Int32.maxValue.toInt

instance (value : Int) : Decidable (FitsSigned value) := inferInstanceAs (Decidable (_ ∧ _))

def wordWithin? (value : Int) : Option Int32 :=
  if FitsSigned value then some (.ofInt value) else none

theorem fitsSigned_iff {value : Int} :
    FitsSigned value ↔ -2147483648 ≤ value ∧ value ≤ 2147483647 := Iff.rfl

theorem signedReading_of_lt {word : UInt32} (small : word.toNat < 2 ^ 31) :
    signedReading word = word.toNat := if_pos small

theorem toInt_signed (word : UInt32) : word.toInt32.toInt = signedReading word := by
  have bits : word.toInt32.toInt = word.toBitVec.toInt := rfl
  rw [bits, BitVec.toInt_eq_toNat_cond, UInt32.toNat_toBitVec, signedReading, UInt32.size]
  split <;> split <;> omega

theorem toInt_toInt32 {word : UInt32} (small : word.toNat < 2 ^ 31) :
    word.toInt32.toInt = word.toNat := by
  rw [toInt_signed, signedReading_of_lt small]

theorem fitsSigned_neg_reading_iff (word : UInt32) :
    FitsSigned (-signedReading word) ↔ word.toNat ≠ 2 ^ 31 := by
  have bound := word.toNat_lt
  rw [fitsSigned_iff]
  unfold signedReading UInt32.size
  split
  · omega
  · omega

theorem fitsSigned_sub_reading_iff {minuend : Nat} (small : minuend < 2 ^ 31) (word : UInt32) :
    FitsSigned (minuend - signedReading word) ↔
      ¬(2 ^ 31 ≤ word.toNat ∧ word.toNat ≤ 2 ^ 31 + minuend) := by
  have bound := word.toNat_lt
  rw [fitsSigned_iff]
  unfold signedReading UInt32.size
  split
  · omega
  · omega

section
variable {value : Int} {word left right : Int32}

theorem wordWithin?_eq_none_iff : wordWithin? value = none ↔ ¬FitsSigned value := by
  simp [wordWithin?]

theorem wordWithin?_eq_some_iff : wordWithin? value = some word ↔ word.toInt = value := by
  unfold wordWithin?
  constructor
  · intro held
    split at held
    · rename_i fits
      cases Option.some.inj held
      exact Int32.toInt_ofInt_of_le fits.1 (Int.lt_of_le_of_lt fits.2 (by decide))
    · cases held
  · rintro rfl
    have fits : FitsSigned word.toInt := ⟨word.minValue_le_toInt, word.toInt_le⟩
    rw [if_pos fits, Int32.ofInt_toInt]

theorem toInt_neg (fits : FitsSigned (-word.toInt)) : (-word).toInt = -word.toInt := by
  obtain ⟨least, most⟩ := fitsSigned_iff.mp fits
  rw [Int32.toInt_neg]
  exact Int.bmod_eq_of_le (by omega) (by omega)

theorem toInt_sub (fits : FitsSigned (left.toInt - right.toInt)) :
    (left - right).toInt = left.toInt - right.toInt := by
  obtain ⟨least, most⟩ := fitsSigned_iff.mp fits
  rw [Int32.toInt_sub]
  exact Int.bmod_eq_of_le (by omega) (by omega)

end

namespace Action

-- Why a count is refused. A row that requires more than it takes calls every count below the
-- required one too small, also where it is too large as well.
inductive Refuses (action : Action) (supplied : Nat) : Failure → Prop where
  | tooFew : supplied < action.required →
      Refuses action supplied (.tooFewArguments action.ordinal supplied action.required)
  | tooMany : action.required ≤ supplied → action.accepted < supplied →
      Refuses action supplied (.tooManyArguments action.ordinal supplied action.accepted)

-- An accepted count for whose last argument no size is stored.
structure ReadsPast (action : Action) (supplied : Nat) : Prop where
  least : action.required ≤ supplied
  most : supplied ≤ action.accepted
  given : 1 ≤ supplied
  short : action.sizes.length < supplied

section
variable {action : Action} {supplied last : Nat} {failure : Failure} {size : UInt32}

theorem checkArguments_tooFew (few : supplied < action.required) :
    action.checkArguments supplied =
      .error (.tooFewArguments action.ordinal supplied action.required) := by
  rw [checkArguments, if_pos few]

theorem checkArguments_tooMany (enough : action.required ≤ supplied)
    (many : action.accepted < supplied) :
    action.checkArguments supplied =
      .error (.tooManyArguments action.ordinal supplied action.accepted) := by
  rw [checkArguments, if_neg (Nat.not_lt.mpr enough), if_pos many]

theorem checkArguments_error_iff :
    action.checkArguments supplied = .error failure ↔ action.Refuses supplied failure := by
  constructor
  · intro refused
    unfold checkArguments at refused
    split at refused
    · rename_i few
      cases refused
      exact .tooFew few
    · rename_i enough
      split at refused
      · rename_i many
        cases refused
        exact .tooMany (Nat.le_of_not_lt enough) many
      · cases refused
  · intro refused
    cases refused with
    | tooFew few => exact checkArguments_tooFew few
    | tooMany enough many => exact checkArguments_tooMany enough many

theorem argumentsSize_refused (refused : action.checkArguments supplied = .error failure) :
    action.argumentsSize supplied = .error failure := by
  unfold argumentsSize
  rw [refused]
  rfl

theorem argumentsSize_zero (accepted : action.checkArguments 0 = .ok ()) :
    action.argumentsSize 0 = .ok 0 := by
  rw [argumentsSize, accepted]
  rfl

theorem argumentsSize_succ (accepted : action.checkArguments (last + 1) = .ok ()) :
    action.argumentsSize (last + 1) =
      orFailure (.sizeMissing action.ordinal (last + 1)) action.sizes[last]? := by
  rw [argumentsSize, accepted]
  rfl

theorem argumentsSize_ok_iff : action.argumentsSize supplied = .ok size ↔
    (action.required ≤ supplied ∧ supplied ≤ action.accepted) ∧
      (supplied = 0 ∧ size = 0 ∨ 1 ≤ supplied ∧ action.sizes[supplied - 1]? = some size) := by
  rw [← checkArguments_ok_iff]
  cases checked : action.checkArguments supplied with
  | error refusal => simp [argumentsSize_refused checked]
  | ok done =>
    cases supplied with
    | zero => simp [argumentsSize_zero checked, eq_comm]
    | succ last => simp [argumentsSize_succ checked, orFailure_ok_iff]

theorem argumentsSize_error_iff : action.argumentsSize supplied = .error failure ↔
    action.Refuses supplied failure ∨
      action.ReadsPast supplied ∧ failure = .sizeMissing action.ordinal supplied := by
  rw [← checkArguments_error_iff]
  cases checked : action.checkArguments supplied with
  | error refusal =>
    rw [argumentsSize_refused checked, Except.error.injEq, Except.error.injEq]
    constructor
    · exact .inl
    · rintro (same | ⟨past, _⟩)
      · exact same
      · rw [(action.checkArguments_ok_iff supplied).mpr ⟨past.least, past.most⟩] at checked
        cases checked
  | ok done =>
    obtain ⟨least, most⟩ := (action.checkArguments_ok_iff supplied).mp checked
    cases supplied with
    | zero =>
      rw [argumentsSize_zero checked]
      constructor
      · intro counted
        cases counted
      · rintro (refused | ⟨past, _⟩)
        · cases refused
        · exact absurd past.given (Nat.not_succ_le_zero 0)
    | succ last =>
      rw [argumentsSize_succ checked, orFailure_error_iff, List.getElem?_eq_none_iff]
      constructor
      · rintro ⟨rfl, short⟩
        exact .inr ⟨⟨least, most, Nat.succ_pos last, Nat.lt_succ_of_le short⟩, rfl⟩
      · rintro (refused | ⟨past, rfl⟩)
        · cases refused
        · exact ⟨rfl, Nat.le_of_lt_succ past.short⟩

theorem argumentOffset?_of_stored {index : Nat} (stored : action.sizes[index]? = some size) :
    action.argumentOffset? index = some (-size.toInt32) := by
  rw [argumentOffset?, stored, Option.map_some]

theorem returnSize_lt (action : Action) : action.returnSize.toNat < 2 ^ 31 :=
  Nat.lt_of_le_of_lt action.returns.stackSize_le (by decide)

theorem stackDelta_of_popped (popped : action.argumentsSize supplied = .ok size) :
    action.stackDelta supplied = .ok (action.returnSize.toInt32 - size.toInt32) := by
  rw [stackDelta, popped]
  rfl

theorem stackDelta_error_iff :
    action.stackDelta supplied = .error failure ↔ action.argumentsSize supplied = .error failure := by
  cases counted : action.argumentsSize supplied with
  | error refusal => simp [stackDelta, counted, bind, Except.bind]
  | ok popped => simp [stackDelta, counted, bind, Except.bind, pure, Except.pure]

end

namespace WellFormed
variable {action : Action} {position supplied index : Nat}

theorem argumentsSize_exact (valid : action.WellFormed position)
    (least : action.required ≤ supplied) (most : supplied ≤ action.accepted) :
    ∃ size, action.argumentsSize supplied = .ok size ∧
      size.toNat = stackBytes (action.parameters.take supplied) := by
  have accepted := (action.checkArguments_ok_iff supplied).mpr ⟨least, most⟩
  cases supplied with
  | zero => exact ⟨0, argumentsSize_zero accepted, rfl⟩
  | succ last =>
    obtain ⟨size, stored, bytes⟩ := valid.stored_last (Nat.lt_of_succ_le most)
    exact ⟨size, by rw [argumentsSize_succ accepted, stored, orFailure], bytes⟩

theorem argumentOffset?_exact (valid : action.WellFormed position)
    (inside : index < action.accepted) :
    ∃ offset, action.argumentOffset? index = some offset ∧
      offset.toInt = -(stackBytes (action.parameters.take (index + 1)) : Int) := by
  obtain ⟨size, stored, bytes⟩ := valid.stored_last inside
  have bound := stackBytes_take_le valid.accepted_le (index + 1)
  have exact : size.toInt32.toInt = stackBytes (action.parameters.take (index + 1)) := by
    rw [toInt_toInt32 (by omega), bytes]
  refine ⟨_, argumentOffset?_of_stored stored, ?_⟩
  rw [toInt_neg (fitsSigned_iff.mpr (by omega)), exact]

theorem stackDelta_exact (valid : action.WellFormed position)
    (least : action.required ≤ supplied) (most : supplied ≤ action.accepted) :
    ∃ delta, action.stackDelta supplied = .ok delta ∧
      delta.toInt =
        action.returnSize.toNat - (stackBytes (action.parameters.take supplied) : Int) := by
  obtain ⟨size, popped, bytes⟩ := valid.argumentsSize_exact least most
  have pushed : action.returnSize.toNat ≤ 12 := action.returns.stackSize_le
  have bound := stackBytes_take_le valid.accepted_le supplied
  have exact : size.toInt32.toInt = stackBytes (action.parameters.take supplied) := by
    rw [toInt_toInt32 (by omega), bytes]
  have returned := toInt_toInt32 action.returnSize_lt
  refine ⟨_, stackDelta_of_popped popped, ?_⟩
  rw [toInt_sub (fitsSigned_iff.mpr (by omega)), returned, exact]

end WellFormed
end Action
end EngineActions
