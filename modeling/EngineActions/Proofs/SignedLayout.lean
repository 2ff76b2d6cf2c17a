import EngineActions.Proofs.CallSites

namespace EngineActions

namespace Action

-- The two signed sums of a call in arithmetic that gives up where a result does not fit.
def argumentOffsetWithin? (action : Action) (index : Nat) : Option (Option Int32) :=
  match action.sizes[index]? with
  | none => some none
  | some size => (wordWithin? (-size.toInt32.toInt)).map some

def stackDeltaWithin? (action : Action) (supplied : Nat) : Option (Except Failure Int32) :=
  match action.argumentsSize supplied with
  | .error failure => some (.error failure)
  | .ok popped => (wordWithin? (action.returnSize.toInt32.toInt - popped.toInt32.toInt)).map .ok

variable {action : Action} {index supplied : Nat} {size : UInt32}

theorem argumentOffsetWithin?_of_stored (stored : action.sizes[index]? = some size) :
    action.argumentOffsetWithin? index = (wordWithin? (-signedReading size)).map some := by
  simp only [argumentOffsetWithin?, stored, toInt_signed]

theorem stackDeltaWithin?_of_popped (popped : action.argumentsSize supplied = .ok size) :
    action.stackDeltaWithin? supplied =
      (wordWithin? (action.returnSize.toNat - signedReading size)).map .ok := by
  simp only [stackDeltaWithin?, popped, toInt_signed, signedReading_of_lt action.returnSize_lt]

theorem argumentOffsetWithin?_eq_none_iff (stored : action.sizes[index]? = some size) :
    action.argumentOffsetWithin? index = none ↔ size.toNat = 2 ^ 31 := by
  rw [argumentOffsetWithin?_of_stored stored, Option.map_eq_none_iff, wordWithin?_eq_none_iff,
    fitsSigned_neg_reading_iff, Decidable.not_not]

theorem stackDeltaWithin?_eq_none_iff (popped : action.argumentsSize supplied = .ok size) :
    action.stackDeltaWithin? supplied = none ↔
      2 ^ 31 ≤ size.toNat ∧ size.toNat ≤ 2 ^ 31 + action.returnSize.toNat := by
  rw [stackDeltaWithin?_of_popped popped, Option.map_eq_none_iff, wordWithin?_eq_none_iff,
    fitsSigned_sub_reading_iff action.returnSize_lt, Decidable.not_not]

theorem argumentOffset?_exact_of_fits (stored : action.sizes[index]? = some size)
    (fits : FitsSigned (-signedReading size)) : ∃ offset,
      action.argumentOffset? index = some offset ∧
      action.argumentOffsetWithin? index = some (some offset) ∧
      offset.toInt = -signedReading size := by
  have exact : (-size.toInt32).toInt = -signedReading size := by
    rw [toInt_neg (by rwa [toInt_signed]), toInt_signed]
  refine ⟨-size.toInt32, argumentOffset?_of_stored stored, ?_, exact⟩
  rw [argumentOffsetWithin?_of_stored stored, wordWithin?_eq_some_iff.mpr exact, Option.map_some]

theorem stackDelta_exact_of_fits (popped : action.argumentsSize supplied = .ok size)
    (fits : FitsSigned (action.returnSize.toNat - signedReading size)) : ∃ delta,
      action.stackDelta supplied = .ok delta ∧
      action.stackDeltaWithin? supplied = some (.ok delta) ∧
      delta.toInt = action.returnSize.toNat - signedReading size := by
  have returned := toInt_toInt32 action.returnSize_lt
  have exact : (action.returnSize.toInt32 - size.toInt32).toInt =
      action.returnSize.toNat - signedReading size := by
    rw [toInt_sub (by rwa [returned, toInt_signed]), returned, toInt_signed]
  refine ⟨_, stackDelta_of_popped popped, ?_, exact⟩
  rw [stackDeltaWithin?_of_popped popped, wordWithin?_eq_some_iff.mpr exact, Option.map_some]

theorem stackDelta_of_offset {last : Nat} (popped : action.argumentsSize (last + 1) = .ok size)
    (negated : action.argumentOffsetWithin? last ≠ none)
    (subtracted : action.stackDeltaWithin? (last + 1) ≠ none) : ∃ offset delta,
      action.argumentOffset? last = some offset ∧ action.stackDelta (last + 1) = .ok delta ∧
      delta.toInt = action.returnSize.toNat + offset.toInt := by
  have stored : action.sizes[last]? = some size := by
    rcases (argumentsSize_ok_iff.mp popped).2 with ⟨none, _⟩ | ⟨_, stored⟩
    · cases none
    · exact stored
  rw [Ne, argumentOffsetWithin?_eq_none_iff stored, ← Ne, ← fitsSigned_neg_reading_iff] at negated
  rw [Ne, stackDeltaWithin?_eq_none_iff popped,
    ← fitsSigned_sub_reading_iff action.returnSize_lt] at subtracted
  obtain ⟨offset, placed, _, start⟩ := argumentOffset?_exact_of_fits stored negated
  obtain ⟨delta, grown, _, growth⟩ := stackDelta_exact_of_fits popped subtracted
  exact ⟨offset, delta, placed, grown, by omega⟩

namespace WellFormed
variable {position : Nat}

theorem size_le (valid : action.WellFormed position) (stored : action.sizes[index]? = some size) :
    size.toNat ≤ 156 := by
  rw [((valid.stored_iff index size).mp stored).2]
  exact stackBytes_take_le valid.accepted_le _

theorem popped_le (valid : action.WellFormed position)
    (popped : action.argumentsSize supplied = .ok size) : size.toNat ≤ 156 := by
  rcases (argumentsSize_ok_iff.mp popped).2 with ⟨_, rfl⟩ | ⟨_, stored⟩
  · exact Nat.zero_le _
  · exact valid.size_le stored

theorem argumentOffsetWithin?_eq (valid : action.WellFormed position) (index : Nat) :
    action.argumentOffsetWithin? index = some (action.argumentOffset? index) := by
  cases stored : action.sizes[index]? with
  | none => simp only [argumentOffsetWithin?, argumentOffset?, stored, Option.map_none]
  | some size =>
    have small := valid.size_le stored
    have fits : FitsSigned (-signedReading size) :=
      (fitsSigned_neg_reading_iff size).mpr (by omega)
    obtain ⟨offset, placed, checked, _⟩ := argumentOffset?_exact_of_fits stored fits
    rw [placed, checked]

theorem stackDeltaWithin?_eq (valid : action.WellFormed position) (supplied : Nat) :
    action.stackDeltaWithin? supplied = some (action.stackDelta supplied) := by
  cases popped : action.argumentsSize supplied with
  | error failure =>
    rw [stackDelta_error_iff.mpr popped]
    simp only [stackDeltaWithin?, popped]
  | ok size =>
    have small := valid.popped_le popped
    have fits : FitsSigned (action.returnSize.toNat - signedReading size) :=
      (fitsSigned_sub_reading_iff action.returnSize_lt size).mpr (by omega)
    obtain ⟨delta, grown, checked, _⟩ := stackDelta_exact_of_fits popped fits
    rw [grown, checked]

theorem offset_bounds (valid : action.WellFormed position) (inside : index < action.accepted) :
    ∃ size offset, action.sizes[index]? = some size ∧
      size.toNat = stackBytes (action.parameters.take (index + 1)) ∧
      action.argumentOffset? index = some offset ∧
      action.argumentOffsetWithin? index = some (some offset) ∧
      offset.toInt = -(size.toNat : Int) ∧ -156 ≤ offset.toInt ∧ offset.toInt ≤ 0 := by
  obtain ⟨size, stored, bytes⟩ := valid.stored_last inside
  obtain ⟨offset, placed, start⟩ := valid.argumentOffset?_exact inside
  have small := valid.size_le stored
  refine ⟨size, offset, stored, bytes, placed, ?_, by omega, by omega, by omega⟩
  rw [valid.argumentOffsetWithin?_eq, placed]

theorem delta_bounds (valid : action.WellFormed position) (least : action.required ≤ supplied)
    (most : supplied ≤ action.accepted) : ∃ size delta,
      action.argumentsSize supplied = .ok size ∧
      size.toNat = stackBytes (action.parameters.take supplied) ∧
      action.stackDelta supplied = .ok delta ∧
      action.stackDeltaWithin? supplied = some (.ok delta) ∧
      delta.toInt = action.returnSize.toNat - (size.toNat : Int) ∧
      -156 ≤ delta.toInt ∧ delta.toInt ≤ 12 := by
  obtain ⟨size, popped, bytes⟩ := valid.argumentsSize_exact least most
  obtain ⟨delta, grown, growth⟩ := valid.stackDelta_exact least most
  have small := valid.popped_le popped
  have returned : action.returnSize.toNat ≤ 12 := action.returns.stackSize_le
  refine ⟨size, delta, popped, bytes, grown, ?_, by omega, by omega, by omega⟩
  rw [valid.stackDeltaWithin?_eq, grown]

end WellFormed
end Action

-- Offsets and deltas are the integers they stand for, wherever those fit: an offset fails at a
-- single word, a delta at as many more as bytes are returned. Sound rows have no such size.
theorem signed_layout_exact :
    (∀ (action : Action) (index : Nat) (size : UInt32), action.sizes[index]? = some size →
      (action.argumentOffsetWithin? index = none ↔ size.toNat = 2 ^ 31) ∧
      (size.toNat ≠ 2 ^ 31 → FitsSigned (-signedReading size) ∧ ∃ offset,
        action.argumentOffset? index = some offset ∧ offset.toInt = -signedReading size)) ∧
    (∀ (action : Action) (supplied : Nat) (size : UInt32),
      action.argumentsSize supplied = .ok size →
      (action.stackDeltaWithin? supplied = none ↔
        2 ^ 31 ≤ size.toNat ∧ size.toNat ≤ 2 ^ 31 + action.returnSize.toNat) ∧
      (¬(2 ^ 31 ≤ size.toNat ∧ size.toNat ≤ 2 ^ 31 + action.returnSize.toNat) →
        FitsSigned (action.returnSize.toNat - signedReading size) ∧ ∃ delta,
          action.stackDelta supplied = .ok delta ∧
          delta.toInt = action.returnSize.toNat - signedReading size)) ∧
    (∀ (action : Action) (last : Nat) (size : UInt32),
      action.argumentsSize (last + 1) = .ok size → action.argumentOffsetWithin? last ≠ none →
      action.stackDeltaWithin? (last + 1) ≠ none → ∃ offset delta,
        action.argumentOffset? last = some offset ∧ action.stackDelta (last + 1) = .ok delta ∧
        delta.toInt = action.returnSize.toNat + offset.toInt) ∧
    ∀ (action : Action) (revision : Revision) (position : Nat),
      action.check revision position = .ok () →
      (∀ size ∈ action.sizes, size.toNat ≤ 156) ∧
      (∀ index, index < action.accepted → ∃ size offset, action.sizes[index]? = some size ∧
        size.toNat = stackBytes (action.parameters.take (index + 1)) ∧
        action.argumentOffset? index = some offset ∧
        action.argumentOffsetWithin? index = some (some offset) ∧
        offset.toInt = -(size.toNat : Int) ∧ -156 ≤ offset.toInt ∧ offset.toInt ≤ 0) ∧
      ∀ supplied, action.required ≤ supplied → supplied ≤ action.accepted → ∃ size delta,
        action.argumentsSize supplied = .ok size ∧
        size.toNat = stackBytes (action.parameters.take supplied) ∧
        action.stackDelta supplied = .ok delta ∧
        action.stackDeltaWithin? supplied = some (.ok delta) ∧
        delta.toInt = action.returnSize.toNat - (size.toNat : Int) ∧
        -156 ≤ delta.toInt ∧ delta.toInt ≤ 12 := by
  refine ⟨?_, ?_, ?_, ?_⟩
  · intro action index size stored
    refine ⟨Action.argumentOffsetWithin?_eq_none_iff stored, ?_⟩
    intro opposite
    have fits := (fitsSigned_neg_reading_iff size).mpr opposite
    obtain ⟨offset, placed, _, start⟩ := Action.argumentOffset?_exact_of_fits stored fits
    exact ⟨fits, offset, placed, start⟩
  · intro action supplied size popped
    refine ⟨Action.stackDeltaWithin?_eq_none_iff popped, ?_⟩
    intro room
    have fits := (fitsSigned_sub_reading_iff action.returnSize_lt size).mpr room
    obtain ⟨delta, grown, _, growth⟩ := Action.stackDelta_exact_of_fits popped fits
    exact ⟨fits, delta, grown, growth⟩
  · intro action last size popped
    exact Action.stackDelta_of_offset popped
  · intro action revision position sound
    have valid := (action.check_exact revision position).mp sound
    refine ⟨?_, fun _ => valid.offset_bounds, fun _ => valid.delta_bounds⟩
    intro size member
    obtain ⟨index, stored⟩ := List.mem_iff_getElem?.mp member
    exact valid.size_le stored

theorem offset_undefined_at_lowest_word :
    let torn := Action.ofDeclaration .full
      ⟨7, "Torn", "", 1, .int, [.int, .int, .int], [2147483648, 2147483652, 2147483653]⟩
    let wide := Action.ofDeclaration .full
      (declare 0 "Wide" 0 .void (List.replicate 13 .vector) "")
    torn.argumentOffsetWithin? 0 = none ∧ torn.stackDeltaWithin? 2 = none ∧
    (∃ offset, torn.argumentOffset? 1 = some offset ∧ offset.toInt = 2147483644) ∧
    (∃ offset delta, torn.argumentOffset? 2 = some offset ∧ torn.stackDelta 3 = .ok delta ∧
      delta.toInt = 4 + offset.toInt) ∧
    ∃ size delta, wide.argumentsSize 13 = .ok size ∧ size.toNat = 156 ∧
      wide.stackDelta 13 = .ok delta ∧ delta.toInt = -156 := by
  intro torn wide
  obtain ⟨offsets, deltas, joined, sound⟩ := signed_layout_exact
  obtain ⟨offset, placed, start⟩ := ((offsets torn 1 2147483652 rfl).2 (by decide)).2
  obtain ⟨_, summed⟩ := sound wide .nwn1 0 rfl
  obtain ⟨size, delta, popped, bytes, grown, _, growth, _⟩ :=
    summed.2 13 (by decide) (by decide)
  have all : size.toNat = 156 := bytes.trans (by decide)
  refine ⟨(offsets torn 0 2147483648 rfl).1.mpr (by decide),
    (deltas torn 2 2147483652 rfl).1.mpr (by decide), ⟨offset, placed, start.trans (by decide)⟩,
    joined torn 2 2147483653 rfl ?_ ?_, size, delta, popped, all, grown, ?_⟩
  · exact (offsets torn 2 2147483653 rfl).1.not.mpr (by decide)
  · exact (deltas torn 3 2147483653 rfl).1.not.mpr (by decide)
  · rw [growth, all]
    rfl

namespace Action

def OnlyRefuses (action : Action) : Prop :=
  ∀ supplied failure, action.argumentsSize supplied = .error failure ∨
    action.stackDelta supplied = .error failure → action.Refuses supplied failure

variable {action : Action} {supplied : Nat} {failure : Failure}

theorem onlyRefuses_iff : action.OnlyRefuses ↔
    action.accepted < action.required ∨ action.accepted ≤ action.sizes.length := by
  constructor
  · intro refuses
    by_cases short : action.required ≤ action.accepted ∧ action.sizes.length < action.accepted
    · have past : action.ReadsPast action.accepted :=
        ⟨short.1, Nat.le_refl _, Nat.lt_of_le_of_lt (Nat.zero_le _) short.2, short.2⟩
      have missing := argumentsSize_error_iff.mpr (.inr ⟨past, rfl⟩)
      cases refuses _ _ (.inl missing)
    · omega
  · intro enough supplied failure failed
    rw [stackDelta_error_iff, or_self, argumentsSize_error_iff] at failed
    rcases failed with refused | ⟨past, _⟩
    · exact refused
    · have least := past.least
      have most := past.most
      have short := past.short
      omega

theorem onlyRefuses_of_cumulative (sizes : action.sizes = cumulativeSizes action.parameters) :
    action.OnlyRefuses := by
  refine onlyRefuses_iff.mpr (.inr ?_)
  rw [sizes, length_cumulativeSizes]
  exact Nat.le_refl _

end Action

-- A count is refused for the same reason by every check of a call. What is accepted fails only
-- where the sizes end too early, which they do on no row that passed its own check.
theorem call_checks_exact :
    (∀ (action : Action) (supplied : Nat),
      (action.checkArguments supplied = .ok () ↔
        action.required ≤ supplied ∧ supplied ≤ action.accepted) ∧
      (∀ size, action.argumentsSize supplied = .ok size ↔
        (action.required ≤ supplied ∧ supplied ≤ action.accepted) ∧
          (supplied = 0 ∧ size = 0 ∨
            1 ≤ supplied ∧ action.sizes[supplied - 1]? = some size)) ∧
      ∀ failure,
        (action.checkArguments supplied = .error failure ↔ action.Refuses supplied failure) ∧
        (action.argumentsSize supplied = .error failure ↔ action.Refuses supplied failure ∨
          action.ReadsPast supplied ∧ failure = .sizeMissing action.ordinal supplied) ∧
        (action.stackDelta supplied = .error failure ↔ action.Refuses supplied failure ∨
          action.ReadsPast supplied ∧ failure = .sizeMissing action.ordinal supplied)) ∧
    (∀ action : Action, action.sizes = cumulativeSizes action.parameters →
      action.OnlyRefuses) ∧
    ∀ (action : Action) (revision : Revision) (position : Nat),
      action.check revision position = .ok () →
      action.OnlyRefuses ∧
      (∀ index, action.argumentOffsetWithin? index = some (action.argumentOffset? index)) ∧
      ∀ supplied, action.stackDeltaWithin? supplied = some (action.stackDelta supplied) := by
  refine ⟨?_, fun _ => Action.onlyRefuses_of_cumulative, ?_⟩
  · intro action supplied
    refine ⟨action.checkArguments_ok_iff supplied, fun _ => Action.argumentsSize_ok_iff, ?_⟩
    intro failure
    exact ⟨Action.checkArguments_error_iff, Action.argumentsSize_error_iff,
      Action.stackDelta_error_iff.trans Action.argumentsSize_error_iff⟩
  · intro action revision position sound
    have valid := (action.check_exact revision position).mp sound
    exact ⟨Action.onlyRefuses_of_cumulative valid.sizes_eq, valid.argumentOffsetWithin?_eq,
      valid.stackDeltaWithin?_eq⟩

theorem missing_size_met_only_on_unsound_row :
    let torn := Action.ofDeclaration .full ⟨4, "Torn", "", 1, .int, [.int, .vector], [4]⟩
    let closed := Action.ofDeclaration .full (declare 5 "Closed" 3 .int [.object] "")
    let sound := Action.ofDeclaration .full (declare 0 "Aim" 1 .int [.action, .vector] "")
    torn.argumentsSize 1 = .ok 4 ∧ torn.argumentsSize 2 = .error (.sizeMissing 4 2) ∧
    torn.stackDelta 2 = .error (.sizeMissing 4 2) ∧
    closed.checkArguments 2 = .error (.tooFewArguments 5 2 3) ∧
    closed.stackDelta 3 = .error (.tooManyArguments 5 3 1) ∧ closed.OnlyRefuses ∧
    sound.OnlyRefuses ∧ sound.argumentOffsetWithin? 1 = some (some (-12)) ∧
    sound.stackDeltaWithin? 2 = some (.ok (-8)) := by
  intro torn closed sound
  obtain ⟨answers, built, checked⟩ := call_checks_exact
  have past : torn.ReadsPast 2 := ⟨by decide, by decide, by decide, by decide⟩
  obtain ⟨_, counted, failed⟩ := answers torn 2
  obtain ⟨refuses, placed, grown⟩ := checked sound .nwn2 0 rfl
  refine ⟨((answers torn 1).2.1 4).mpr ⟨by decide, .inr ⟨by decide, rfl⟩⟩,
    (failed _).2.1.mpr (.inr ⟨past, rfl⟩), (failed _).2.2.mpr (.inr ⟨past, rfl⟩),
    ((answers closed 2).2.2 _).1.mpr (.tooFew (by decide)),
    ((answers closed 3).2.2 _).2.2.mpr (.inl (.tooMany (by decide) (by decide))),
    built closed rfl, refuses, placed 1, grown 2⟩

end EngineActions
