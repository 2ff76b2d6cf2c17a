import EngineActions.Action.Check
import EngineActions.Proofs.FailureTexts
import EngineActions.Proofs.StackBytes

namespace EngineActions.Action

namespace WellFormed
variable {action : Action} {position : Nat}

theorem stored_iff (valid : action.WellFormed position) (index : Nat) (size : UInt32) :
    action.sizes[index]? = some size ↔
      index < action.accepted ∧ size.toNat = stackBytes (action.parameters.take (index + 1)) := by
  rw [valid.sizes_eq, getElem?_cumulativeSizes, Option.map_eq_some_iff]
  constructor
  · rintro ⟨type, found, rfl⟩
    exact ⟨(List.getElem?_eq_some_iff.mp found).1, toNat_ofNat_stackBytes valid.accepted_le _⟩
  · rintro ⟨inside, bytes⟩
    refine ⟨_, List.getElem?_eq_getElem inside, ?_⟩
    rw [← UInt32.toNat_inj, toNat_ofNat_stackBytes valid.accepted_le, bytes]

theorem stored_last (valid : action.WellFormed position) {last : Nat}
    (inside : last < action.accepted) : ∃ size, action.sizes[last]? = some size ∧
      size.toNat = stackBytes (action.parameters.take (last + 1)) := by
  have bytes := toNat_ofNat_stackBytes valid.accepted_le (last + 1)
  exact ⟨_, (valid.stored_iff last _).mpr ⟨inside, bytes⟩, bytes⟩

end WellFormed

structure Shaped (action : Action) (position : Nat) : Prop where
  placed : action.ordinal = position
  required_le : action.required ≤ action.accepted
  accepted_le : action.accepted ≤ 13
  sizes_length : action.sizes.length = action.parameters.length

structure SoundAt (action : Action) (index : Nat) : Prop where
  not_void : action.parameters[index]? ≠ some .void
  counted : ∃ size, action.sizes[index]? = some size ∧
    size.toNat = stackBytes (action.parameters.take (index + 1))

-- Only of a parameter that is not void is the word looked at. The sum that is expected is that of
-- the types; no stored word enters it.
inductive DefectAt (action : Action) (index : Nat) : Defect → Prop where
  | void : action.parameters[index]? = some .void → DefectAt action index (.voidParameter index)
  | size (type : ValueType) (stored expected : UInt32) :
      action.parameters[index]? = some type → type ≠ .void →
      action.sizes[index]? = some stored →
      stored.toNat ≠ stackBytes (action.parameters.take (index + 1)) →
      (cumulativeSizes action.parameters)[index]? = some expected →
      expected.toNat = stackBytes (action.parameters.take (index + 1)) →
      DefectAt action index (.wrongSize index type stored expected)

-- The cases are in the order of precedence: each holds only where none of those before it does.
inductive FirstDefect (action : Action) (position : Nat) : Defect → Prop where
  | misplaced : action.ordinal ≠ position → FirstDefect action position (.misplaced position)
  | minimumAboveMaximum : action.ordinal = position → action.accepted < action.required →
      FirstDefect action position (.minimumAboveMaximum action.required action.accepted)
  | tooManyParameters : action.ordinal = position → action.required ≤ action.accepted →
      13 < action.accepted → FirstDefect action position (.tooManyParameters action.accepted)
  | sizeCount : action.ordinal = position → action.required ≤ action.accepted →
      action.accepted ≤ 13 → action.sizes.length ≠ action.parameters.length →
      FirstDefect action position (.sizeCount action.parameters.length action.sizes.length)
  | parameter (index : Nat) (defect : Defect) : action.Shaped position →
      (∀ earlier, earlier < index → action.SoundAt earlier) → action.DefectAt index defect →
      FirstDefect action position defect

-- The scan once more, with additions that give up where a sum does not fit a word.
def addWithin? (left right : UInt32) : Option UInt32 :=
  if left.toNat + right.toNat < UInt32.size then some (left + right) else none

def sizeDefectWithin? (before : UInt32) (index : Nat) :
    List ValueType → List UInt32 → Option (Option Defect)
  | type :: types, size :: sizes =>
    if type = .void then some (some (.voidParameter index))
    else (addWithin? before type.stackSize).bind fun sum =>
      if size ≠ sum then some (some (.wrongSize index type size sum))
      else sizeDefectWithin? size (index + 1) types sizes
  | _, _ => some none

theorem sizeDefectWithin?_eq (before : UInt32) (index : Nat) (types : List ValueType)
    (sizes : List UInt32) (room : before.toNat + 12 * types.length < UInt32.size) :
    sizeDefectWithin? before index types sizes = some (sizeDefect? before index types sizes) := by
  induction types generalizing before index sizes with
  | nil => rfl
  | cons type types ih =>
    cases sizes with
    | nil => rfl
    | cons size sizes =>
      rw [List.length_cons] at room
      have one := type.stackSize_le
      have fits : before.toNat + type.stackSize.toNat < UInt32.size := by omega
      have added : addWithin? before type.stackSize = some (before + type.stackSize) :=
        if_pos fits
      rw [sizeDefectWithin?, sizeDefect?, added, Option.bind_some]
      split
      · rfl
      · split
        · rfl
        · rename_i same
          have right : size = before + type.stackSize := Decidable.not_not.mp same
          have bytes : size.toNat = before.toNat + type.stackSize.toNat := by
            rw [right, UInt32.toNat_add, Nat.mod_eq_of_lt fits]
          exact ih size (index + 1) sizes (by omega)

namespace DefectAt
variable {action : Action} {index : Nat} {defect other : Defect}

theorem not_soundAt (broken : action.DefectAt index defect) : ¬action.SoundAt index := by
  rintro ⟨filled, size, found, counted⟩
  cases broken with
  | void empty => exact filled empty
  | size type stored expected typed _ held differs _ _ =>
    cases Option.some.inj (held.symm.trans found)
    exact differs counted

theorem unique (first : action.DefectAt index defect) (second : action.DefectAt index other) :
    defect = other := by
  cases first with
  | void empty =>
    cases second with
    | void _ => rfl
    | size type stored expected typed filled _ _ _ _ =>
      exact absurd (Option.some.inj (typed.symm.trans empty)) filled
  | size type stored expected typed filled held _ sum _ =>
    cases second with
    | void empty => exact absurd (Option.some.inj (typed.symm.trans empty)) filled
    | size type' stored' expected' typed' _ held' _ sum' _ =>
      cases Option.some.inj (typed.symm.trans typed')
      cases Option.some.inj (held.symm.trans held')
      cases Option.some.inj (sum.symm.trans sum')
      rfl

end DefectAt

namespace Shaped
variable {action : Action} {position index : Nat} {type : ValueType} {before : UInt32}

theorem toNat_add_stackSize (shaped : action.Shaped position)
    (typed : action.parameters[index]? = some type)
    (counted : before.toNat = stackBytes (action.parameters.take index)) :
    (before + type.stackSize).toNat = stackBytes (action.parameters.take (index + 1)) := by
  have longer := stackBytes_take_add_one typed
  have bound := stackBytes_take_le shaped.accepted_le (index + 1)
  rw [UInt32.toNat_add, counted, ← longer]
  exact Nat.mod_eq_of_lt (by omega)

theorem firstDefect_of_scan (shaped : action.Shaped position) {types : List ValueType}
    {sizes : List UInt32} {defect : Defect} (typesLeft : action.parameters.drop index = types)
    (sizesLeft : action.sizes.drop index = sizes)
    (passed : ∀ earlier, earlier < index → action.SoundAt earlier)
    (counted : before.toNat = stackBytes (action.parameters.take index))
    (found : sizeDefect? before index types sizes = some defect) :
    action.FirstDefect position defect := by
  -- The scan goes on only past a word that was right, so `before` stays the true sum.
  induction types generalizing before index sizes with
  | nil => cases found
  | cons type types ih =>
    cases sizes with
    | nil => cases found
    | cons size sizes =>
      have typed : action.parameters[index]? = some type := by
        rw [← List.head?_drop, typesLeft, List.head?_cons]
      have stored : action.sizes[index]? = some size := by
        rw [← List.head?_drop, sizesLeft, List.head?_cons]
      have sum := shaped.toNat_add_stackSize typed counted
      rw [sizeDefect?] at found
      split at found
      · rename_i empty
        cases Option.some.inj found
        exact .parameter index _ shaped passed (.void (empty ▸ typed))
      · rename_i filled
        split at found
        · rename_i differs
          cases Option.some.inj found
          refine .parameter index _ shaped passed (.size type size _ typed filled stored ?_ ?_ sum)
          · rw [← sum]
            exact fun same => differs (UInt32.toNat_inj.mp same)
          · rw [getElem?_cumulativeSizes, typed, Option.map_some, ← sum, UInt32.ofNat_toNat]
        · rename_i same
          have right : size = before + type.stackSize := Decidable.not_not.mp same
          have bytes : size.toNat = stackBytes (action.parameters.take (index + 1)) := right ▸ sum
          refine ih ?_ ?_ ?_ bytes found
          · rw [← List.tail_drop, typesLeft, List.tail_cons]
          · rw [← List.tail_drop, sizesLeft, List.tail_cons]
          · intro earlier below
            rcases Nat.lt_succ_iff_lt_or_eq.mp below with before | rfl
            · exact passed earlier before
            · refine ⟨?_, size, stored, bytes⟩
              rw [typed]
              exact fun empty => filled (Option.some.inj empty)

end Shaped

namespace FirstDefect
variable {action : Action} {position : Nat} {defect : Defect}

theorem of_defect? (found : action.defect? position = some defect) :
    action.FirstDefect position defect := by
  unfold defect? at found
  split at found
  · rename_i misplaced
    cases Option.some.inj found
    exact .misplaced misplaced
  · rename_i placed
    have placed := Decidable.not_not.mp placed
    split at found
    · rename_i above
      cases Option.some.inj found
      exact .minimumAboveMaximum placed above
    · rename_i least
      have least := Nat.le_of_not_lt least
      split at found
      · rename_i many
        cases Option.some.inj found
        exact .tooManyParameters placed least many
      · rename_i few
        have few := Nat.le_of_not_lt few
        split at found
        · rename_i lengths
          cases Option.some.inj found
          exact .sizeCount placed least few lengths
        · rename_i lengths
          have shaped : action.Shaped position :=
            ⟨placed, least, few, Decidable.not_not.mp lengths⟩
          exact shaped.firstDefect_of_scan List.drop_zero List.drop_zero
            (fun _ below => absurd below (Nat.not_lt_zero _)) rfl found

end FirstDefect

theorem WellFormed.soundAt {action : Action} {position index : Nat}
    (valid : action.WellFormed position) (inside : index < action.accepted) :
    action.SoundAt index :=
  ⟨fun empty => valid.no_void (List.mem_of_getElem? empty), valid.stored_last inside⟩

theorem Shaped.defect?_eq_some {action : Action} {position index : Nat} {defect : Defect}
    (shaped : action.Shaped position)
    (passed : ∀ earlier, earlier < index → action.SoundAt earlier)
    (broken : action.DefectAt index defect) : action.defect? position = some defect := by
  cases found : action.defect? position with
  | none =>
    have valid := (action.defect?_eq_none_iff position).mp found
    have inside : index < action.accepted := by
      cases broken with
      | void empty => exact (List.getElem?_eq_some_iff.mp empty).1
      | size type stored expected typed _ _ _ _ _ => exact (List.getElem?_eq_some_iff.mp typed).1
    exact absurd (valid.soundAt inside) broken.not_soundAt
  | some other =>
    cases FirstDefect.of_defect? found with
    | misplaced misplaced => exact absurd shaped.placed misplaced
    | minimumAboveMaximum _ above => exact absurd above (Nat.not_lt.mpr shaped.required_le)
    | tooManyParameters _ _ many => exact absurd many (Nat.not_lt.mpr shaped.accepted_le)
    | sizeCount _ _ _ lengths => exact absurd shaped.sizes_length lengths
    | parameter reported _ _ passedReported brokenReported =>
      rcases Nat.lt_trichotomy index reported with before | rfl | behind
      · exact absurd (passedReported index before) broken.not_soundAt
      · rw [brokenReported.unique broken]
      · exact absurd (passed reported behind) brokenReported.not_soundAt

theorem defect?_eq_some_iff (action : Action) (position : Nat) (defect : Defect) :
    action.defect? position = some defect ↔ action.FirstDefect position defect := by
  constructor
  · exact FirstDefect.of_defect?
  · intro first
    cases first with
    | misplaced misplaced => rw [defect?, if_pos misplaced]
    | minimumAboveMaximum placed above =>
      rw [defect?, if_neg (Decidable.not_not.mpr placed), if_pos above]
    | tooManyParameters placed least many =>
      have beyond : parameterLimit < action.accepted := many
      rw [defect?, if_neg (Decidable.not_not.mpr placed), if_neg (Nat.not_lt.mpr least),
        if_pos beyond]
    | sizeCount placed least few lengths =>
      have within : ¬parameterLimit < action.accepted := Nat.not_lt.mpr few
      rw [defect?, if_neg (Decidable.not_not.mpr placed), if_neg (Nat.not_lt.mpr least),
        if_neg within, if_pos lengths]
    | parameter index _ shaped passed broken => exact shaped.defect?_eq_some passed broken

theorem check_error_iff (action : Action) (revision : Revision) (position : Nat)
    (failure : Failure) : action.check revision position = .error failure ↔
      ∃ defect, failure = .malformed revision action.ordinal defect ∧
        action.FirstDefect position defect := by
  simp only [← defect?_eq_some_iff]
  unfold check
  cases action.defect? position with
  | none => simp
  | some defect => simp [eq_comm]

end Action

-- A row is refused exactly with the first thing that is wrong with it, whatever its sizes are. The
-- sums are those of the types, as no addition that the scan makes leaves the word.
theorem first_defect_exact (action : Action) (position : Nat) :
    (∀ (revision : Revision) (failure : Failure),
      action.check revision position = .error failure ↔
        ∃ defect, failure = .malformed revision action.ordinal defect ∧
          action.FirstDefect position defect) ∧
    (∀ (revision : Revision) (failure : Failure),
      action.check revision position = .error failure →
        ∃ defect reason, action.FirstDefect position defect ∧ defect.Described reason ∧
          failure.message =
            s!"{revision.word} action {action.ordinal} is malformed: {reason}") ∧
    (action.accepted ≤ parameterLimit →
      Action.sizeDefectWithin? 0 0 action.parameters action.sizes =
        some (Action.sizeDefect? 0 0 action.parameters action.sizes)) := by
  refine ⟨fun revision => action.check_error_iff revision position, ?_, ?_⟩
  · intro revision failure refused
    obtain ⟨defect, rfl, first⟩ := (action.check_error_iff revision position failure).mp refused
    exact ⟨defect, _, first, defect.described_reason, Failure.message_malformed _ defect⟩
  · intro few
    apply Action.sizeDefectWithin?_eq
    have short : action.parameters.length ≤ 13 := few
    rw [UInt32.toNat_zero, Nat.zero_add]
    exact Nat.lt_of_le_of_lt (Nat.mul_le_mul_left 12 short) (by decide)

theorem wrong_size_reported_with_true_sum :
    let aim := Action.ofDeclaration .full
      ⟨7, "Aim", "", 1, .int, [.int, .vector, .void], [4, 4294967295, 4294967295]⟩
    (∃ failure, aim.check .nwn2 7 = .error failure ∧ failure.message =
      "nwn2 action 7 is malformed: parameter 1 (vector) ends at 4294967295, expected 16") ∧
    aim.FirstDefect 7 (.wrongSize 1 .vector 4294967295 16) ∧
    Action.sizeDefectWithin? 0 0 aim.parameters aim.sizes =
      some (some (.wrongSize 1 .vector 4294967295 16)) := by
  intro aim
  obtain ⟨reported, said, within⟩ := first_defect_exact aim 7
  have refused : aim.check .nwn2 7 =
      .error (.malformed .nwn2 7 (.wrongSize 1 .vector 4294967295 16)) := rfl
  obtain ⟨defect, same, first⟩ := (reported .nwn2 _).mp refused
  cases same
  refine ⟨⟨_, refused, ?_⟩, first, within (by decide)⟩
  obtain ⟨found, reason, firstFound, described, message⟩ := said .nwn2 _ refused
  have same : found = .wrongSize 1 .vector 4294967295 16 :=
    Option.some.inj (((aim.defect?_eq_some_iff 7 found).mpr firstFound).symm.trans
      ((aim.defect?_eq_some_iff 7 _).mpr first))
  subst same
  cases described
  rw [message]
  decide +kernel

end EngineActions
