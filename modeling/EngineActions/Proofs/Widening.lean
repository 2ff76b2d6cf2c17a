import EngineActions.Proofs.CallSites
import EngineActions.Proofs.ShippedTables

namespace EngineActions

namespace Action

-- A row may require less and take more parameters at the end. Types are not compared, only the
-- bytes they take.
structure Widens (old new : Action) : Prop where
  required_le : new.required ≤ old.required
  returned : old.returnSize = new.returnSize
  sizes : old.sizes <+: new.sizes

instance (old new : Action) : Decidable (old.Widens new) :=
  decidable_of_iff
    (new.required ≤ old.required ∧ old.returnSize = new.returnSize ∧ old.sizes <+: new.sizes)
    ⟨fun ⟨required, returned, sizes⟩ => ⟨required, returned, sizes⟩,
      fun ⟨required, returned, sizes⟩ => ⟨required, returned, sizes⟩⟩

-- The call is accepted, as much is popped and added, and each argument lies where it did.
structure KeepsCall (old new : Action) (supplied : Nat) : Prop where
  accepted : new.checkArguments supplied = .ok ()
  popped : ∃ size, old.argumentsSize supplied = .ok size ∧ new.argumentsSize supplied = .ok size
  grown : ∃ delta, old.stackDelta supplied = .ok delta ∧ new.stackDelta supplied = .ok delta
  offsets : ∀ index, index < supplied → ∃ offset,
    old.argumentOffset? index = some offset ∧ new.argumentOffset? index = some offset

theorem Widens.stored {old new : Action} (widens : old.Widens new) {index : Nat} {size : UInt32}
    (stored : old.sizes[index]? = some size) : new.sizes[index]? = some size := by
  obtain ⟨further, longer⟩ := widens.sizes
  rw [← longer, List.getElem?_append_left (List.getElem?_eq_some_iff.mp stored).1, stored]

namespace WellFormed
variable {old new : Action} {place position supplied index : Nat}

theorem length_sizes (valid : old.WellFormed place) : old.sizes.length = old.accepted := by
  rw [valid.sizes_eq, length_cumulativeSizes, accepted]

theorem widens_of_append (oldValid : old.WellFormed place) (newValid : new.WellFormed position)
    {further : List ValueType} (longer : new.parameters = old.parameters ++ further)
    (required : new.required ≤ old.required) (returned : old.returnSize = new.returnSize) :
    old.Widens new := by
  refine ⟨required, returned, ?_⟩
  rw [oldValid.sizes_eq, newValid.sizes_eq, longer]
  exact cumulativeSizes_append_prefix _ _

theorem keepsOffset (valid : old.WellFormed place) (widens : old.Widens new)
    (inside : index < old.accepted) : ∃ offset,
      old.argumentOffset? index = some offset ∧ new.argumentOffset? index = some offset := by
  obtain ⟨size, stored, _⟩ := valid.stored_last inside
  exact ⟨_, argumentOffset?_of_stored stored, argumentOffset?_of_stored (widens.stored stored)⟩

theorem keepsCall (oldValid : old.WellFormed place) (newValid : new.WellFormed position)
    (widens : old.Widens new) (accepted : old.checkArguments supplied = .ok ()) :
    old.KeepsCall new supplied := by
  obtain ⟨least, most⟩ := (old.checkArguments_ok_iff supplied).mp accepted
  have shorter : old.accepted ≤ new.accepted := by
    rw [← oldValid.length_sizes, ← newValid.length_sizes]
    exact widens.sizes.length_le
  have taken : new.checkArguments supplied = .ok () :=
    (new.checkArguments_ok_iff supplied).mpr
      ⟨Nat.le_trans widens.required_le least, Nat.le_trans most shorter⟩
  have popped : new.argumentsSize supplied = old.argumentsSize supplied := by
    cases supplied with
    | zero => rw [argumentsSize_zero taken, argumentsSize_zero accepted]
    | succ last =>
      obtain ⟨size, stored, _⟩ := oldValid.stored_last (Nat.lt_of_succ_le most)
      rw [argumentsSize_succ taken, argumentsSize_succ accepted, stored, widens.stored stored]
      rfl
  have grown : new.stackDelta supplied = old.stackDelta supplied := by
    rw [stackDelta, stackDelta, popped, widens.returned]
  obtain ⟨size, counted, _⟩ := oldValid.argumentsSize_exact least most
  obtain ⟨delta, summed, _⟩ := oldValid.stackDelta_exact least most
  exact ⟨taken, ⟨size, counted, popped.trans counted⟩, ⟨delta, summed, grown.trans summed⟩,
    fun index inside => oldValid.keepsOffset widens (Nat.lt_of_lt_of_le inside most)⟩

end WellFormed
end Action

namespace Shipped
variable {position : Nat} {left right : Declaration}

theorem widens_rows :
    (((rows .nwn1).zip (rows .nwn2)).all fun rows => decide
      ((Action.ofDeclaration .full rows.1).Widens (.ofDeclaration .full rows.2) ∨
        rows.1.name ≠ rows.2.name)) = true := by
  -- Names are slow to compare and come second: only few rows were not widened.
  decide +kernel

theorem widens_row (detail : Detail) (storedLeft : (rows .nwn1)[position]? = some left)
    (storedRight : (rows .nwn2)[position]? = some right) (same : left.name = right.name) :
    (Action.ofDeclaration detail left).Widens (.ofDeclaration detail right) := by
  have paired : ((rows .nwn1).zip (rows .nwn2))[position]? = some (left, right) :=
    List.getElem?_zip_eq_some.mpr ⟨storedLeft, storedRight⟩
  have checked := List.all_eq_true.mp widens_rows _ (List.mem_of_getElem? paired)
  rcases of_decide_eq_true checked with ⟨required, returned, sizes⟩ | renamed
  · exact ⟨required, returned, sizes⟩
  · exact absurd same renamed

end Shipped

-- A row that gains parameters at the end takes every old call as it was laid out. From one shipped
-- table to the other this is what happened to each row that kept its name.
theorem widening_keeps_calls :
    (∀ (old new : Action) (oldRevision newRevision : Revision) (oldPosition newPosition : Nat)
      (further : List ValueType),
      old.check oldRevision oldPosition = .ok () → new.check newRevision newPosition = .ok () →
      new.parameters = old.parameters ++ further → new.required ≤ old.required →
      old.returnSize = new.returnSize →
      (∀ supplied, old.checkArguments supplied = .ok () → old.KeepsCall new supplied) ∧
      ∀ index, index < old.accepted → ∃ offset,
        old.argumentOffset? index = some offset ∧ new.argumentOffset? index = some offset) ∧
    ∀ (detail : Detail) (position : Nat) (left right : Declaration),
      (Shipped.rows .nwn1)[position]? = some left →
      (Shipped.rows .nwn2)[position]? = some right → left.name = right.name →
      ∃ old new, (Shipped.catalog detail .nwn1).get? position = some old ∧
        (Shipped.catalog detail .nwn2).get? position = some new ∧
        ∀ supplied, old.checkArguments supplied = .ok () → old.KeepsCall new supplied := by
  refine ⟨?_, ?_⟩
  · intro old new oldRevision newRevision oldPosition newPosition further soundOld soundNew longer
      required returned
    have validOld := (old.check_exact oldRevision oldPosition).mp soundOld
    have validNew := (new.check_exact newRevision newPosition).mp soundNew
    have widens := validOld.widens_of_append validNew longer required returned
    exact ⟨fun _ => validOld.keepsCall validNew widens, fun _ => validOld.keepsOffset widens⟩
  · intro detail position left right storedLeft storedRight same
    have storedOld : (Shipped.catalog detail .nwn1).get? position =
        some (.ofDeclaration detail left) := by
      rw [Shipped.catalog, Catalog.get?_ofDeclarations, storedLeft, Option.map_some]
    have storedNew : (Shipped.catalog detail .nwn2).get? position =
        some (.ofDeclaration detail right) := by
      rw [Shipped.catalog, Catalog.get?_ofDeclarations, storedRight, Option.map_some]
    refine ⟨_, _, storedOld, storedNew, ?_⟩
    intro supplied accepted
    have validOld := (Shipped.wellFormed_catalog detail .nwn1).rows position _ storedOld
    have validNew := (Shipped.wellFormed_catalog detail .nwn2).rows position _ storedNew
    exact validOld.keepsCall validNew (Shipped.widens_row detail storedLeft storedRight same)
      accepted

theorem added_parameter_keeps_shorter_calls :
    let old := Action.ofDeclaration .full (declare 0 "Aim" 1 .int [.action, .vector] "")
    let new := Action.ofDeclaration .full (declare 3 "Aim" 0 .float [.action, .vector, .vector] "")
    old.KeepsCall new 2 ∧ new.checkArguments 3 = .ok () ∧
    ∃ before after, (Shipped.catalog .full .nwn1).get? 79 = some before ∧
      (Shipped.catalog .full .nwn2).get? 79 = some after ∧ before.accepted = 3 ∧
      after.accepted = 4 ∧ before.KeepsCall after 3 := by
  intro old new
  have kept := (widening_keeps_calls.1 old new .nwn1 .nwn2 0 3 [.vector] rfl rfl rfl (by decide)
    rfl).1 2 rfl
  obtain ⟨before, after, storedBefore, storedAfter, calls⟩ :=
    widening_keeps_calls.2 .full 79 _ _ rfl rfl rfl
  refine ⟨kept, rfl, before, after, storedBefore, storedAfter, ?_, ?_, ?_⟩
  · cases storedBefore
    rfl
  · cases storedAfter
    rfl
  · cases storedBefore
    exact calls 3 rfl

end EngineActions
