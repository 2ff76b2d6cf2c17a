import EngineActions.Proofs.CallSites
import EngineActions.Proofs.FirstDefect
import Mathlib.Data.List.Forall2

namespace EngineActions

namespace ValueType

theorem bytes_cells (type : ValueType) : cellSize.toNat * type.cells.length =
    type.stackSize.toNat + cellSize.toNat * (if type == .void then 1 else 0) := by
  cases type <;> decide

theorem cells_eq_replicate {type : ValueType} (filled : type ≠ .void) :
    type.cells = List.replicate type.stackCells.toNat (if type = .vector then .float else type) := by
  cases type with
  | void => exact absurd rfl filled
  | _ => rfl

end ValueType

section
variable {types : List ValueType} {index : Nat} {type : ValueType}

theorem bytes_flatMap_cells (types : List ValueType) :
    cellSize.toNat * (types.flatMap ValueType.cells).length =
      stackBytes types + cellSize.toNat * types.count .void := by
  induction types with
  | nil => rfl
  | cons type rest ih =>
    have one := type.bytes_cells
    rw [List.flatMap_cons, List.length_append, Nat.mul_add, ih, one, stackBytes_cons,
      List.count_cons, Nat.mul_add]
    omega

theorem bytes_flatMap_cells_of_filled (filled : .void ∉ types) :
    cellSize.toNat * (types.flatMap ValueType.cells).length = stackBytes types := by
  rw [bytes_flatMap_cells, List.count_eq_zero.mpr filled, Nat.mul_zero, Nat.add_zero]

theorem take_flatMap_cells (types : List ValueType) (count : Nat) :
    (types.flatMap ValueType.cells).take ((types.take count).flatMap ValueType.cells).length =
      (types.take count).flatMap ValueType.cells := by
  have parts : types.flatMap ValueType.cells = (types.take count).flatMap ValueType.cells ++
      (types.drop count).flatMap ValueType.cells := by
    rw [← List.flatMap_append, List.take_append_drop]
  rw [parts]
  exact List.take_left

theorem take_add_one_flatMap_cells (typed : types[index]? = some type) :
    (types.take (index + 1)).flatMap ValueType.cells =
      (types.take index).flatMap ValueType.cells ++ type.cells := by
  rw [List.take_add_one, typed, List.flatMap_append, Option.toList_some, List.flatMap_singleton]

theorem extract_flatMap_cells (typed : types[index]? = some type) :
    (types.flatMap ValueType.cells).extract ((types.take index).flatMap ValueType.cells).length
      ((types.take (index + 1)).flatMap ValueType.cells).length = type.cells := by
  rw [List.extract_eq_take_drop, ← List.drop_take, take_flatMap_cells,
    take_add_one_flatMap_cells typed]
  exact List.drop_left

theorem getElem?_last_cumulativeSizes {last : Nat} (whole : last + 1 = types.length) :
    (cumulativeSizes types)[last]? = some (.ofNat (stackBytes types)) := by
  have inside : last < types.length := by omega
  rw [getElem?_cumulativeSizes, List.getElem?_eq_getElem inside, Option.map_some, whole,
    List.take_length]

theorem getLast?_cumulativeSizes (types : List ValueType) :
    (cumulativeSizes types).getLast?.getD 0 = .ofNat (stackBytes types) := by
  cases types with
  | nil => rfl
  | cons type rest =>
    rw [List.getLast?_eq_getElem?, length_cumulativeSizes,
      getElem?_last_cumulativeSizes (by simp), Option.getD_some]

end

namespace Action
variable {action : Action}

theorem argumentsSize_accepted (sizes : action.sizes = cumulativeSizes action.parameters)
    (least : action.required ≤ action.accepted) :
    action.argumentsSize action.accepted = .ok (.ofNat (stackBytes action.parameters)) := by
  refine argumentsSize_ok_iff.mpr ⟨⟨least, Nat.le_refl _⟩, ?_⟩
  cases types : action.parameters with
  | nil => exact .inl ⟨by rw [accepted, types, List.length_nil], rfl⟩
  | cons type rest =>
    refine .inr ⟨by simp [accepted, types], ?_⟩
    rw [sizes, accepted, ← types]
    exact getElem?_last_cumulativeSizes (by simp [types])

namespace WellFormed
variable {position index : Nat} {type : ValueType} {size : UInt32}

theorem cells_of_prefix (valid : action.WellFormed position) (count : Nat) :
    stackBytes (action.parameters.take count) / cellSize.toNat =
      ((action.parameters.take count).flatMap ValueType.cells).length := by
  have filled : .void ∉ action.parameters.take count :=
    fun void => valid.no_void (List.mem_of_mem_take void)
  rw [← bytes_flatMap_cells_of_filled filled]
  exact Nat.mul_div_cancel_left _ (by decide)

theorem take_cells (valid : action.WellFormed position)
    (stored : action.sizes[index]? = some size) :
    action.cells.take (size.toNat / cellSize.toNat) =
      (action.parameters.take (index + 1)).flatMap ValueType.cells := by
  rw [((valid.stored_iff index size).mp stored).2, valid.cells_of_prefix, cells,
    take_flatMap_cells]

theorem extract_cells (valid : action.WellFormed position)
    (typed : action.parameters[index]? = some type)
    (stored : action.sizes[index]? = some size) :
    type.stackSize.toNat ≤ size.toNat ∧
      action.cells.extract ((size.toNat - type.stackSize.toNat) / cellSize.toNat)
        (size.toNat / cellSize.toNat) = type.cells := by
  have bytes := ((valid.stored_iff index size).mp stored).2
  have before : size.toNat - type.stackSize.toNat = stackBytes (action.parameters.take index) := by
    rw [bytes, stackBytes_take_add_one typed, Nat.add_sub_cancel]
  refine ⟨by rw [bytes, stackBytes_take_add_one typed]; exact Nat.le_add_left _ _, ?_⟩
  rw [before, bytes, valid.cells_of_prefix, valid.cells_of_prefix, cells,
    extract_flatMap_cells typed]

end WellFormed
end Action

-- Cells and sizes are made apart and describe one layout. They differ by a cell for each void
-- parameter, and a row that passed the check has none.
theorem flat_cells_exact :
    (∀ action : Action, action.sizes = cumulativeSizes action.parameters →
      stackBytes action.parameters < UInt32.size →
      cellSize.toNat * action.cells.length =
        (action.sizes.getLast?.getD 0).toNat + cellSize.toNat * action.parameters.count .void ∧
      (action.required ≤ action.accepted → ∃ size,
        action.argumentsSize action.accepted = .ok size ∧
        (cellSize.toNat * action.cells.length = size.toNat ↔ .void ∉ action.parameters))) ∧
    ∀ (action : Action) (revision : Revision) (position : Nat),
      action.check revision position = .ok () → ∀ index, index < action.accepted →
      ∃ type size, action.parameters[index]? = some type ∧ action.sizes[index]? = some size ∧
        action.cells.take (size.toNat / cellSize.toNat) =
          (action.parameters.take (index + 1)).flatMap ValueType.cells ∧
        type.stackSize.toNat ≤ size.toNat ∧
        action.cells.extract ((size.toNat - type.stackSize.toNat) / cellSize.toNat)
          (size.toNat / cellSize.toNat) =
            List.replicate type.stackCells.toNat (if type = .vector then .float else type) := by
  refine ⟨?_, ?_⟩
  · intro action sizes small
    have word : (UInt32.ofNat (stackBytes action.parameters)).toNat =
        stackBytes action.parameters := UInt32.toNat_ofNat_of_lt' small
    have bytes := bytes_flatMap_cells action.parameters
    refine ⟨by rw [sizes, getLast?_cumulativeSizes, word, Action.cells, bytes], ?_⟩
    intro least
    refine ⟨_, Action.argumentsSize_accepted sizes least, ?_⟩
    rw [word, Action.cells, bytes, Nat.add_eq_left, Nat.mul_eq_zero, List.count_eq_zero]
    exact or_iff_right (by decide)
  · intro action revision position sound index inside
    have valid := (action.check_exact revision position).mp sound
    have typed : action.parameters[index]? = some action.parameters[index] :=
      List.getElem?_eq_getElem inside
    have filled : action.parameters[index] ≠ .void :=
      fun void => valid.no_void (void ▸ List.getElem_mem inside)
    obtain ⟨size, stored, _⟩ := valid.stored_last inside
    obtain ⟨enough, found⟩ := valid.extract_cells typed stored
    exact ⟨_, size, typed, stored, valid.take_cells stored, enough,
      found.trans (ValueType.cells_eq_replicate filled)⟩

theorem vector_cells_lie_behind_object :
    let hollow := Action.ofDeclaration .full (declare 0 "Hollow" 0 .void [.int, .void] "")
    let turn := Action.ofDeclaration .full
      (declare 0 "Turn" 1 .vector [.object, .action, .vector, .int] "")
    (∃ size, hollow.argumentsSize 2 = .ok size ∧
      cellSize.toNat * hollow.cells.length ≠ size.toNat) ∧
    ∃ type size, turn.parameters[2]? = some type ∧ turn.sizes[2]? = some size ∧
      turn.cells.take (size.toNat / cellSize.toNat) = [.object, .float, .float, .float] ∧
      type.stackSize.toNat ≤ size.toNat ∧
      turn.cells.extract ((size.toNat - type.stackSize.toNat) / cellSize.toNat)
        (size.toNat / cellSize.toNat) = [.float, .float, .float] := by
  intro hollow turn
  obtain ⟨size, counted, covered⟩ := (flat_cells_exact.1 hollow rfl (by decide)).2 (by decide)
  obtain ⟨type, stop, typed, stored, first, enough, found⟩ :=
    flat_cells_exact.2 turn .nwn1 0 rfl 2 (by decide)
  refine ⟨⟨size, counted, covered.not.mpr (by decide)⟩, type, stop, typed, stored, first, enough,
    ?_⟩
  rw [found]
  cases Option.some.inj typed
  rfl

def runningSizesWithin? (counted : UInt32) : List ValueType → Option (List UInt32)
  | [] => some []
  | type :: rest => (Action.addWithin? counted type.stackSize).bind fun sum =>
      (runningSizesWithin? sum rest).map (sum :: ·)

-- Whole cells, never less than before, and the same exactly where a parameter takes no cell.
structure Climbs (types : List ValueType) (sizes : List UInt32) : Prop where
  length : sizes.length = types.length
  whole : ∀ size ∈ sizes, cellSize.toNat ∣ size.toNat
  steps : ∀ (index : Nat) (type : ValueType) (before size : UInt32),
    types[index]? = some type → (0 :: sizes)[index]? = some before →
    sizes[index]? = some size → before ≤ size ∧ (before = size ↔ type = .void ∨ type = .action)

theorem ValueType.stackSize_eq_zero_iff (type : ValueType) :
    type.stackSize.toNat = 0 ↔ type = .void ∨ type = .action := by
  cases type <;> decide

section
variable {types front back : List ValueType}

theorem runningSizesWithin?_eq (counted : UInt32) (types : List ValueType)
    (room : counted.toNat + 12 * types.length < UInt32.size) :
    runningSizesWithin? counted types = some (runningSizes counted types) := by
  -- The room is that of the types still to come, so it is left over after each addition.
  induction types generalizing counted with
  | nil => rfl
  | cons type rest ih =>
    rw [List.length_cons] at room
    have one := type.stackSize_le
    have fits : counted.toNat + type.stackSize.toNat < UInt32.size := by omega
    have added : Action.addWithin? counted type.stackSize = some (counted + type.stackSize) :=
      if_pos fits
    have bytes : (counted + type.stackSize).toNat = counted.toNat + type.stackSize.toNat := by
      rw [UInt32.toNat_add, Nat.mod_eq_of_lt fits]
    rw [runningSizesWithin?, added, Option.bind_some, ih _ (by omega)]
    rfl

theorem runningSizes_eq_map (counted : UInt32) (types : List ValueType) :
    runningSizes counted types = (cumulativeSizes types).map (counted + ·) := by
  apply List.ext_getElem?
  intro index
  rw [getElem?_runningSizes, List.getElem?_map, getElem?_cumulativeSizes, Option.map_map]
  rfl

theorem cumulativeSizes_append (front back : List ValueType) :
    cumulativeSizes (front ++ back) =
      cumulativeSizes front ++ (cumulativeSizes back).map (.ofNat (stackBytes front) + ·) := by
  rw [cumulativeSizes, runningSizes_append, UInt32.zero_add, ← cumulativeSizes,
    runningSizes_eq_map]

theorem runningSizes_inj (counted : UInt32) (front back : List ValueType) :
    runningSizes counted front = runningSizes counted back ↔
      List.Forall₂ (fun left right => left.stackSize = right.stackSize) front back := by
  induction front generalizing counted back with
  | nil =>
    cases back with
    | nil => simp
    | cons type back => simp [runningSizes]
  | cons left front ih =>
    cases back with
    | nil => simp [runningSizes]
    | cons right back =>
      rw [runningSizes, runningSizes, List.cons.injEq, UInt32.add_right_inj, List.forall₂_cons]
      refine and_congr_right fun same => ?_
      rw [same]
      exact ih _ back

theorem toNat_of_stored (room : 12 * types.length < UInt32.size) {index : Nat} {size : UInt32}
    (stored : (cumulativeSizes types)[index]? = some size) :
    size.toNat = stackBytes (types.take (index + 1)) := by
  rw [getElem?_cumulativeSizes] at stored
  obtain ⟨type, _, rfl⟩ := Option.map_eq_some_iff.mp stored
  exact toNat_ofNat_stackBytes_of_room room _

theorem toNat_of_stored_before (room : 12 * types.length < UInt32.size) {index : Nat}
    {before : UInt32} (stored : (0 :: cumulativeSizes types)[index]? = some before) :
    before.toNat = stackBytes (types.take index) := by
  cases index with
  | zero =>
    cases Option.some.inj stored
    rfl
  | succ last => exact toNat_of_stored room stored

theorem climbs_cumulativeSizes (room : 12 * types.length < UInt32.size) :
    Climbs types (cumulativeSizes types) := by
  refine ⟨length_cumulativeSizes types, ?_, ?_⟩
  · intro size member
    obtain ⟨index, stored⟩ := List.mem_iff_getElem?.mp member
    rw [toNat_of_stored room stored, stackBytes_eq_cells]
    exact Nat.dvd_mul_right _ _
  · intro index type before size typed storedBefore stored
    have start := toNat_of_stored_before room storedBefore
    have finish := toNat_of_stored room stored
    rw [stackBytes_take_add_one typed] at finish
    rw [UInt32.le_iff_toNat_le, ← UInt32.toNat_inj, ← type.stackSize_eq_zero_iff]
    omega

end

-- The sizes of parameters behind others are their own with what is before them added. The widths
-- can be read back from the sizes, and nothing else of the types can.
theorem prefix_sizes_exact (front back : List ValueType)
    (room : 12 * (front.length + back.length) < UInt32.size) :
    let total := (cumulativeSizes front).getLast?.getD 0
    runningSizesWithin? 0 (front ++ back) = some (cumulativeSizes (front ++ back)) ∧
    cumulativeSizes (front ++ back) =
      cumulativeSizes front ++ (cumulativeSizes back).map (total + ·) ∧
    (∀ size ∈ cumulativeSizes back, (total + size).toNat = total.toNat + size.toNat) ∧
    Climbs (front ++ back) (cumulativeSizes (front ++ back)) ∧
    (cumulativeSizes front = cumulativeSizes back ↔
      List.Forall₂ (fun left right => left.stackSize = right.stackSize) front back) := by
  intro total
  have joined : 12 * (front ++ back).length < UInt32.size := by rwa [List.length_append]
  have whole : total = .ofNat (stackBytes front) := getLast?_cumulativeSizes front
  refine ⟨runningSizesWithin?_eq 0 (front ++ back) (by rwa [UInt32.toNat_zero, Nat.zero_add]), ?_,
    ?_, climbs_cumulativeSizes joined, runningSizes_inj 0 front back⟩
  · rw [whole]
    exact cumulativeSizes_append front back
  · intro size member
    obtain ⟨index, stored⟩ := List.mem_iff_getElem?.mp member
    have bytes := toNat_of_stored (by omega) stored
    have fromFront := stackBytes_le front
    have fromBack := stackBytes_le (back.take (index + 1))
    have short := List.length_take_le' (index + 1) back
    have all : total.toNat = stackBytes front := by
      rw [whole]
      exact UInt32.toNat_ofNat_of_lt' (by omega)
    rw [UInt32.toNat_add]
    unfold UInt32.size at room
    exact Nat.mod_eq_of_lt (by omega)

theorem appended_sizes_shifted_and_widths_recovered :
    cumulativeSizes [.int, .vector, .action] =
      cumulativeSizes [.int] ++ (cumulativeSizes [.vector, .action]).map (4 + ·) ∧
    cumulativeSizes [.int, .action] = cumulativeSizes [.object, .void] ∧
    cumulativeSizes [.int, .action] ≠ cumulativeSizes [.int, .int] := by
  obtain ⟨_, sums, _⟩ := prefix_sizes_exact [.int] [.vector, .action] (by decide)
  obtain ⟨_, _, _, _, alike⟩ := prefix_sizes_exact [.int, .action] [.object, .void] (by decide)
  obtain ⟨_, _, _, _, wider⟩ := prefix_sizes_exact [.int, .action] [.int, .int] (by decide)
  refine ⟨sums, alike.mpr (by simp [ValueType.stackSize]), wider.not.mpr ?_⟩
  simp [ValueType.stackSize, cellSize]

end EngineActions
