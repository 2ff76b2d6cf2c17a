import EngineActions.Failure
import EngineActions.ValueType
import Mathlib.Algebra.Ring.Nat

namespace EngineActions

-- Counted without a word size. Stored sizes are words, so this is what they have to agree with.
def stackBytes (types : List ValueType) : Nat :=
  (types.map fun type => type.stackSize.toNat).sum

theorem ValueType.toNat_stackSize (type : ValueType) :
    type.stackSize.toNat = cellSize.toNat * type.stackCells.toNat := by
  cases type <;> decide

theorem ValueType.stackSize_le (type : ValueType) : type.stackSize.toNat ≤ 12 := by
  cases type <;> decide

@[simp]
theorem stackBytes_nil : stackBytes [] = 0 := rfl

@[simp]
theorem stackBytes_cons (type : ValueType) (rest : List ValueType) :
    stackBytes (type :: rest) = type.stackSize.toNat + stackBytes rest := by
  simp [stackBytes]

theorem stackBytes_le (types : List ValueType) : stackBytes types ≤ 12 * types.length := by
  induction types with
  | nil => exact Nat.le_refl _
  | cons type rest ih =>
    have one := type.stackSize_le
    rw [stackBytes_cons, List.length_cons]
    omega

theorem stackBytes_take_add_one {types : List ValueType} {index : Nat} {type : ValueType}
    (found : types[index]? = some type) : stackBytes (types.take (index + 1)) =
      stackBytes (types.take index) + type.stackSize.toNat := by
  rw [List.take_add_one, found]
  simp [stackBytes]

theorem stackBytes_eq_cells (types : List ValueType) :
    stackBytes types = cellSize.toNat * (types.map fun type => type.stackCells.toNat).sum := by
  induction types with
  | nil => rfl
  | cons type rest ih =>
    rw [stackBytes_cons, ih, type.toNat_stackSize, List.map_cons, List.sum_cons, Nat.mul_add]

theorem getElem?_runningSizes (counted : UInt32) (types : List ValueType) (index : Nat) :
    (runningSizes counted types)[index]? =
      types[index]?.map fun _ => counted + .ofNat (stackBytes (types.take (index + 1))) := by
  induction types generalizing counted index with
  | nil => rfl
  | cons type rest ih =>
    cases index with
    | zero => simp [runningSizes]
    | succ index =>
      rw [runningSizes, List.getElem?_cons_succ, ih, List.getElem?_cons_succ, List.take_succ_cons]
      simp [UInt32.ofNat_add, UInt32.add_assoc]

theorem runningSizes_append (counted : UInt32) (front back : List ValueType) :
    runningSizes counted (front ++ back) =
      runningSizes counted front ++ runningSizes (counted + .ofNat (stackBytes front)) back := by
  induction front generalizing counted with
  | nil => simp [runningSizes]
  | cons type front ih =>
    rw [List.cons_append, runningSizes, ih, runningSizes, List.cons_append, stackBytes_cons,
      UInt32.ofNat_add, UInt32.ofNat_toNat, UInt32.add_assoc]

theorem cumulativeSizes_append_prefix (front back : List ValueType) :
    cumulativeSizes front <+: cumulativeSizes (front ++ back) := by
  rw [cumulativeSizes, cumulativeSizes, runningSizes_append]
  exact List.prefix_append _ _

theorem getElem?_cumulativeSizes (types : List ValueType) (index : Nat) :
    (cumulativeSizes types)[index]? =
      types[index]?.map fun _ => .ofNat (stackBytes (types.take (index + 1))) := by
  rw [cumulativeSizes, getElem?_runningSizes]
  simp

theorem stackBytes_take_le {types : List ValueType} (few : types.length ≤ parameterLimit)
    (count : Nat) : stackBytes (types.take count) ≤ 156 := by
  have bound := stackBytes_le (types.take count)
  have short := List.length_take_le' count types
  unfold parameterLimit at few
  omega

theorem toNat_ofNat_stackBytes_of_room {types : List ValueType}
    (room : 12 * types.length < UInt32.size) (count : Nat) :
    (UInt32.ofNat (stackBytes (types.take count))).toNat = stackBytes (types.take count) := by
  have bound := stackBytes_le (types.take count)
  have short := List.length_take_le' count types
  exact UInt32.toNat_ofNat_of_lt' (by omega)

theorem toNat_ofNat_stackBytes {types : List ValueType} (few : types.length ≤ parameterLimit)
    (count : Nat) : (UInt32.ofNat (stackBytes (types.take count))).toNat =
      stackBytes (types.take count) :=
  toNat_ofNat_stackBytes_of_room (by unfold parameterLimit at few; unfold UInt32.size; omega) count

theorem eq_cumulativeSizes_iff {types : List ValueType} (few : types.length ≤ parameterLimit)
    (sizes : List UInt32) : sizes = cumulativeSizes types ↔ sizes.length = types.length ∧
      ∀ index size, sizes[index]? = some size →
        size.toNat = stackBytes (types.take (index + 1)) := by
  constructor
  · rintro rfl
    refine ⟨length_cumulativeSizes types, ?_⟩
    intro index size stored
    rw [getElem?_cumulativeSizes] at stored
    obtain ⟨type, _, rfl⟩ := Option.map_eq_some_iff.mp stored
    exact toNat_ofNat_stackBytes few _
  · rintro ⟨lengths, sums⟩
    apply List.ext_getElem?
    intro index
    rw [getElem?_cumulativeSizes]
    rcases Nat.lt_or_ge index types.length with inside | outside
    · have held : index < sizes.length := by omega
      rw [List.getElem?_eq_getElem held, List.getElem?_eq_getElem inside, Option.map_some,
        Option.some_inj, ← UInt32.toNat_inj, toNat_ofNat_stackBytes few]
      exact sums index _ (List.getElem?_eq_getElem held)
    · rw [List.getElem?_eq_none outside, List.getElem?_eq_none (by omega), Option.map_none]

end EngineActions
