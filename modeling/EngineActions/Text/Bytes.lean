namespace EngineActions

def agreeBelow (left right : ByteArray) :
    (count : Nat) → count ≤ left.size → count ≤ right.size → Bool
  | 0, _, _ => true
  | last + 1, inLeft, inRight =>
    left[last] == right[last] &&
      agreeBelow left right last (Nat.le_of_succ_le inLeft) (Nat.le_of_succ_le inRight)

def sameText (left right : String) : Bool :=
  if same : left.toByteArray.size = right.toByteArray.size then
    agreeBelow left.toByteArray right.toByteArray left.toByteArray.size (Nat.le_refl _)
      (Nat.le_of_eq same)
  else false

theorem agreeBelow_iff (left right : ByteArray) (count : Nat) (inLeft : count ≤ left.size)
    (inRight : count ≤ right.size) : agreeBelow left right count inLeft inRight = true ↔
      ∀ index (below : index < count), left[index] = right[index] := by
  induction count with
  | zero => simp [agreeBelow]
  | succ last ih =>
    rw [agreeBelow, Bool.and_eq_true, ih, beq_iff_eq]
    constructor
    · intro ⟨final, before⟩ index below
      rcases Nat.lt_succ_iff_lt_or_eq.mp below with earlier | rfl
      · exact before index earlier
      · exact final
    · intro agree
      exact ⟨agree last (Nat.lt_succ_self _), fun index below =>
        agree index (Nat.lt_succ_of_lt below)⟩

-- Each access goes to both sides at the index reached, and may miss either of them.
inductive ByteScan
  | reading (index : Nat)
  | decided (same : Bool)
  | outside
deriving DecidableEq

namespace ByteScan

def start (left right : ByteArray) : ByteScan :=
  if left.size = right.size then reading 0 else decided false

def next (left right : ByteArray) : ByteScan → ByteScan
  | reading index =>
    if index < left.size then
      match left[index]?, right[index]? with
      | some byte, some other => if byte = other then reading (index + 1) else decided false
      | _, _ => outside
    else decided true
  | decided same => decided same
  | outside => outside

def after (left right : ByteArray) : Nat → ByteScan
  | 0 => start left right
  | steps + 1 => next left right (after left right steps)

theorem next_reading {left right : ByteArray} (sizes : left.size = right.size) (index : Nat) :
    (index < left.size ∧ left[index]? = right[index]? ∧
      next left right (reading index) = reading (index + 1)) ∨
    (left[index]? ≠ right[index]? ∧ next left right (reading index) = decided false) ∨
    (left.size ≤ index ∧ next left right (reading index) = decided true) := by
  by_cases inLeft : index < left.size
  · have storedLeft := getElem?_pos left index inLeft
    have storedRight := getElem?_pos right index (sizes ▸ inLeft)
    rw [next, if_pos inLeft, storedLeft, storedRight]
    dsimp only
    split
    · rename_i same
      exact .inl ⟨inLeft, congrArg some same, rfl⟩
    · rename_i unlike
      exact .inr (.inl ⟨fun same => unlike (Option.some.inj same), rfl⟩)
  · exact .inr (.inr ⟨Nat.not_lt.mp inLeft, if_neg inLeft⟩)

end ByteScan
end EngineActions
