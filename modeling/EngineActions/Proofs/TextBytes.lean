import EngineActions.Action
import EngineActions.Text.Bytes

namespace EngineActions

theorem sameText_iff {left right : String} : sameText left right = true ↔ left = right := by
  unfold sameText
  split
  · rename_i sizes
    rw [agreeBelow_iff]
    constructor
    · intro agree
      apply String.toByteArray_inj.mp
      apply ByteArray.ext_getElem sizes
      intro index below _
      exact agree index below
    · rintro rfl index below
      rfl
  · rename_i sizes
    constructor
    · intro same
      cases same
    · rintro rfl
      exact absurd rfl sizes

theorem Action.placeholder_ofDeclaration_iff (detail : Detail) (row : Declaration) :
    (ofDeclaration detail row).placeholder = true ↔
      row.parameters = [] ∧ row.name = placeholderName := by
  rw [ofDeclaration, Bool.and_eq_true, List.isEmpty_iff, sameText_iff]

namespace ByteScan
variable {left right : ByteArray} {scan : ByteScan} {index : Nat}

-- The sides are of one size, so the right one does not end before the left one.
def Sound (left right : ByteArray) : ByteScan → Prop
  | reading index => left.size = right.size ∧ index ≤ left.size ∧
      ∀ earlier < index, left[earlier]? = right[earlier]?
  | decided same => same = true ↔ left = right
  | outside => False

def remaining (left : ByteArray) : ByteScan → Nat
  | reading index => left.size - index + 1
  | decided _ | outside => 0

theorem sound_start (left right : ByteArray) : Sound left right (start left right) := by
  unfold start
  split
  · rename_i sizes
    exact ⟨sizes, Nat.zero_le _, fun earlier before => absurd before (Nat.not_lt_zero _)⟩
  · rename_i sizes
    exact iff_of_false Bool.false_ne_true fun same => sizes (congrArg ByteArray.size same)

theorem sound_next_reading (sound : Sound left right (reading index)) :
    Sound left right (next left right (reading index)) := by
  obtain ⟨sizes, most, agree⟩ := sound
  rcases next_reading sizes index with ⟨inside, same, step⟩ | ⟨unlike, step⟩ | ⟨ended, step⟩
  · rw [step]
    refine ⟨sizes, inside, ?_⟩
    intro earlier before
    rcases Nat.lt_succ_iff_lt_or_eq.mp before with passed | rfl
    · exact agree earlier passed
    · exact same
  · rw [step]
    refine iff_of_false Bool.false_ne_true ?_
    rintro rfl
    exact unlike rfl
  · rw [step]
    refine iff_of_true rfl ?_
    -- The index has reached the size, so the bytes that were passed are all there are.
    apply ByteArray.ext_getElem sizes
    intro position below inRight
    have stored := agree position (Nat.lt_of_lt_of_le below ended)
    rw [getElem?_pos left position below, getElem?_pos right position inRight] at stored
    exact Option.some.inj stored

theorem sound_next (sound : Sound left right scan) : Sound left right (next left right scan) := by
  cases scan with
  | reading index => exact sound_next_reading sound
  | decided same => exact sound
  | outside => exact sound

theorem sound_after (left right : ByteArray) (steps : Nat) :
    Sound left right (after left right steps) := by
  induction steps with
  | zero => exact sound_start left right
  | succ steps ih => exact sound_next ih

theorem remaining_next (sound : Sound left right scan) :
    remaining left (next left right scan) ≤ remaining left scan - 1 := by
  cases scan with
  | reading index =>
    rcases next_reading sound.1 index with ⟨inside, _, step⟩ | ⟨_, step⟩ | ⟨_, step⟩
    · rw [step]
      simp only [remaining]
      omega
    · rw [step]
      exact Nat.zero_le _
    · rw [step]
      exact Nat.zero_le _
  | decided same => exact Nat.zero_le _
  | outside => exact Nat.zero_le _

theorem remaining_after (left right : ByteArray) (steps : Nat) :
    remaining left (after left right steps) ≤ left.size + 1 - steps := by
  induction steps with
  | zero =>
    unfold after start
    split <;> simp [remaining]
  | succ steps ih =>
    have step := remaining_next (sound_after left right steps)
    rw [after]
    omega

theorem after_ne_outside (left right : ByteArray) (steps : Nat) :
    after left right steps ≠ outside := by
  intro missed
  have sound := sound_after left right steps
  rw [missed] at sound
  exact sound

theorem exists_after_eq_decided (left right : ByteArray) (more : Nat) :
    ∃ same, after left right (left.size + 1 + more) = decided same ∧
      (same = true ↔ left = right) := by
  have sound := sound_after left right (left.size + 1 + more)
  have few := remaining_after left right (left.size + 1 + more)
  cases reached : after left right (left.size + 1 + more) with
  | reading index =>
    rw [reached] at few
    simp only [remaining] at few
    omega
  | decided same =>
    rw [reached] at sound
    exact ⟨same, rfl, sound⟩
  | outside => exact absurd reached (after_ne_outside _ _ _)

theorem after_eq_sameText (left right : String) (more : Nat) :
    after left.toByteArray right.toByteArray (left.utf8ByteSize + 1 + more) =
      decided (sameText left right) := by
  obtain ⟨same, ended, verdict⟩ :=
    exists_after_eq_decided left.toByteArray right.toByteArray more
  rw [String.toByteArray_inj, ← sameText_iff, ← Bool.eq_iff_iff] at verdict
  rw [← verdict]
  exact ended

end ByteScan

-- The reading never misses, is over once each byte was looked at, and tells whether the texts are
-- one. So a placeholder is known by its written name, with names and without.
theorem text_comparison_exact :
    (∀ left right : String,
      (∀ steps, ByteScan.after left.toByteArray right.toByteArray steps ≠ .outside) ∧
      (∀ more, ByteScan.after left.toByteArray right.toByteArray (left.utf8ByteSize + 1 + more) =
        .decided (sameText left right)) ∧
      (sameText left right = true ↔ left = right)) ∧
    ∀ (detail : Detail) (row : Declaration),
      (Action.ofDeclaration detail row).placeholder = true ↔
        row.parameters = [] ∧ row.name = placeholderName := by
  refine ⟨?_, Action.placeholder_ofDeclaration_iff⟩
  intro left right
  exact ⟨ByteScan.after_ne_outside _ _, ByteScan.after_eq_sameText left right, sameText_iff⟩

example : (Action.ofDeclaration ⟨false, false⟩
    (declare 7 "BadBadReplaceMeThisDoesNothinG" 0 .void [] "")).placeholder = false := by
  decide

end EngineActions
