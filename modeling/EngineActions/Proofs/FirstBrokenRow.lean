import EngineActions.Catalog
import EngineActions.Proofs.FirstDefect
import EngineActions.Proofs.TableCheck

namespace EngineActions.Catalog

def take (catalog : Catalog) (count : Nat) : Catalog :=
  { catalog with actions := catalog.actions.take count }

-- Where the check ends. Two shorter tables say it, so that nothing behind the row plays a part.
structure FailsAt (catalog : Catalog) (position : Nat) (failure : Failure) : Prop where
  before : (catalog.take position).check = .ok ()
  here : (catalog.take (position + 1)).check = .error failure

theorem checkRows_append (revision : Revision) (seen : NameIndex) (position : Nat)
    (front back : List Action) :
    checkRows revision seen position (front ++ back) =
      (checkRows revision seen position front).bind fun _ =>
        checkRows revision (front.foldl NameIndex.enter seen) (position + front.length) back := by
  induction front generalizing seen position with
  | nil => rfl
  | cons row rest ih =>
    rw [List.cons_append, checkRows, checkRows, List.foldl_cons, List.length_cons]
    cases row.check revision position with
    | error failure => rfl
    | ok =>
      cases seen row.name with
      | some holder => rfl
      | none =>
        simp only [bind, Except.bind]
        rw [ih, Nat.add_assoc, Nat.add_comm 1]
        rfl

theorem checkRows_single_error_iff (revision : Revision) (seen : NameIndex) (position : Nat)
    (row : Action) (failure : Failure) :
    checkRows revision seen position [row] = .error failure ↔
      row.check revision position = .error failure ∨
        row.check revision position = .ok () ∧ ∃ holder, seen row.name = some holder ∧
          failure = .malformed revision row.ordinal (.nameTaken row.name holder) := by
  rw [checkRows]
  cases row.check revision position with
  | error other => simp [bind, Except.bind]
  | ok =>
    cases seen row.name with
    | some holder => simp [bind, Except.bind, eq_comm]
    | none => simp [bind, Except.bind, checkRows]

variable {catalog : Catalog} {position count : Nat} {failure : Failure}

theorem take_take (inside : position ≤ count) :
    (catalog.take count).take position = catalog.take position := by
  simp [take, List.take_take, Nat.min_eq_left inside]

theorem take_count (catalog : Catalog) : catalog.take catalog.count = catalog := by
  simp [take, Catalog.count]

theorem check_extend_of_error (added : List Action) (failed : catalog.check = .error failure) :
    (catalog.extend added).check = .error failure := by
  rw [check] at failed
  rw [check, extend, checkRows_append, failed]
  rfl

theorem check_of_take (failed : (catalog.take count).check = .error failure) :
    catalog.check = .error failure := by
  have whole : (catalog.take count).extend (catalog.actions.drop count) = catalog := by
    simp [take, extend]
  rw [← whole]
  exact check_extend_of_error _ failed

theorem exists_failsAt (failed : (catalog.take count).check = .error failure) :
    ∃ position, position < count ∧ catalog.FailsAt position failure := by
  -- With one row more, the failure was there before or is that of the new row.
  induction count with
  | zero => cases failed
  | succ count ih =>
    cases before : (catalog.take count).check with
    | ok => exact ⟨count, Nat.lt_succ_self count, before, failed⟩
    | error earlier =>
      have kept : (catalog.take (count + 1)).check = .error earlier :=
        check_of_take (by rwa [take_take (Nat.le_succ count)])
      cases Except.error.inj (kept.symm.trans failed)
      obtain ⟨position, inside, fails⟩ := ih before
      exact ⟨position, Nat.lt_succ_of_lt inside, fails⟩

theorem check_error_iff : catalog.check = .error failure ↔
    ∃ position, catalog.FailsAt position failure := by
  constructor
  · intro failed
    rw [← take_count catalog] at failed
    obtain ⟨position, _, fails⟩ := exists_failsAt failed
    exact ⟨position, fails⟩
  · rintro ⟨position, fails⟩
    exact check_of_take fails.here

theorem FailsAt.row (fails : catalog.FailsAt position failure) :
    ∃ row, catalog.get? position = some row ∧
      checkRows catalog.revision (NameIndex.ofActions (catalog.actions.take position)) position
        [row] = .error failure := by
  obtain ⟨before, here⟩ := fails
  cases stored : catalog.get? position with
  | none =>
    have short := List.getElem?_eq_none_iff.mp stored
    have same : catalog.take (position + 1) = catalog.take position := by
      simp [take, List.take_of_length_le short, List.take_of_length_le (Nat.le_succ_of_le short)]
    rw [same, before] at here
    cases here
  | some row =>
    refine ⟨row, rfl, ?_⟩
    have longer : catalog.actions.take (position + 1) = catalog.actions.take position ++ [row] := by
      rw [List.take_add_one, ← get?, stored]
      rfl
    have length : (catalog.actions.take position).length = position :=
      List.length_take_of_le (Nat.le_of_lt (List.getElem?_eq_some_iff.mp stored).1)
    rw [check] at before here
    simp only [take] at before here
    rw [longer, checkRows_append, before, length, Nat.zero_add] at here
    exact here

structure EarlierHolder (catalog : Catalog) (name : String) (bound position : Nat) : Prop where
  earlier : position < bound
  held : ∃ holder, catalog.get? position = some holder ∧ holder.name = name ∧
    holder.ordinal = position
  only : ∀ other row, other < bound → catalog.get? other = some row → row.name = name →
    other = position

variable {bound : Nat} {name : String}

theorem get?_take (catalog : Catalog) (count position : Nat) :
    (catalog.take count).get? position =
      if position < count then catalog.get? position else none := by
  rw [get?, take, List.getElem?_take]
  rfl

theorem check_take_of_ok (inside : count ≤ bound) (sound : (catalog.take bound).check = .ok ()) :
    (catalog.take count).check = .ok () := by
  cases verdict : (catalog.take count).check with
  | ok => rfl
  | error failure =>
    have failed : (catalog.take bound).check = .error failure :=
      check_of_take (by rwa [take_take inside])
    rw [sound] at failed
    cases failed

theorem earlierHolder_of_taken (sound : (catalog.take bound).check = .ok ())
    (taken : NameIndex.ofActions (catalog.actions.take bound) name = some position) :
    name ≠ "" ∧ catalog.EarlierHolder name bound position := by
  have valid := (check_exact _).mp sound
  obtain ⟨given, held, holder, last, stated⟩ := NameIndex.ofActions_eq_some_iff.mp taken
  have stored : (catalog.take bound).get? held = some holder := last.stored
  have placed := (valid.rows held holder stored).placed
  -- The index answers what a row states, and only on a sound row is that its position.
  have here : held = position := placed.symm.trans stated
  subst here
  have before : held < bound := by
    have found := stored
    rw [get?_take] at found
    split at found
    · assumption
    · cases found
  refine ⟨given, before, ⟨holder, ?_, last.named, placed⟩, ?_⟩
  · rwa [get?_take, if_pos before] at stored
  · intro other row inside found named
    have kept : (catalog.take bound).get? other = some row := by
      rw [get?_take, if_pos inside, found]
    exact valid.names other held row holder kept stored (named.trans last.named.symm)
      (named ▸ given)

theorem FailsAt.cause (fails : catalog.FailsAt position failure) :
    ∃ row, catalog.get? position = some row ∧
      (row.check catalog.revision position = .error failure ∨
        row.check catalog.revision position = .ok () ∧ row.name ≠ "" ∧ ∃ holder,
          catalog.EarlierHolder row.name position holder ∧
          failure = .malformed catalog.revision position (.nameTaken row.name holder)) := by
  obtain ⟨row, stored, refused⟩ := fails.row
  refine ⟨row, stored, ?_⟩
  rcases (checkRows_single_error_iff _ _ _ _ _).mp refused with own | ⟨passed, holder, taken, rfl⟩
  · exact .inl own
  · obtain ⟨given, held⟩ := earlierHolder_of_taken fails.before taken
    have placed := ((row.check_exact _ _).mp passed).placed
    exact .inr ⟨passed, given, holder, held, by rw [placed]⟩

end Catalog

-- A table that does not pass is refused for its first broken row: for the row's own defect even
-- where its name is taken as well, or for a name with the one position that holds it.
theorem first_broken_row (catalog : Catalog) (failure : Failure)
    (failed : catalog.check = .error failure) :
    ∃ position row, catalog.get? position = some row ∧
      (∀ count, count ≤ position → (catalog.take count).check = .ok ()) ∧
      (catalog.take (position + 1)).check = .error failure ∧
      (∀ added, ((catalog.take (position + 1)).extend added).check = .error failure) ∧
      (∃ defect reason, failure = .malformed catalog.revision row.ordinal defect ∧
        defect.Described reason ∧ failure.message =
          s!"{catalog.revision.word} action {row.ordinal} is malformed: {reason}") ∧
      (∀ own, row.check catalog.revision position = .error own → failure = own) ∧
      (row.check catalog.revision position = .ok () → row.name ≠ "" ∧ ∃ holder,
        catalog.EarlierHolder row.name position holder ∧
        failure = .malformed catalog.revision position (.nameTaken row.name holder) ∧
        failure.message = s!"{catalog.revision.word} action {position} is malformed: " ++
          s!"name '{row.name}' already used by ordinal {holder}") := by
  obtain ⟨position, fails⟩ := Catalog.check_error_iff.mp failed
  obtain ⟨row, stored, cause⟩ := fails.cause
  refine ⟨position, row, stored, fun _ inside => Catalog.check_take_of_ok inside fails.before,
    fails.here, fun added => Catalog.check_extend_of_error added fails.here, ?_⟩
  rcases cause with own | ⟨passed, given, holder, held, rfl⟩
  · obtain ⟨defect, rfl, _⟩ := (row.check_error_iff _ _ _).mp own
    refine ⟨⟨defect, _, rfl, defect.described_reason, Failure.message_malformed _ defect⟩, ?_, ?_⟩
    · intro other refused
      exact Except.error.inj (own.symm.trans refused)
    · intro passed
      rw [own] at passed
      cases passed
  · have placed := ((row.check_exact _ _).mp passed).placed
    have said : (Failure.malformed catalog.revision position (.nameTaken row.name holder)).message =
        _ := Failure.message_malformed position _
    refine ⟨⟨_, _, by rw [placed], Defect.described_reason _, by rw [said, placed]⟩, ?_,
      fun _ => ⟨given, holder, held, rfl, said⟩⟩
    intro other refused
    rw [passed] at refused
    cases refused

theorem taken_name_reported_before_misplaced_row :
    let table := Catalog.ofDeclarations .full .nwn2
      [declare 0 "Aim" 0 .int [] "", declare 1 "Fire" 0 .void [.int] "",
        declare 2 "Aim" 1 .void [.vector] "", declare 5 "Aim" 0 .void [] ""]
    table.check = .error (.malformed .nwn2 2 (.nameTaken "Aim" 0)) ∧
    (∀ count, count ≤ 2 → (table.take count).check = .ok ()) ∧
    (∀ added, ((table.take 3).extend added).check =
      .error (.malformed .nwn2 2 (.nameTaken "Aim" 0))) ∧
    table.EarlierHolder "Aim" 2 0 ∧
    (Failure.malformed .nwn2 2 (.nameTaken "Aim" 0)).message =
      "nwn2 action 2 is malformed: name 'Aim' already used by ordinal 0" := by
  intro table
  have failed : table.check = .error (.malformed .nwn2 2 (.nameTaken "Aim" 0)) := rfl
  have refused : (table.take 3).check = .error (.malformed .nwn2 2 (.nameTaken "Aim" 0)) := rfl
  have passed : (table.take 2).check = .ok () := rfl
  obtain ⟨position, row, stored, before, here, later, _, _, clash⟩ :=
    first_broken_row table _ failed
  have low : position < 3 := by
    apply Nat.lt_of_not_le
    intro behind
    have sound := before 3 behind
    rw [refused] at sound
    cases sound
  have high : 2 ≤ position := by
    apply Nat.le_of_not_lt
    intro earlier
    rw [Catalog.check_take_of_ok (Nat.succ_le_of_lt earlier) passed] at here
    cases here
  cases (by omega : position = 2)
  cases stored
  obtain ⟨_, holder, held, same, said⟩ := clash rfl
  cases same
  refine ⟨failed, before, later, held, said.trans ?_⟩
  decide +kernel

end EngineActions
