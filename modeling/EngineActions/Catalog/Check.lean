import EngineActions.Action.Check
import EngineActions.Catalog

namespace EngineActions.Catalog

-- A row's own defect is reported before a clash of its name; `seen` holds the names of the rows
-- already found sound.
def checkRows (revision : Revision) (seen : NameIndex) (position : Nat) :
    List Action → Except Failure Unit
  | [] => .ok ()
  | action :: rest => do
    action.check revision position
    match seen action.name with
    | some holder => .error (.malformed revision action.ordinal (.nameTaken action.name holder))
    | none => checkRows revision (seen.enter action) (position + 1) rest

def check (catalog : Catalog) : Except Failure Unit :=
  checkRows catalog.revision .empty 0 catalog.actions

-- What the check decides: every row is sound where it stands, and no two rows share a name.
structure WellFormed (catalog : Catalog) : Prop where
  rows : ∀ position action, catalog.get? position = some action → action.WellFormed position
  names : ∀ first second left right, catalog.get? first = some left →
    catalog.get? second = some right → left.name = right.name → left.name ≠ "" → first = second

theorem checkRows_cons_ok_iff (revision : Revision) (seen : NameIndex) (position : Nat)
    (action : Action) (rest : List Action) :
    checkRows revision seen position (action :: rest) = .ok () ↔
      action.WellFormed position ∧ seen action.name = none ∧
        checkRows revision (seen.enter action) (position + 1) rest = .ok () := by
  rw [checkRows, ← action.check_exact revision position]
  cases sound : action.check revision position with
  | error failure => simp [bind, Except.bind]
  | ok =>
    cases held : seen action.name with
    | some holder => simp [bind, Except.bind]
    | none => simp [bind, Except.bind]

theorem checkRows_ok_iff (revision : Revision) (seen : NameIndex) (position : Nat)
    (rows : List Action) : checkRows revision seen position rows = .ok () ↔
      (∀ (offset : Nat) (action : Action), rows[offset]? = some action →
        action.WellFormed (position + offset)) ∧
      (rows.Pairwise fun earlier later => earlier.name = later.name → later.name = "") ∧
      ∀ action ∈ rows, seen action.name = none := by
  -- A row's name joins the names taken, so the statement has to be about any of them.
  induction rows generalizing seen position with
  | nil => simp [checkRows]
  | cons first rest ih =>
    rw [checkRows_cons_ok_iff, ih, List.pairwise_cons, List.forall_mem_cons]
    simp only [NameIndex.enter_eq_none_iff]
    constructor
    · rintro ⟨sound, free, rows, distinct, names⟩
      refine ⟨?_, ⟨fun later member => (names later member).1, distinct⟩, free,
        fun later member => (names later member).2⟩
      intro offset action stored
      cases offset with
      | zero =>
        cases Option.some.inj stored
        exact sound
      | succ offset =>
        rw [Nat.add_succ, ← Nat.succ_add]
        exact rows offset action stored
    · rintro ⟨rows, ⟨unlike, distinct⟩, free, names⟩
      refine ⟨rows 0 first rfl, free, ?_, distinct,
        fun later member => ⟨unlike later member, names later member⟩⟩
      intro offset action stored
      have sound := rows (offset + 1) action stored
      rwa [Nat.add_succ, ← Nat.succ_add] at sound

theorem pairwise_names_iff (actions : List Action) :
    (actions.Pairwise fun earlier later => earlier.name = later.name → later.name = "") ↔
      ∀ (first second : Nat) (left right : Action), actions[first]? = some left →
        actions[second]? = some right → left.name = right.name → left.name ≠ "" →
          first = second := by
  rw [List.pairwise_iff_getElem]
  constructor
  · intro distinct first second left right storedLeft storedRight same given
    obtain ⟨insideLeft, rfl⟩ := List.getElem?_eq_some_iff.mp storedLeft
    obtain ⟨insideRight, rfl⟩ := List.getElem?_eq_some_iff.mp storedRight
    rcases Nat.lt_trichotomy first second with before | equal | behind
    · exact absurd (same.trans (distinct _ _ insideLeft insideRight before same)) given
    · exact equal
    · exact absurd (distinct _ _ insideRight insideLeft behind same.symm) given
  · intro names first second insideFirst insideSecond before same
    apply Decidable.byContradiction
    intro given
    have equal := names first second _ _ (List.getElem?_eq_getElem insideFirst)
      (List.getElem?_eq_getElem insideSecond) same (same ▸ given)
    omega

theorem check_exact (catalog : Catalog) : catalog.check = .ok () ↔ catalog.WellFormed := by
  rw [check, checkRows_ok_iff, pairwise_names_iff]
  constructor
  · rintro ⟨rows, names, _⟩
    refine ⟨?_, names⟩
    intro position action stored
    have sound := rows position action stored
    rwa [Nat.zero_add] at sound
  · rintro ⟨rows, names⟩
    refine ⟨?_, names, fun _ _ => rfl⟩
    intro position action stored
    rw [Nat.zero_add]
    exact rows position action stored

end EngineActions.Catalog
