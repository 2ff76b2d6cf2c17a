import EngineActions.Catalog
import EngineActions.Catalog.Check
import EngineActions.Proofs.FirstDefect
import Mathlib.Data.List.Induction

namespace EngineActions

structure LastNamed (actions : List Action) (name : String) (position : Nat) (action : Action) :
    Prop where
  stored : actions[position]? = some action
  named : action.name = name
  last : ∀ later other, position < later → actions[later]? = some other → other.name ≠ name

theorem getElem?_concat_eq_some_iff {actions : List Action} {new action : Action} {position : Nat} :
    (actions ++ [new])[position]? = some action ↔
      actions[position]? = some action ∨ position = actions.length ∧ new = action := by
  rcases Nat.lt_trichotomy position actions.length with before | rfl | behind
  · rw [List.getElem?_append_left before]
    simp [Nat.ne_of_lt before]
  · simp
  · rw [List.getElem?_eq_none (by rw [List.length_append]; exact behind),
      List.getElem?_eq_none (Nat.le_of_lt behind)]
    simp [Nat.ne_of_gt behind]

theorem lastNamed_concat_named {actions : List Action} {new action : Action} {position : Nat} :
    LastNamed (actions ++ [new]) new.name position action ↔
      position = actions.length ∧ new = action := by
  constructor
  · intro last
    rcases getElem?_concat_eq_some_iff.mp last.stored with earlier | final
    · have before : position < actions.length := (List.getElem?_eq_some_iff.mp earlier).1
      exact absurd rfl (last.last actions.length new before (by simp))
    · exact final
  · rintro ⟨rfl, rfl⟩
    refine ⟨by simp, rfl, ?_⟩
    intro later other behind stored
    rw [List.getElem?_eq_none (by rw [List.length_append]; exact behind)] at stored
    cases stored

theorem lastNamed_concat_other {actions : List Action} {new action : Action} {name : String}
    {position : Nat} (unlike : new.name ≠ name) :
    LastNamed (actions ++ [new]) name position action ↔
      LastNamed actions name position action := by
  constructor
  · intro last
    rcases getElem?_concat_eq_some_iff.mp last.stored with earlier | ⟨_, rfl⟩
    · refine ⟨earlier, last.named, ?_⟩
      intro later other behind stored
      exact last.last later other behind (getElem?_concat_eq_some_iff.mpr (.inl stored))
    · exact absurd last.named unlike
  · intro last
    refine ⟨getElem?_concat_eq_some_iff.mpr (.inl last.stored), last.named, ?_⟩
    intro later other behind stored
    rcases getElem?_concat_eq_some_iff.mp stored with earlier | ⟨_, rfl⟩
    · exact last.last later other behind earlier
    · exact unlike

namespace NameIndex
variable {index : NameIndex} {action : Action} {actions : List Action} {name : String}

theorem ofActions_concat (actions : List Action) (action : Action) :
    ofActions (actions ++ [action]) = (ofActions actions).enter action := by
  rw [ofActions, List.foldl_append]
  rfl

theorem ofActions_eq_none_iff :
    ofActions actions name = none ↔ ∀ action ∈ actions, action.name = name → name = "" := by
  induction actions using List.reverseRecOn with
  | nil => simp [ofActions, empty]
  | append_singleton actions action ih =>
    rw [ofActions_concat, enter_eq_none_iff, ih]
    simp only [List.forall_mem_append, List.forall_mem_singleton]
    exact and_comm

theorem ofActions_empty (actions : List Action) : ofActions actions "" = none := by
  rw [ofActions_eq_none_iff]
  intro action _ named
  rfl

theorem ofActions_eq_some_iff {ordinal : Nat} : ofActions actions name = some ordinal ↔
    name ≠ "" ∧ ∃ position action, LastNamed actions name position action ∧
      action.ordinal = ordinal := by
  by_cases blank : name = ""
  · subst blank
    simp [ofActions_empty]
  · -- From the last row backwards, as the last row with the name decides.
    induction actions using List.reverseRecOn with
    | nil =>
      constructor
      · intro found
        cases found
      · rintro ⟨_, position, action, last, _⟩
        cases last.stored
    | append_singleton actions new ih =>
      rw [ofActions_concat]
      by_cases named : new.name = name
      · subst named
        simp [enter_named blank, blank, lastNamed_concat_named]
      · rw [enter_other named, ih]
        simp only [lastNamed_concat_other named]

end NameIndex

-- The sums are counted without a word size, so a sound row's sizes never went once around.
structure Declaration.Sound (row : Declaration) (position : Nat) : Prop where
  placed : row.ordinal = position
  required_le : row.required ≤ row.parameters.length
  parameters_le : row.parameters.length ≤ 13
  no_void : .void ∉ row.parameters
  sizes_length : row.sizes.length = row.parameters.length
  sizes_sum : ∀ index size, row.sizes[index]? = some size →
    size.toNat = stackBytes (row.parameters.take (index + 1))

structure Declaration.AllSound (detail : Detail) (rows : List Declaration) : Prop where
  sound : ∀ (position : Nat) (row : Declaration), rows[position]? = some row →
    row.Sound position
  distinct : detail.names = true → ∀ (first second : Nat) (left right : Declaration),
    rows[first]? = some left → rows[second]? = some right → left.name = right.name →
      left.name ≠ "" → first = second

theorem Action.ofDeclaration_wellFormed_iff (detail : Detail) (row : Declaration)
    (position : Nat) :
    (ofDeclaration detail row).WellFormed position ↔ row.Sound position := by
  constructor
  · rintro ⟨placed, least, most, noVoid, sizes⟩
    obtain ⟨lengths, sums⟩ := (eq_cumulativeSizes_iff most _).mp sizes
    exact ⟨placed, least, most, noVoid, lengths, sums⟩
  · rintro ⟨placed, least, most, noVoid, lengths, sums⟩
    exact ⟨placed, least, most, noVoid, (eq_cumulativeSizes_iff most _).mpr ⟨lengths, sums⟩⟩

namespace Catalog

theorem wellFormed_ofDeclarations_iff (detail : Detail) (revision : Revision)
    (rows : List Declaration) :
    (ofDeclarations detail revision rows).WellFormed ↔ Declaration.AllSound detail rows := by
  constructor
  · rintro ⟨sound, names⟩
    refine ⟨?_, ?_⟩
    · intro position row stored
      apply (Action.ofDeclaration_wellFormed_iff detail row position).mp
      apply sound position
      rw [get?_ofDeclarations, stored, Option.map_some]
    · intro named first second left right storedLeft storedRight same given
      apply names first second (.ofDeclaration detail left) (.ofDeclaration detail right)
      · rw [get?_ofDeclarations, storedLeft, Option.map_some]
      · rw [get?_ofDeclarations, storedRight, Option.map_some]
      · simpa [Action.ofDeclaration, named] using same
      · simpa [Action.ofDeclaration, named] using given
  · rintro ⟨sound, names⟩
    refine ⟨?_, ?_⟩
    · intro position action stored
      rw [get?_ofDeclarations] at stored
      obtain ⟨row, found, rfl⟩ := Option.map_eq_some_iff.mp stored
      exact (Action.ofDeclaration_wellFormed_iff detail row position).mpr (sound position row found)
    · intro first second left right storedLeft storedRight same given
      rw [get?_ofDeclarations] at storedLeft storedRight
      obtain ⟨leftRow, foundLeft, rfl⟩ := Option.map_eq_some_iff.mp storedLeft
      obtain ⟨rightRow, foundRight, rfl⟩ := Option.map_eq_some_iff.mp storedRight
      by_cases named : detail.names = true
      · simp only [Action.ofDeclaration, named, if_true] at same given
        exact names named first second leftRow rightRow foundLeft foundRight same given
      · simp [Action.ofDeclaration, named] at given

theorem ofDeclarations_prototypes (names : Bool) (revision : Revision) (rows : List Declaration)
    (prototypes : Nat → String) :
    ofDeclarations ⟨names, false⟩ revision (rows.mapIdx fun position row =>
      { row with prototype := prototypes position }) =
        ofDeclarations ⟨names, false⟩ revision rows := by
  unfold ofDeclarations
  congr 1
  apply List.ext_getElem?
  intro position
  rw [List.getElem?_map, List.getElem?_mapIdx, List.getElem?_map, Option.map_map]
  rfl

theorem allSound_iff_wellFormed (detail : Detail) (rows : List Declaration) :
    Declaration.AllSound detail rows ↔
      (ofDeclarations ⟨detail.names, false⟩ .nwn1 rows).WellFormed := by
  rw [wellFormed_ofDeclarations_iff]
  constructor
  · rintro ⟨sound, distinct⟩
    exact ⟨sound, distinct⟩
  · rintro ⟨sound, distinct⟩
    exact ⟨sound, distinct⟩

-- A table passes exactly if each row is sound where it stands and no two rows share a name. The
-- revision and the prototypes play no part.
theorem table_check_exact (detail : Detail) (revision : Revision) (rows : List Declaration) :
    ((ofDeclarations detail revision rows).check = .ok () ↔
      Declaration.AllSound detail rows) ∧
    ∀ (other : Revision) (prototypes : Nat → String),
      ((ofDeclarations detail other (rows.mapIdx fun position row =>
        { row with prototype := prototypes position })).check = .ok () ↔
          (ofDeclarations detail revision rows).check = .ok ()) := by
  have verdict : ∀ (target : Revision) (written : List Declaration),
      (ofDeclarations detail target written).check = .ok () ↔
        Declaration.AllSound detail written := fun target written =>
    (check_exact _).trans (wellFormed_ofDeclarations_iff detail target written)
  refine ⟨verdict revision rows, ?_⟩
  intro other prototypes
  rw [verdict, verdict, allSound_iff_wellFormed, allSound_iff_wellFormed,
    ofDeclarations_prototypes]

example : (ofDeclarations ⟨true, true⟩ .nwn1 [.retired 0 "", .retired 1 ""]).check =
    .error (.malformed .nwn1 1 (.nameTaken placeholderName 0)) := rfl

example : (ofDeclarations ⟨false, true⟩ .nwn1 [.retired 0 "", .retired 1 ""]).check = .ok () := rfl

end Catalog
end EngineActions
