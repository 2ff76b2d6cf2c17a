import EngineActions.Action.Call
import EngineActions.Proofs.DivergenceList
import EngineActions.Proofs.FirstBrokenRow
import EngineActions.Proofs.RowLookup

namespace EngineActions

structure Action.AnswersAs (left right : Action) : Prop where
  ordinal : left.ordinal = right.ordinal
  required : left.required = right.required
  accepted : left.accepted = right.accepted
  returns : left.returns = right.returns
  parameters : left.parameters = right.parameters
  sizes : left.sizes = right.sizes
  placeholder : left.placeholder = right.placeholder
  checkArguments : ∀ supplied, left.checkArguments supplied = right.checkArguments supplied
  argumentsSize : ∀ supplied, left.argumentsSize supplied = right.argumentsSize supplied
  stackDelta : ∀ supplied, left.stackDelta supplied = right.stackDelta supplied
  argumentOffset? : ∀ index, left.argumentOffset? index = right.argumentOffset? index
  cells : left.cells = right.cells
  returnSize : left.returnSize = right.returnSize
  check : ∀ revision position, left.check revision position = right.check revision position

-- Two tables that nothing but their prototypes can tell apart.
structure Catalog.SameButPrototypes (left right : Catalog) : Prop where
  actions : left.actions = right.actions.map (Action.restrict ⟨true, false⟩)
  count : left.count = right.count
  inspect : left.inspect = right.inspect
  check : left.check = right.check
  ordinalOf? : ∀ name, left.ordinalOf? name = right.ordinalOf? name
  actionNamed : ∀ name, left.actionNamed name =
    (right.actionNamed name).map (Action.restrict ⟨true, false⟩)

theorem orFailure_map {α β : Type} (failure : Failure) (found : Option α) (read : α → β) :
    orFailure failure (found.map read) = (orFailure failure found).map read := by
  cases found <;> rfl

namespace Action
variable {detail : Detail}

theorem answersAs_iff {left right : Action} : left.AnswersAs right ↔
    left.restrict ⟨false, false⟩ = right.restrict ⟨false, false⟩ := by
  constructor
  · intro alike
    obtain ⟨ordinal, required, _, returns, parameters, sizes, placeholder⟩ := alike
    cases left
    cases right
    simp_all [restrict]
  · intro same
    exact ⟨congrArg (·.ordinal) same, congrArg (·.required) same, congrArg (·.accepted) same,
      congrArg (·.returns) same, congrArg (·.parameters) same, congrArg (·.sizes) same,
      congrArg (·.placeholder) same, fun supplied => congrArg (·.checkArguments supplied) same,
      fun supplied => congrArg (·.argumentsSize supplied) same,
      fun supplied => congrArg (·.stackDelta supplied) same,
      fun index => congrArg (·.argumentOffset? index) same, congrArg (·.cells) same,
      congrArg (·.returnSize) same,
      fun revision position => congrArg (·.check revision position) same⟩

theorem restrict_restrict (detail other : Detail) (action : Action) :
    (action.restrict other).restrict detail = action.restrict
      ⟨detail.names && other.names, detail.prototypes && other.prototypes⟩ := by
  rcases detail with ⟨_ | _, _ | _⟩ <;> rfl

theorem restrict_answersAs (detail : Detail) (action : Action) :
    (action.restrict detail).AnswersAs action := by
  rw [answersAs_iff, restrict_restrict]
  rfl

theorem restrict_wellFormed_iff {action : Action} {position : Nat} :
    (action.restrict detail).WellFormed position ↔ action.WellFormed position := by
  rw [← check_exact _ .nwn1, (restrict_answersAs detail action).check, check_exact]

theorem restrict_name_of_names (named : detail.names = true) (action : Action) :
    (action.restrict detail).name = action.name := if_pos named

theorem restrict_name_of_nameless (nameless : detail.names = false) (action : Action) :
    (action.restrict detail).name = "" := by
  rw [restrict, nameless]
  rfl

theorem restrict_ofDeclaration (detail other : Detail) (row : Declaration) :
    (ofDeclaration other row).restrict detail = ofDeclaration
      ⟨detail.names && other.names, detail.prototypes && other.prototypes⟩ row := by
  rw [← ofDeclaration_restrict, restrict_restrict, ofDeclaration_restrict]

theorem ofDeclaration_eq_iff (detail : Detail) (first second : Declaration) :
    ofDeclaration detail first = ofDeclaration detail second ↔
      (ofDeclaration .full first).AnswersAs (ofDeclaration .full second) ∧
        (detail.names = true → first.name = second.name) ∧
        (detail.prototypes = true → first.prototype = second.prototype) := by
  rw [answersAs_iff]
  -- In each of the four details both sides are equations between the same fields.
  rcases detail with ⟨_ | _, _ | _⟩ <;> simp [ofDeclaration, restrict] <;> tauto

end Action

namespace Divergence
variable {detail : Detail}

theorem sameSignature_restrict (detail : Detail) (left right : Action) :
    (left.restrict detail).sameSignature (right.restrict detail) = left.sameSignature right := rfl

theorem ofRowLists_of_names (named : detail.names = true) (lefts rights : List Action) :
    ofRowLists (lefts.map (Action.restrict detail)) (rights.map (Action.restrict detail)) =
      (ofRowLists lefts rights).map (restrict detail) := by
  have entries : (ofRowLists lefts rights).filterMap (some ∘ restrict detail) =
      (ofRowLists lefts rights).map (restrict detail) := by rw [List.filterMap_eq_map]
  rw [← entries]
  apply ofRowLists_map
  · intro action
    rfl
  · intro action
    rfl
  · intro left right
    rw [ofRows?, ofRows?, Action.restrict_name_of_names named, Action.restrict_name_of_names named,
      sameSignature_restrict]
    split
    · rfl
    · split <;> rfl

theorem ofRowLists_of_nameless (nameless : detail.names = false) (lefts rights : List Action) :
    ofRowLists (lefts.map (Action.restrict detail)) (rights.map (Action.restrict detail)) =
      (ofRowLists lefts rights).filterMap fun divergence =>
        divergence.nameless?.map (restrict detail) := by
  apply ofRowLists_map
  · intro action
    rfl
  · intro action
    rfl
  · intro left right
    rw [ofRows?, ofRows?, Action.restrict_name_of_nameless nameless,
      Action.restrict_name_of_nameless nameless, sameSignature_restrict, if_neg (by simp)]
    by_cases same : left.sameSignature right = true
    · by_cases renamed : left.name = right.name
      · simp [renamed, same]
      · simp [renamed, same, nameless?]
    · by_cases renamed : left.name = right.name
      · simp [renamed, same, nameless?, restrict]
      · simp [renamed, same, nameless?, restrict]

end Divergence

namespace NameIndex
variable {detail : Detail}

theorem enter_restrict (named : detail.names = true) (index : NameIndex) (action : Action) :
    index.enter (action.restrict detail) = index.enter action := by
  unfold enter
  rw [Action.restrict_name_of_names named]
  rfl

theorem ofActions_restrict (named : detail.names = true) (actions : List Action) :
    ofActions (actions.map (Action.restrict detail)) = ofActions actions := by
  rw [ofActions, ofActions, List.foldl_map]
  simp only [enter_restrict named]

end NameIndex

namespace Catalog
variable {detail : Detail}

def restrict (detail : Detail) (catalog : Catalog) : Catalog :=
  { catalog with actions := catalog.actions.map (Action.restrict detail) }

theorem restrict_ofDeclarations (detail other : Detail) (revision : Revision)
    (rows : List Declaration) :
    (ofDeclarations other revision rows).restrict detail = ofDeclarations
      ⟨detail.names && other.names, detail.prototypes && other.prototypes⟩ revision rows := by
  rw [restrict, ofDeclarations, ofDeclarations, List.map_map]
  congr 1
  exact List.map_congr_left fun row _ => Action.restrict_ofDeclaration detail other row

theorem get?_restrict (detail : Detail) (catalog : Catalog) (position : Nat) :
    (catalog.restrict detail).get? position =
      (catalog.get? position).map (Action.restrict detail) := List.getElem?_map

theorem count_restrict (detail : Detail) (catalog : Catalog) :
    (catalog.restrict detail).count = catalog.count := List.length_map _

theorem revision_restrict (detail : Detail) (catalog : Catalog) :
    (catalog.restrict detail).revision = catalog.revision := rfl

theorem inspect_restrict (detail : Detail) (catalog : Catalog) :
    (catalog.restrict detail).inspect = catalog.inspect := by
  unfold inspect
  rw [count_restrict, revision_restrict]

theorem actionAt_restrict (detail : Detail) (catalog : Catalog) (ordinal : Int) :
    (catalog.restrict detail).actionAt ordinal =
      (catalog.actionAt ordinal).map (Action.restrict detail) := by
  rw [actionAt, actionAt, count_restrict, ← orFailure_map, get?_restrict]
  congr 1
  split <;> rfl

section Names
variable (named : detail.names = true)
include named

theorem checkRows_restrict (revision : Revision) (seen : NameIndex) (position : Nat)
    (rows : List Action) :
    checkRows revision seen position (rows.map (Action.restrict detail)) =
      checkRows revision seen position rows := by
  induction rows generalizing seen position with
  | nil => rfl
  | cons row rows ih =>
    rw [List.map_cons, checkRows, checkRows, NameIndex.enter_restrict named, ih,
      (Action.restrict_answersAs detail row).check, Action.restrict_name_of_names named,
      (Action.restrict_answersAs detail row).ordinal]

theorem check_restrict (catalog : Catalog) : (catalog.restrict detail).check = catalog.check :=
  checkRows_restrict named catalog.revision .empty 0 catalog.actions

theorem ordinalOf?_restrict (catalog : Catalog) (name : String) :
    (catalog.restrict detail).ordinalOf? name = catalog.ordinalOf? name := by
  rw [ordinalOf?_eq_ofActions, ordinalOf?_eq_ofActions, restrict,
    NameIndex.ofActions_restrict named]

theorem actionNamed_restrict (catalog : Catalog) (name : String) :
    (catalog.restrict detail).actionNamed name =
      (catalog.actionNamed name).map (Action.restrict detail) := by
  rw [actionNamed, actionNamed, ordinalOf?_restrict named, ← orFailure_map, Option.map_bind]
  congr 2
  funext ordinal
  exact get?_restrict detail catalog ordinal

theorem divergences_restrict (left right : Catalog) :
    (left.restrict detail).divergences (right.restrict detail) =
      (left.divergences right).map (Divergence.restrict detail) :=
  Divergence.ofRowLists_of_names named left.actions right.actions

end Names

theorem sameButPrototypes_restrict (catalog : Catalog) :
    (catalog.restrict ⟨true, false⟩).SameButPrototypes catalog where
  actions := rfl
  count := count_restrict _ catalog
  inspect := inspect_restrict _ catalog
  check := check_restrict rfl catalog
  ordinalOf? := ordinalOf?_restrict rfl catalog
  actionNamed := actionNamed_restrict rfl catalog

end Catalog

-- A clash of names may come before the failure that is there without them, and be the only one.
structure Catalog.NamesOnlyClash (nameless named : Catalog) : Prop where
  passes : named.check = .ok () → nameless.check = .ok ()
  fails : ∀ failure, nameless.check = .error failure → ∃ position earlier other,
    nameless.FailsAt position failure ∧ named.FailsAt earlier other ∧
      named.check = .error other ∧ (earlier < position ∨ earlier = position ∧ other = failure)
  clashes : nameless.check = .ok () → ∀ failure, named.check = .error failure →
    ∃ position row holder, named.get? position = some row ∧
      failure = .malformed named.revision row.ordinal (.nameTaken row.name holder)

namespace Catalog
variable {detail : Detail} {catalog : Catalog} {position : Nat} {failure : Failure}

theorem take_restrict (detail : Detail) (catalog : Catalog) (count : Nat) :
    (catalog.restrict detail).take count = (catalog.take count).restrict detail := by
  simp [take, restrict, List.map_take]

section Nameless
variable (nameless : detail.names = false)
include nameless

theorem wellFormed_restrict_iff : (catalog.restrict detail).WellFormed ↔
    ∀ position row, catalog.get? position = some row → row.WellFormed position := by
  constructor
  · intro valid position row stored
    apply Action.restrict_wellFormed_iff.mp
    apply valid.rows position
    rw [get?_restrict, stored]
    rfl
  · intro sound
    refine ⟨?_, ?_⟩
    · intro position row stored
      rw [get?_restrict] at stored
      obtain ⟨full, found, rfl⟩ := Option.map_eq_some_iff.mp stored
      exact Action.restrict_wellFormed_iff.mpr (sound position full found)
    · intro first second left right storedLeft _ _ given
      rw [get?_restrict] at storedLeft
      obtain ⟨full, _, rfl⟩ := Option.map_eq_some_iff.mp storedLeft
      exact absurd (Action.restrict_name_of_nameless nameless full) given

theorem check_restrict_of_check (sound : catalog.check = .ok ()) :
    (catalog.restrict detail).check = .ok () :=
  (check_exact _).mpr ((wellFormed_restrict_iff nameless).mpr ((check_exact _).mp sound).rows)

theorem FailsAt.row_of_nameless (fails : (catalog.restrict detail).FailsAt position failure) :
    ∃ row, catalog.get? position = some row ∧
      row.check catalog.revision position = .error failure := by
  obtain ⟨restricted, stored, failed⟩ := fails.row
  rw [get?_restrict] at stored
  obtain ⟨row, found, rfl⟩ := Option.map_eq_some_iff.mp stored
  refine ⟨row, found, ?_⟩
  rcases (checkRows_single_error_iff _ _ _ _ _).mp failed with own | ⟨_, holder, held, _⟩
  · rwa [(Action.restrict_answersAs detail row).check] at own
  · rw [Action.restrict_name_of_nameless nameless, NameIndex.ofActions_empty] at held
    cases held

theorem namesOnlyClash_restrict (catalog : Catalog) :
    (catalog.restrict detail).NamesOnlyClash catalog := by
  refine ⟨check_restrict_of_check nameless, ?_, ?_⟩
  · intro failure failed
    obtain ⟨position, fails⟩ := check_error_iff.mp failed
    have shorter := fails.here
    rw [take_restrict] at shorter
    -- The rows up to this one cannot all pass with names either, so one of them is first.
    cases verdict : (catalog.take (position + 1)).check with
    | ok =>
      rw [check_restrict_of_check nameless verdict] at shorter
      cases shorter
    | error other =>
      obtain ⟨earlier, inside, first⟩ := exists_failsAt verdict
      refine ⟨position, earlier, other, fails, first, check_of_take verdict, ?_⟩
      rcases Nat.lt_succ_iff_lt_or_eq.mp inside with before | rfl
      · exact .inl before
      · obtain ⟨row, stored, own⟩ := fails.row_of_nameless nameless
        obtain ⟨_, storedSame, refused⟩ := first.row
        cases Option.some.inj (stored.symm.trans storedSame)
        rcases (checkRows_single_error_iff _ _ _ _ _).mp refused with same | ⟨passed, _⟩
        · exact .inr ⟨rfl, Except.error.inj (same.symm.trans own)⟩
        · rw [own] at passed
          cases passed
  · intro passes failure failed
    obtain ⟨position, fails⟩ := check_error_iff.mp failed
    obtain ⟨row, stored, refused⟩ := fails.row
    have sound := (wellFormed_restrict_iff nameless).mp ((check_exact _).mp passes) position row
      stored
    rcases (checkRows_single_error_iff _ _ _ _ _).mp refused with own | ⟨_, holder, _, rfl⟩
    · rw [(row.check_exact catalog.revision position).mpr sound] at own
      cases own
    · exact ⟨position, row, holder, stored, rfl⟩

theorem divergences_nameless (left right : Catalog) :
    (left.restrict detail).divergences (right.restrict detail) =
      (left.divergences right).filterMap fun divergence =>
        divergence.nameless?.map (Divergence.restrict detail) :=
  Divergence.ofRowLists_of_nameless nameless left.actions right.actions

end Nameless

end Catalog

-- A table that leaves texts out is the full one without them. Prototypes change no answer beyond
-- that, and names change the check by clashes and the divergences by renamed rows only.
theorem detail_projection_exact (revision : Revision) (rows : List Declaration) :
    (∀ detail : Detail,
      (∀ position, (Catalog.ofDeclarations detail revision rows).get? position =
        ((Catalog.ofDeclarations .full revision rows).get? position).map
          (Action.restrict detail)) ∧
      (∀ ordinal, (Catalog.ofDeclarations detail revision rows).actionAt ordinal =
        ((Catalog.ofDeclarations .full revision rows).actionAt ordinal).map
          (Action.restrict detail)) ∧
      (∀ row, (Action.ofDeclaration detail row).AnswersAs (Action.ofDeclaration .full row)) ∧
      ∀ first second, Action.ofDeclaration detail first = Action.ofDeclaration detail second ↔
        (Action.ofDeclaration .full first).AnswersAs (Action.ofDeclaration .full second) ∧
          (detail.names = true → first.name = second.name) ∧
          (detail.prototypes = true → first.prototype = second.prototype)) ∧
    (∀ names : Bool,
      (Catalog.ofDeclarations ⟨names, false⟩ revision rows).SameButPrototypes
        (Catalog.ofDeclarations ⟨names, true⟩ revision rows) ∧
      ∀ otherRevision otherRows,
        (Catalog.ofDeclarations ⟨names, false⟩ revision rows).divergences
            (Catalog.ofDeclarations ⟨names, false⟩ otherRevision otherRows) =
          ((Catalog.ofDeclarations ⟨names, true⟩ revision rows).divergences
            (Catalog.ofDeclarations ⟨names, true⟩ otherRevision otherRows)).map
              (Divergence.restrict ⟨true, false⟩)) ∧
    ∀ prototypes : Bool,
      (Catalog.ofDeclarations ⟨false, prototypes⟩ revision rows).NamesOnlyClash
        (Catalog.ofDeclarations ⟨true, prototypes⟩ revision rows) ∧
      ∀ otherRevision otherRows,
        (Catalog.ofDeclarations ⟨false, prototypes⟩ revision rows).divergences
            (Catalog.ofDeclarations ⟨false, prototypes⟩ otherRevision otherRows) =
          ((Catalog.ofDeclarations ⟨true, prototypes⟩ revision rows).divergences
            (Catalog.ofDeclarations ⟨true, prototypes⟩ otherRevision otherRows)).filterMap
              fun divergence => divergence.nameless?.map (Divergence.restrict ⟨false, true⟩) := by
  refine ⟨?_, ?_, ?_⟩
  · intro detail
    have whole : (Catalog.ofDeclarations .full revision rows).restrict detail =
        Catalog.ofDeclarations detail revision rows := by
      rw [Catalog.restrict_ofDeclarations]
      simp [Detail.full]
    rw [← whole]
    refine ⟨Catalog.get?_restrict detail _, Catalog.actionAt_restrict detail _, ?_,
      Action.ofDeclaration_eq_iff detail⟩
    intro row
    rw [← Action.ofDeclaration_restrict]
    exact Action.restrict_answersAs detail _
  · intro names
    have without : ∀ revision rows, (Catalog.ofDeclarations ⟨names, true⟩ revision rows).restrict
        ⟨true, false⟩ = Catalog.ofDeclarations ⟨names, false⟩ revision rows :=
      Catalog.restrict_ofDeclarations ⟨true, false⟩ ⟨names, true⟩
    simp only [← without]
    exact ⟨Catalog.sameButPrototypes_restrict _, fun _ _ => Catalog.divergences_restrict rfl _ _⟩
  · intro prototypes
    have without : ∀ revision rows,
        (Catalog.ofDeclarations ⟨true, prototypes⟩ revision rows).restrict ⟨false, true⟩ =
          Catalog.ofDeclarations ⟨false, prototypes⟩ revision rows :=
      Catalog.restrict_ofDeclarations ⟨false, true⟩ ⟨true, prototypes⟩
    simp only [← without]
    exact ⟨Catalog.namesOnlyClash_restrict rfl _, fun _ _ => Catalog.divergences_nameless rfl _ _⟩

theorem retired_names_clash_only_where_carried :
    let table := fun names rows => Catalog.ofDeclarations ⟨names, true⟩ .nwn1 rows
    let one := [Declaration.retired 0 ""]
    let two := [Declaration.retired 0 "", Declaration.retired 1 ""]
    let three := two ++ [declare 5 "Aim" 1 .int [.vector] ""]
    (table true one).check = .ok () ∧ (table false one).check = .ok () ∧
      (table false two).check = .ok () ∧
      (∃ position row holder, (table true two).get? position = some row ∧
        (table true two).check =
          .error (.malformed .nwn1 row.ordinal (.nameTaken row.name holder))) ∧
      (table false three).check = .error (.malformed .nwn1 5 (.misplaced 2)) ∧
      ∃ position earlier other, (table false three).FailsAt position
          (.malformed .nwn1 5 (.misplaced 2)) ∧
        (table true three).FailsAt earlier other ∧ earlier ≤ position := by
  intro table one two three
  have verdict := fun rows => ((detail_projection_exact .nwn1 rows).2.2 true).1
  have passed : (table true one).check = .ok () := rfl
  have nameless : (table false two).check = .ok () := rfl
  have misplaced : (table false three).check = .error (.malformed .nwn1 5 (.misplaced 2)) := rfl
  refine ⟨passed, (verdict one).passes passed, nameless, ?_, misplaced, ?_⟩
  · obtain ⟨position, row, holder, stored, clash⟩ := (verdict two).clashes nameless _ rfl
    exact ⟨position, row, holder, stored, congrArg Except.error clash⟩
  · obtain ⟨position, earlier, other, without, first, _, order⟩ :=
      (verdict three).fails _ misplaced
    exact ⟨position, earlier, other, without, first, by omega⟩

end EngineActions
