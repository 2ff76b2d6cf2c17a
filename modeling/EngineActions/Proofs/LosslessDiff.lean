import EngineActions.Proofs.Interchange
import Mathlib.Data.List.Basic

namespace EngineActions

namespace Action.Agree

theorem refl (action : Action) : action.Agree action := ⟨rfl, rfl, rfl, rfl, rfl, rfl⟩

theorem of_common {common left right : Action} (toLeft : common.Agree left)
    (toRight : common.Agree right) : left.Agree right where
  ordinal := toLeft.ordinal.symm.trans toRight.ordinal
  name := toLeft.name.symm.trans toRight.name
  required := toLeft.required.symm.trans toRight.required
  returns := toLeft.returns.symm.trans toRight.returns
  parameters := toLeft.parameters.symm.trans toRight.parameters
  sizes := toLeft.sizes.symm.trans toRight.sizes

end Action.Agree

theorem Divergence.right?_of_between? {left right : Option Action} {divergence : Divergence}
    (found : between? left right = some divergence) : divergence.right? = right := by
  cases left with
  | none =>
    rw [between?_none_left] at found
    obtain ⟨row, rfl, rfl⟩ := Option.map_eq_some_iff.mp found
    rfl
  | some left =>
    cases right with
    | none =>
      cases Option.some.inj found
      rfl
    | some right =>
      rw [between?, ofRows?] at found
      split at found
      · cases Option.some.inj found
        rfl
      · split at found
        · cases found
        · cases Option.some.inj found
          rfl

namespace Catalog
variable {left right first second : Catalog} {position : Nat} {divergence : Divergence}

theorem ordinal_of_divergenceAt? (validLeft : left.WellFormed) (validRight : right.WellFormed)
    (found : left.divergenceAt? right position = some divergence) :
    divergence.ordinal = position := by
  unfold divergenceAt? at found
  cases storedLeft : left.get? position with
  | none =>
    rw [storedLeft, Divergence.between?_none_left] at found
    obtain ⟨row, storedRight, rfl⟩ := Option.map_eq_some_iff.mp found
    exact (validRight.rows position row storedRight).placed
  | some row =>
    have placed := (validLeft.rows position row storedLeft).placed
    cases storedRight : right.get? position with
    | none =>
      rw [storedLeft, storedRight] at found
      cases Option.some.inj found
      exact placed
    | some other =>
      rw [storedLeft, storedRight] at found
      exact (Divergence.ordinal_of_ofRows? found).trans placed

theorem divergenceAt?_eq_some_iff (validLeft : left.WellFormed) (validRight : right.WellFormed) :
    left.divergenceAt? right position = some divergence ↔
      divergence ∈ left.divergences right ∧ divergence.ordinal = position := by
  constructor
  · intro found
    exact ⟨mem_divergences_iff.mpr ⟨position, found⟩,
      ordinal_of_divergenceAt? validLeft validRight found⟩
  · rintro ⟨listed, rfl⟩
    obtain ⟨held, found⟩ := mem_divergences_iff.mp listed
    rw [ordinal_of_divergenceAt? validLeft validRight found]
    exact found

theorem agree_of_divergenceAt? (validLeft : left.WellFormed) (validRight : right.WellFormed)
    {row : Action} (storedLeft : left.get? position = some row)
    (silent : left.divergenceAt? right position = none) :
    ∃ other, right.get? position = some other ∧ row.Agree other := by
  cases storedRight : right.get? position with
  | none =>
    rw [divergenceAt?, storedLeft, storedRight] at silent
    cases silent
  | some other =>
    refine ⟨other, rfl, agree_of_silent validLeft validRight storedLeft storedRight ?_⟩
    intro divergence listed stated
    have found := (divergenceAt?_eq_some_iff validLeft validRight).mpr ⟨listed, stated⟩
    rw [silent] at found
    cases found

theorem get?_of_divergences_eq (validLeft : left.WellFormed) (validFirst : first.WellFormed)
    (validSecond : second.WellFormed) (same : left.divergences first = left.divergences second)
    (position : Nat) :
    (first.get? position = none ↔ second.get? position = none) ∧
      ∀ firstRow secondRow, first.get? position = some firstRow →
        second.get? position = some secondRow → firstRow.Agree secondRow := by
  have differ : left.divergenceAt? first position = left.divergenceAt? second position := by
    apply Option.ext
    intro divergence
    rw [divergenceAt?_eq_some_iff validLeft validFirst,
      divergenceAt?_eq_some_iff validLeft validSecond, same]
  cases found : left.divergenceAt? first position with
  | some divergence =>
    -- The list shows the right row, or that there is none.
    have shown : first.get? position = second.get? position :=
      (Divergence.right?_of_between? found).symm.trans
        (Divergence.right?_of_between? (differ.symm.trans found))
    refine ⟨by rw [shown], ?_⟩
    intro firstRow secondRow storedFirst storedSecond
    rw [shown, storedSecond] at storedFirst
    cases Option.some.inj storedFirst
    exact .refl _
  | none =>
    -- Where the list is silent, either right row is like the left one.
    have silent := differ.symm.trans found
    cases storedLeft : left.get? position with
    | none =>
      rw [divergenceAt?, storedLeft, Divergence.between?_none_left] at found silent
      simp [Option.map_eq_none_iff.mp found, Option.map_eq_none_iff.mp silent]
    | some row =>
      obtain ⟨firstRow, storedFirst, toFirst⟩ :=
        agree_of_divergenceAt? validLeft validFirst storedLeft found
      obtain ⟨secondRow, storedSecond, toSecond⟩ :=
        agree_of_divergenceAt? validLeft validSecond storedLeft silent
      refine ⟨by simp [storedFirst, storedSecond], ?_⟩
      rintro _ _ heldFirst heldSecond
      cases Option.some.inj (storedFirst.symm.trans heldFirst)
      cases Option.some.inj (storedSecond.symm.trans heldSecond)
      exact .of_common toFirst toSecond

theorem count_eq_of_get? (ends : ∀ position, first.get? position = none ↔
    second.get? position = none) : first.count = second.count := by
  simp only [get?, List.getElem?_eq_none_iff] at ends
  exact Nat.le_antisymm ((ends second.count).mpr (Nat.le_refl _))
    ((ends first.count).mp (Nat.le_refl _))

end Catalog

-- The left table and the list determine the right table of the same build: how many rows it has
-- and, at every ordinal, all that the list compares.
theorem divergences_determine (detail : Detail)
    (leftRevision firstRevision secondRevision : Revision)
    (leftRows firstRows secondRows : List Declaration)
    (soundLeft : (Catalog.ofDeclarations detail leftRevision leftRows).check = .ok ())
    (soundFirst : (Catalog.ofDeclarations detail firstRevision firstRows).check = .ok ())
    (soundSecond : (Catalog.ofDeclarations detail secondRevision secondRows).check = .ok ())
    (same : (Catalog.ofDeclarations detail leftRevision leftRows).divergences
        (Catalog.ofDeclarations detail firstRevision firstRows) =
      (Catalog.ofDeclarations detail leftRevision leftRows).divergences
        (Catalog.ofDeclarations detail secondRevision secondRows)) :
    (Catalog.ofDeclarations detail firstRevision firstRows).count =
      (Catalog.ofDeclarations detail secondRevision secondRows).count ∧
    ∀ position first second,
      (Catalog.ofDeclarations detail firstRevision firstRows).get? position = some first →
      (Catalog.ofDeclarations detail secondRevision secondRows).get? position = some second →
      first.Agree second ∧ (detail.names = true → first.placeholder = second.placeholder) := by
  have rows := Catalog.get?_of_divergences_eq ((Catalog.check_exact _).mp soundLeft)
    ((Catalog.check_exact _).mp soundFirst) ((Catalog.check_exact _).mp soundSecond) same
  refine ⟨Catalog.count_eq_of_get? fun position => (rows position).1, ?_⟩
  intro position first second storedFirst storedSecond
  have agree := (rows position).2 first second storedFirst storedSecond
  refine ⟨agree, ?_⟩
  intro named
  rw [Catalog.get?_ofDeclarations] at storedFirst storedSecond
  obtain ⟨firstRow, _, rfl⟩ := Option.map_eq_some_iff.mp storedFirst
  obtain ⟨secondRow, _, rfl⟩ := Option.map_eq_some_iff.mp storedSecond
  exact agree.placeholder_eq named

theorem prototype_hidden_from_divergences :
    let left := Catalog.ofDeclarations .full .nwn1
      [declare 0 "Fire" 0 .void [] "", declare 1 "Aim" 1 .int [.vector] "old"]
    let right := fun prototype => Catalog.ofDeclarations .full .nwn2
      [declare 0 "Shoot" 0 .void [] "", declare 1 "Aim" 1 .int [.vector] prototype,
        declare 2 "Rest" 0 .void [.action] ""]
    left.divergences (right "new") = left.divergences (right "newer") ∧
      (right "new").count = (right "newer").count ∧
      ∃ first second, (right "new").get? 1 = some first ∧ (right "newer").get? 1 = some second ∧
        first ≠ second ∧ first.Agree second := by
  intro left right
  have same : left.divergences (right "new") = left.divergences (right "newer") := rfl
  obtain ⟨counts, rows⟩ := divergences_determine .full .nwn1 .nwn2 .nwn2 _ _ _ rfl rfl rfl same
  exact ⟨same, counts, _, _, rfl, rfl, by decide, (rows 1 _ _ rfl rfl).1⟩

namespace Action

-- Prototypes, stored sizes and the placeholder mark are not compared.
structure Alike (left right : Action) : Prop where
  name : left.name = right.name
  required : left.required = right.required
  returns : left.returns = right.returns
  parameters : left.parameters = right.parameters

instance (left right : Action) : Decidable (left.Alike right) :=
  decidable_of_iff
    (left.name = right.name ∧ left.required = right.required ∧ left.returns = right.returns ∧
      left.parameters = right.parameters)
    ⟨fun ⟨name, required, returns, parameters⟩ => ⟨name, required, returns, parameters⟩,
      fun ⟨name, required, returns, parameters⟩ => ⟨name, required, returns, parameters⟩⟩

theorem Alike.symm {left right : Action} (alike : left.Alike right) : right.Alike left :=
  ⟨alike.name.symm, alike.required.symm, alike.returns.symm, alike.parameters.symm⟩

theorem alike_comm (left right : Action) : left.Alike right ↔ right.Alike left :=
  ⟨Alike.symm, Alike.symm⟩

theorem alike_iff {left right : Action} :
    left.Alike right ↔ left.name = right.name ∧ left.sameSignature right = true := by
  rw [sameSignature_iff]
  constructor
  · rintro ⟨name, required, returns, parameters⟩
    exact ⟨name, required, returns, parameters⟩
  · rintro ⟨name, required, returns, parameters⟩
    exact ⟨name, required, returns, parameters⟩

end Action

namespace Divergence

theorem ofRows?_eq_ite (left right : Action) :
    ofRows? left right =
      if left.Alike right then none
      else if left.name = right.name then some (signature left right)
      else some (renamed left right) := by
  unfold ofRows?
  by_cases named : left.name = right.name
  · by_cases same : left.sameSignature right = true
    · simp [Action.alike_iff, named, same]
    · simp [Action.alike_iff, named, same]
  · simp [Action.alike_iff, named]

theorem ofRows?_eq_none_iff_alike {left right : Action} :
    ofRows? left right = none ↔ left.Alike right :=
  ofRows?_eq_none_iff.trans Action.alike_iff.symm

theorem ofRows?_exchange (left right : Action) :
    ofRows? right left = (ofRows? left right).map exchange := by
  rw [ofRows?_eq_ite, ofRows?_eq_ite]
  simp only [Action.alike_comm right left, eq_comm (a := right.name)]
  split
  · rfl
  · split
    · rfl
    · rfl

theorem between?_exchange (left right : Option Action) :
    between? right left = (between? left right).map exchange := by
  cases left with
  | none => cases right <;> rfl
  | some left =>
    cases right with
    | none => rfl
    | some right => exact ofRows?_exchange left right

theorem ofRowLists_eq_parts (lefts rights : List Action) :
    ofRowLists lefts rights =
      (lefts.zip rights).filterMap (fun rows => ofRows? rows.1 rows.2) ++
        (lefts.drop rights.length).map onlyLeft ++ (rights.drop lefts.length).map onlyRight := by
  induction lefts generalizing rights with
  | nil => simp [ofRowLists_nil_left]
  | cons left lefts ih =>
    cases rights with
    | nil => simp [ofRowLists_nil_right]
    | cons right rights =>
      rw [ofRowLists, ih, List.zip_cons_cons, List.filterMap_cons]
      cases ofRows? left right <;> simp

end Divergence

namespace Catalog
variable {left right : Catalog}

def reportAt (left right : Catalog) (position : Nat) : List Divergence :=
  match left.get? position, right.get? position with
  | some leftRow, some rightRow =>
    if leftRow.Alike rightRow then []
    else if leftRow.name = rightRow.name then [.signature leftRow rightRow]
    else [.renamed leftRow rightRow]
  | some leftRow, none => [.onlyLeft leftRow]
  | none, some rightRow => [.onlyRight rightRow]
  | none, none => []

theorem toList_divergenceAt? (left right : Catalog) (position : Nat) :
    (left.divergenceAt? right position).toList = left.reportAt right position := by
  unfold divergenceAt? reportAt
  cases left.get? position with
  | none => cases right.get? position <;> rfl
  | some leftRow =>
    cases right.get? position with
    | none => rfl
    | some rightRow =>
      simp only [Divergence.between?, Divergence.ofRows?_eq_ite]
      split
      · rfl
      · split
        · rfl
        · rfl

theorem divergences_eq_nil_iff : left.divergences right = [] ↔ left.count = right.count ∧
    ∀ position leftRow rightRow, left.get? position = some leftRow →
      right.get? position = some rightRow → leftRow.Alike rightRow := by
  rw [divergences, Divergence.ofRowLists_eq_parts, List.append_eq_nil_iff, List.append_eq_nil_iff,
    List.map_eq_nil_iff, List.map_eq_nil_iff, List.drop_eq_nil_iff, List.drop_eq_nil_iff,
    List.filterMap_eq_nil_iff]
  constructor
  · rintro ⟨⟨pairs, leftEnds⟩, rightEnds⟩
    refine ⟨Nat.le_antisymm leftEnds rightEnds, ?_⟩
    intro position leftRow rightRow storedLeft storedRight
    have paired : (left.actions.zip right.actions)[position]? = some (leftRow, rightRow) :=
      List.getElem?_zip_eq_some.mpr ⟨storedLeft, storedRight⟩
    exact Divergence.ofRows?_eq_none_iff_alike.mp (pairs _ (List.mem_of_getElem? paired))
  · rintro ⟨counts, alike⟩
    refine ⟨⟨?_, Nat.le_of_eq counts⟩, Nat.le_of_eq counts.symm⟩
    rintro ⟨leftRow, rightRow⟩ member
    obtain ⟨position, paired⟩ := List.mem_iff_getElem?.mp member
    obtain ⟨storedLeft, storedRight⟩ := List.getElem?_zip_eq_some.mp paired
    exact Divergence.ofRows?_eq_none_iff_alike.mpr
      (alike position leftRow rightRow storedLeft storedRight)

theorem ordinals_divergences (validLeft : left.WellFormed) (validRight : right.WellFormed) :
    (left.divergences right).map Divergence.ordinal =
      (List.range (max left.count right.count)).filter fun position =>
        left.reportAt right position ≠ [] := by
  have stated : ∀ position, (left.divergenceAt? right position).map Divergence.ordinal =
      Option.guard (fun position => decide (left.reportAt right position ≠ [])) position := by
    intro position
    rw [Option.guard, ← toList_divergenceAt?]
    cases found : left.divergenceAt? right position with
    | none => rfl
    | some divergence =>
      rw [Option.map_some, ordinal_of_divergenceAt? validLeft validRight found]
      rfl
  rw [divergences_eq_flatMap, ← List.filterMap_eq_flatMap_toList, List.map_filterMap,
    ← List.filterMap_eq_filter]
  simp only [stated]

theorem divergenceAt?_exchange (left right : Catalog) (position : Nat) :
    right.divergenceAt? left position = (left.divergenceAt? right position).map .exchange :=
  Divergence.between?_exchange _ _

end Catalog

-- The list has one entry for each position at which the tables differ, in order and nothing else,
-- whether or not they pass the check. On tables that do, the ordinals are these positions.
theorem divergence_list_exact (left right : Catalog) :
    left.divergences right =
      (List.range (max left.count right.count)).flatMap (left.reportAt right) ∧
    (left.check = .ok () → right.check = .ok () →
      (left.divergences right).map Divergence.ordinal =
        ((List.range (max left.count right.count)).filter fun position =>
          left.reportAt right position ≠ []) ∧
      ((left.divergences right).map Divergence.ordinal).Pairwise (· < ·)) ∧
    (left.divergences right = [] ↔ left.count = right.count ∧
      ∀ position leftRow rightRow, left.get? position = some leftRow →
        right.get? position = some rightRow → leftRow.Alike rightRow) := by
  refine ⟨?_, ?_, Catalog.divergences_eq_nil_iff⟩
  · rw [Catalog.divergences_eq_flatMap]
    simp only [Catalog.toList_divergenceAt?]
  · intro soundLeft soundRight
    have ordinals := Catalog.ordinals_divergences ((Catalog.check_exact _).mp soundLeft)
      ((Catalog.check_exact _).mp soundRight)
    refine ⟨ordinals, ?_⟩
    rw [ordinals]
    exact List.pairwise_lt_range.filter _

theorem divergent_ordinals_increase :
    let left := Catalog.ofDeclarations .full .nwn1
      [declare 0 "Fire" 0 .void [] "", declare 1 "Aim" 1 .int [.vector] "",
        declare 2 "Turn" 0 .void [] "old"]
    let right := Catalog.ofDeclarations .full .nwn2
      [declare 0 "Shoot" 0 .void [.int] "", declare 1 "Aim" 1 .int [.vector, .int] "",
        declare 2 "Turn" 0 .void [] "new", declare 3 "Rest" 0 .void [.action] ""]
    left.check = .ok () ∧ right.check = .ok () ∧
      ((left.divergences right).map Divergence.ordinal).Pairwise (· < ·) ∧
      (left.divergences right).map Divergence.ordinal = [0, 1, 3] ∧
      left.reportAt right 2 = [] := by
  intro left right
  exact ⟨rfl, rfl, ((divergence_list_exact left right).2.1 rfl rfl).2, by decide, by decide⟩

-- Compared the other way round, each entry shows the same rows with the sides exchanged.
theorem divergences_exchange (left right : Catalog) :
    right.divergences left = (left.divergences right).map .exchange := by
  rw [Catalog.divergences_eq_flatMap, Catalog.divergences_eq_flatMap, Nat.max_comm,
    List.map_flatMap]
  simp only [Catalog.divergenceAt?_exchange left right, Option.toList_map]

end EngineActions
