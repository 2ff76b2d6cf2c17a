import EngineActions.Proofs.CallSites
import EngineActions.Proofs.DivergenceList
import EngineActions.Proofs.RowLookup

namespace EngineActions

namespace Action

-- The sizes are not compared between tables; that they agree has to come from the check.
structure Agree (left right : Action) : Prop where
  ordinal : left.ordinal = right.ordinal
  name : left.name = right.name
  required : left.required = right.required
  returns : left.returns = right.returns
  parameters : left.parameters = right.parameters
  sizes : left.sizes = right.sizes

namespace Agree
variable {left right : Action}

theorem left_eq (agree : left.Agree right) :
    left = { right with prototype := left.prototype, placeholder := left.placeholder } := by
  obtain ⟨ordinal, name, required, returns, parameters, sizes⟩ := agree
  cases left
  cases right
  simp_all

theorem calls_eq (agree : left.Agree right) (supplied : Nat) :
    left.checkArguments supplied = right.checkArguments supplied ∧
      left.argumentsSize supplied = right.argumentsSize supplied ∧
      left.stackDelta supplied = right.stackDelta supplied := by
  rw [agree.left_eq]
  exact ⟨rfl, rfl, rfl⟩

theorem parameters_eq (agree : left.Agree right) (index : Nat) :
    left.argumentOffset? index = right.argumentOffset? index ∧
      left.parameters[index]? = right.parameters[index]? ∧
      left.sizes[index]? = right.sizes[index]? := by
  rw [agree.left_eq]
  exact ⟨rfl, rfl, rfl⟩

theorem placeholder_eq {detail : Detail} {leftRow rightRow : Declaration}
    (agree : (ofDeclaration detail leftRow).Agree (ofDeclaration detail rightRow))
    (named : detail.names = true) :
    (ofDeclaration detail leftRow).placeholder = (ofDeclaration detail rightRow).placeholder := by
  have names : leftRow.name = rightRow.name := by
    simpa [ofDeclaration, named] using agree.name
  have parameters : leftRow.parameters = rightRow.parameters := agree.parameters
  rw [ofDeclaration, ofDeclaration, names, parameters]

end Agree
end Action

namespace Catalog
variable {left right : Catalog} {position : Nat} {leftRow rightRow : Action}

theorem agree_of_silent (validLeft : left.WellFormed) (validRight : right.WellFormed)
    (storedLeft : left.get? position = some leftRow)
    (storedRight : right.get? position = some rightRow)
    (silent : ∀ divergence ∈ left.divergences right, divergence.ordinal ≠ position) :
    leftRow.Agree rightRow := by
  have soundLeft := validLeft.rows position leftRow storedLeft
  have soundRight := validRight.rows position rightRow storedRight
  have compared : left.divergenceAt? right position = Divergence.ofRows? leftRow rightRow := by
    rw [divergenceAt?, storedLeft, storedRight, Divergence.between?]
  cases found : Divergence.ofRows? leftRow rightRow with
  | some divergence =>
    have listed := mem_divergences_iff.mpr ⟨position, compared.trans found⟩
    have ordinal := Divergence.ordinal_of_ofRows? found
    exact absurd (ordinal.trans soundLeft.placed) (silent divergence listed)
  | none =>
    obtain ⟨name, same⟩ := Divergence.ofRows?_eq_none_iff.mp found
    obtain ⟨required, returns, parameters⟩ := Action.sameSignature_iff.mp same
    have ordinal := soundLeft.placed.trans soundRight.placed.symm
    refine ⟨ordinal, name, required, returns, parameters, ?_⟩
    rw [soundLeft.sizes_eq, soundRight.sizes_eq, parameters]

theorem ordinalOf?_agree (validLeft : left.WellFormed) (validRight : right.WellFormed)
    (storedLeft : left.get? position = some leftRow)
    (storedRight : right.get? position = some rightRow) (agree : leftRow.Agree rightRow)
    (name : String) :
    left.ordinalOf? name = some position ↔ right.ordinalOf? name = some position := by
  rw [validLeft.ordinalOf?_iff, validRight.ordinalOf?_iff, storedLeft, storedRight]
  simp [agree.name]

end Catalog

-- Where two sound tables are not reported to differ, a call means the same under both.
theorem silent_interchange (detail : Detail) (leftRevision rightRevision : Revision)
    (leftRows rightRows : List Declaration)
    (soundLeft : (Catalog.ofDeclarations detail leftRevision leftRows).check = .ok ())
    (soundRight : (Catalog.ofDeclarations detail rightRevision rightRows).check = .ok ())
    (position : Nat) (left right : Action)
    (storedLeft :
      (Catalog.ofDeclarations detail leftRevision leftRows).get? position = some left)
    (storedRight :
      (Catalog.ofDeclarations detail rightRevision rightRows).get? position = some right)
    (silent : ∀ divergence ∈ (Catalog.ofDeclarations detail leftRevision leftRows).divergences
      (Catalog.ofDeclarations detail rightRevision rightRows), divergence.ordinal ≠ position) :
    (∀ supplied, left.checkArguments supplied = right.checkArguments supplied ∧
      left.argumentsSize supplied = right.argumentsSize supplied ∧
      left.stackDelta supplied = right.stackDelta supplied) ∧
    (∀ index : Nat, left.argumentOffset? index = right.argumentOffset? index ∧
      left.parameters[index]? = right.parameters[index]? ∧
      left.sizes[index]? = right.sizes[index]?) ∧
    left.cells = right.cells ∧ left.returnSize = right.returnSize ∧
    (detail.names = true → left.name = right.name ∧ left.placeholder = right.placeholder ∧
      ∀ name, (Catalog.ofDeclarations detail leftRevision leftRows).ordinalOf? name =
        some position ↔
          (Catalog.ofDeclarations detail rightRevision rightRows).ordinalOf? name =
            some position) := by
  have validLeft := (Catalog.check_exact _).mp soundLeft
  have validRight := (Catalog.check_exact _).mp soundRight
  have agree := Catalog.agree_of_silent validLeft validRight storedLeft storedRight silent
  have cells : left.cells = right.cells := by rw [Action.cells, Action.cells, agree.parameters]
  have returned : left.returnSize = right.returnSize := by
    rw [Action.returnSize, Action.returnSize, agree.returns]
  refine ⟨agree.calls_eq, agree.parameters_eq, cells, returned, ?_⟩
  intro named
  refine ⟨agree.name, ?_,
    Catalog.ordinalOf?_agree validLeft validRight storedLeft storedRight agree⟩
  rw [Catalog.get?_ofDeclarations] at storedLeft storedRight
  obtain ⟨leftRow, _, rfl⟩ := Option.map_eq_some_iff.mp storedLeft
  obtain ⟨rightRow, _, rfl⟩ := Option.map_eq_some_iff.mp storedRight
  exact agree.placeholder_eq named

theorem silent_row_resolves_alike :
    let left := Catalog.ofDeclarations .full .nwn1
      [declare 0 "Fire" 0 .void [] "", declare 1 "Aim" 1 .int [.vector, .action] "old"]
    let right := Catalog.ofDeclarations .full .nwn2
      [declare 0 "Shoot" 0 .void [] "", declare 1 "Aim" 1 .int [.vector, .action] "new"]
    left.divergences right ≠ [] ∧ left.get? 1 ≠ right.get? 1 ∧
      (∀ divergence ∈ left.divergences right, divergence.ordinal ≠ 1) ∧
      ∀ name, left.ordinalOf? name = some 1 ↔ right.ordinalOf? name = some 1 := by
  intro left right
  have silent : ∀ divergence ∈ left.divergences right, divergence.ordinal ≠ 1 := by decide
  have same := silent_interchange .full .nwn1 .nwn2 _ _ rfl rfl 1 _ _ rfl rfl silent
  exact ⟨by decide, by decide, silent, (same.2.2.2.2 rfl).2.2⟩

end EngineActions
