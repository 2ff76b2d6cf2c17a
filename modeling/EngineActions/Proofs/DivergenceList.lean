import EngineActions.Catalog.Divergence

namespace EngineActions

namespace Divergence

theorem ofRows?_eq_none_iff {left right : Action} :
    ofRows? left right = none ↔ left.name = right.name ∧ left.sameSignature right = true := by
  unfold ofRows?
  split
  · rename_i renamed
    simp [renamed]
  · rename_i named
    split
    · rename_i same
      simp [Decidable.not_not.mp named, same]
    · rename_i differs
      simp [differs]

theorem ofRows?_self (row : Action) : ofRows? row row = none :=
  ofRows?_eq_none_iff.mpr ⟨rfl, Action.sameSignature_iff.mpr ⟨rfl, rfl, rfl⟩⟩

theorem ordinal_of_ofRows? {left right : Action} {divergence : Divergence}
    (found : ofRows? left right = some divergence) : divergence.ordinal = left.ordinal := by
  unfold ofRows? at found
  split at found
  · cases Option.some.inj found
    rfl
  · split at found
    · cases found
    · cases Option.some.inj found
      rfl

theorem between?_none_right (left : Option Action) : between? left none = left.map onlyLeft := by
  cases left <;> rfl

theorem between?_none_left (right : Option Action) : between? none right = right.map onlyRight := by
  cases right <;> rfl

theorem ofRowLists_nil_left (rights : List Action) :
    ofRowLists [] rights = rights.map onlyRight := by
  cases rights <;> rfl

theorem ofRowLists_nil_right (lefts : List Action) :
    ofRowLists lefts [] = lefts.map onlyLeft := by
  cases lefts <;> rfl

theorem ofRowLists_append (rows added : List Action) :
    ofRowLists rows (rows ++ added) = added.map onlyRight := by
  induction rows with
  | nil => exact ofRowLists_nil_left added
  | cons row rows ih =>
    rw [List.cons_append, ofRowLists, ofRows?_self, ih]
    rfl

theorem ofRowLists_self (rows : List Action) : ofRowLists rows rows = [] := by
  have nothing := ofRowLists_append rows []
  rwa [List.append_nil] at nothing

theorem ofRowLists_set {rows : List Action} {position : Nat} {old : Action} (new : Action)
    (stored : rows[position]? = some old) :
    ofRowLists rows (rows.set position new) = (ofRows? old new).toList := by
  induction rows generalizing position with
  | nil => cases stored
  | cons row rows ih =>
    cases position with
    | zero =>
      cases Option.some.inj stored
      rw [List.set_cons_zero, ofRowLists, ofRowLists_self, List.append_nil]
    | succ position =>
      rw [List.set_cons_succ, ofRowLists, ofRows?_self, ih stored]
      rfl

theorem ofRowLists_map (row : Action → Action) (entry : Divergence → Option Divergence)
    (lefts : ∀ action, entry (onlyLeft action) = some (onlyLeft (row action)))
    (rights : ∀ action, entry (onlyRight action) = some (onlyRight (row action)))
    (pairs : ∀ left right, ofRows? (row left) (row right) = (ofRows? left right).bind entry)
    (leftRows rightRows : List Action) :
    ofRowLists (leftRows.map row) (rightRows.map row) =
      (ofRowLists leftRows rightRows).filterMap entry := by
  induction leftRows generalizing rightRows with
  | nil =>
    have added : entry ∘ onlyRight = some ∘ onlyRight ∘ row := funext rights
    rw [List.map_nil, ofRowLists_nil_left, ofRowLists_nil_left, List.filterMap_map, added,
      List.filterMap_eq_map, List.map_map]
  | cons left leftRows ih =>
    cases rightRows with
    | nil =>
      have dropped : entry ∘ onlyLeft = some ∘ onlyLeft ∘ row := funext lefts
      rw [List.map_nil, ofRowLists_nil_right, ofRowLists_nil_right, List.filterMap_map, dropped,
        List.filterMap_eq_map, List.map_map]
    | cons right rightRows =>
      rw [List.map_cons, List.map_cons, ofRowLists, ofRowLists, ih, pairs, List.filterMap_append]
      cases ofRows? left right with
      | none => rfl
      | some divergence => cases found : entry divergence <;> simp [found]

theorem map_eq_flatMap_range (side : Action → Divergence) (actions : List Action) :
    actions.map side =
      (List.range actions.length).flatMap fun position =>
        (actions[position]?.map side).toList := by
  induction actions with
  | nil => rfl
  | cons action rest ih =>
    rw [List.map_cons, ih, List.length_cons, List.range_succ_eq_map, List.flatMap_cons,
      List.flatMap_map]
    rfl

theorem ofRowLists_eq_flatMap (lefts rights : List Action) :
    ofRowLists lefts rights =
      (List.range (max lefts.length rights.length)).flatMap fun position =>
        (between? lefts[position]? rights[position]?).toList := by
  induction lefts generalizing rights with
  | nil =>
    rw [ofRowLists_nil_left, map_eq_flatMap_range, List.length_nil, Nat.zero_max]
    simp only [List.getElem?_nil, between?_none_left]
  | cons left lefts ih =>
    cases rights with
    | nil =>
      rw [ofRowLists_nil_right, map_eq_flatMap_range, List.length_nil, Nat.max_zero]
      simp only [List.getElem?_nil, between?_none_right]
    | cons right rights =>
      rw [ofRowLists, ih, List.length_cons, List.length_cons, Nat.succ_max_succ,
        List.range_succ_eq_map, List.flatMap_cons, List.flatMap_map]
      rfl

end Divergence

namespace Catalog

theorem divergences_eq_flatMap (left right : Catalog) :
    left.divergences right =
      (List.range (max left.count right.count)).flatMap fun position =>
        (left.divergenceAt? right position).toList :=
  Divergence.ofRowLists_eq_flatMap left.actions right.actions

theorem mem_divergences_iff {left right : Catalog} {divergence : Divergence} :
    divergence ∈ left.divergences right ↔
      ∃ position, left.divergenceAt? right position = some divergence := by
  rw [divergences_eq_flatMap, List.mem_flatMap]
  constructor
  · rintro ⟨position, _, member⟩
    exact ⟨position, Option.mem_toList.mp member⟩
  · rintro ⟨position, found⟩
    refine ⟨position, List.mem_range.mpr ?_, Option.mem_toList.mpr found⟩
    apply Decidable.byContradiction
    intro behind
    rw [divergenceAt?, get?, get?, List.getElem?_eq_none (by unfold count at behind; omega),
      List.getElem?_eq_none (by unfold count at behind; omega)] at found
    cases found

end Catalog
end EngineActions
