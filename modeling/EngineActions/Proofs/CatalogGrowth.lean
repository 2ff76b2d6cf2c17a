import EngineActions.Catalog
import EngineActions.Proofs.DivergenceList
import EngineActions.Proofs.RowLookup
import EngineActions.Proofs.TextBytes

namespace EngineActions

namespace Catalog
variable {catalog : Catalog} {added : List Action} {position : Nat} {row : Action}

theorem get?_extend (inside : position < catalog.count) :
    (catalog.extend added).get? position = catalog.get? position :=
  List.getElem?_append_left inside

theorem get?_extend_of_some (stored : catalog.get? position = some row) :
    (catalog.extend added).get? position = some row := by
  rw [get?_extend (List.getElem?_eq_some_iff.mp stored).1, stored]

theorem get?_extend_added (offset : Nat) :
    (catalog.extend added).get? (catalog.count + offset) = added[offset]? := by
  rw [extend, get?, count, List.getElem?_append_right (Nat.le_add_right _ _),
    Nat.add_sub_cancel_left]

theorem WellFormed.of_extend (valid : (catalog.extend added).WellFormed) : catalog.WellFormed where
  rows position row stored := valid.rows position row (get?_extend_of_some stored)
  names first second left right storedLeft storedRight :=
    valid.names first second left right (get?_extend_of_some storedLeft)
      (get?_extend_of_some storedRight)

theorem actionAt_extend {ordinal : Int} (found : catalog.actionAt ordinal = .ok row) :
    (catalog.extend added).actionAt ordinal = .ok row := by
  obtain ⟨position, same, stored⟩ := actionAt_int_ok_iff.mp found
  exact actionAt_int_ok_iff.mpr ⟨position, same, get?_extend_of_some stored⟩

theorem WellFormed.ordinalOf?_extend (valid : (catalog.extend added).WellFormed) (name : String)
    (inside : position < catalog.count) :
    catalog.ordinalOf? name = some position ↔
      (catalog.extend added).ordinalOf? name = some position := by
  rw [valid.of_extend.ordinalOf?_iff, valid.ordinalOf?_iff, get?_extend inside]

theorem WellFormed.ordinals_added (valid : (catalog.extend added).WellFormed) :
    added.map Action.ordinal = List.range' catalog.count added.length := by
  apply List.ext_getElem
  · rw [List.length_map, List.length_range']
  · intro offset inside _
    rw [List.length_map] at inside
    have stored : (catalog.extend added).get? (catalog.count + offset) = some added[offset] :=
      (get?_extend_added offset).trans (List.getElem?_eq_getElem inside)
    have placed := (valid.rows _ _ stored).placed
    rw [List.getElem_map, placed, List.getElem_range', Nat.one_mul]

end Catalog

-- Rows added behind a table leave every answer about the old rows as it was, provided the longer
-- table passes the check.
theorem append_stable (catalog : Catalog) (added : List Action)
    (sound : (catalog.extend added).check = .ok ()) :
    catalog.check = .ok () ∧
    (∀ (ordinal : Int) (action : Action), catalog.actionAt ordinal = .ok action →
      (catalog.extend added).actionAt ordinal = .ok action) ∧
    (∀ (name : String) (position : Nat), position < catalog.count →
      (catalog.ordinalOf? name = some position ↔
        (catalog.extend added).ordinalOf? name = some position) ∧
      (catalog.ordinalOf? name = some position → ∃ action,
        catalog.actionNamed name = .ok action ∧
          (catalog.extend added).actionNamed name = .ok action)) ∧
    (∀ (name : String) (position : Nat), catalog.ordinalOf? name = some position →
      (catalog.extend added).ordinalOf? name = some position) ∧
    catalog.divergences (catalog.extend added) = added.map .onlyRight ∧
    (catalog.divergences (catalog.extend added)).map Divergence.ordinal =
      List.range' catalog.count added.length := by
  have longer := (Catalog.check_exact _).mp sound
  have valid := longer.of_extend
  have listed : catalog.divergences (catalog.extend added) = added.map .onlyRight :=
    Divergence.ofRowLists_append catalog.actions added
  refine ⟨(Catalog.check_exact _).mpr valid, fun _ _ => Catalog.actionAt_extend, ?_, ?_, listed, ?_⟩
  · intro name position inside
    have same := longer.ordinalOf?_extend name inside
    refine ⟨same, ?_⟩
    intro resolved
    obtain ⟨_, row, stored, _⟩ := (valid.ordinalOf?_iff name position).mp resolved
    exact ⟨row, Catalog.actionNamed_ok_iff.mpr ⟨position, resolved, stored⟩,
      Catalog.actionNamed_ok_iff.mpr
        ⟨position, same.mp resolved, Catalog.get?_extend_of_some stored⟩⟩
  · intro name position resolved
    obtain ⟨_, row, stored, _⟩ := (valid.ordinalOf?_iff name position).mp resolved
    exact (longer.ordinalOf?_extend name (List.getElem?_eq_some_iff.mp stored).1).mp resolved
  · rw [listed, List.map_map, ← longer.ordinals_added]
    rfl

theorem appended_row_keeps_earlier_names :
    let catalog := Catalog.ofDeclarations .full .nwn1
      [declare 0 "Fire" 0 .void [] "", declare 1 "Aim" 1 .int [.vector] ""]
    let added := [Action.ofDeclaration .full (declare 2 "Rest" 0 .void [.action] "")]
    (catalog.extend added).check = .ok () ∧ catalog.check = .ok () ∧
      catalog.ordinalOf? "Aim" = some 1 ∧ (catalog.extend added).ordinalOf? "Aim" = some 1 ∧
      (∃ action, catalog.actionNamed "Aim" = .ok action ∧
        (catalog.extend added).actionNamed "Aim" = .ok action) ∧
      (catalog.divergences (catalog.extend added)).map Divergence.ordinal = [2] := by
  intro catalog added
  have sound : (catalog.extend added).check = .ok () := rfl
  obtain ⟨shorter, _, names, resolves, _, ordinals⟩ := append_stable catalog added sound
  have resolved : catalog.ordinalOf? "Aim" = some 1 := by decide
  exact ⟨sound, shorter, resolved, resolves "Aim" 1 resolved,
    (names "Aim" 1 (by decide)).2 resolved, ordinals⟩

example :
    let catalog := Catalog.ofDeclarations .full .nwn1 [declare 0 "Fire" 0 .void [] ""]
    let added := [Action.ofDeclaration .full (declare 1 "Fire" 0 .void [] "")]
    catalog.ordinalOf? "Fire" = some 0 ∧ (catalog.extend added).ordinalOf? "Fire" = some 1 ∧
      (catalog.extend added).check = .error (.malformed .nwn1 1 (.nameTaken "Fire" 0)) :=
  ⟨rfl, rfl, rfl⟩

-- What retiring the row of one position does to a table, and to which answers.
structure Retirement (before after : Catalog) (position : Nat) (old : Action) : Prop where
  count : after.count = before.count
  retired : ∃ row, after.get? position = some row ∧ row.placeholder = true
  kept : ∀ other, other ≠ position → after.get? other = before.get? other
  freed : old.name ≠ placeholderName → after.ordinalOf? old.name = none
  taken : after.ordinalOf? placeholderName = some position
  names : ∀ name, name ≠ old.name → name ≠ placeholderName →
    after.ordinalOf? name = before.ordinalOf? name
  listed : old.name ≠ placeholderName → ∃ row, after.get? position = some row ∧
    before.divergences after = [.renamed old row] ∧ (Divergence.renamed old row).ordinal = position

namespace Action
variable (detail : Detail) (position : Nat) (prototype : String)

theorem retired_wellFormed :
    (ofDeclaration detail (.retired position prototype)).WellFormed position :=
  ⟨rfl, Nat.le_refl 0, Nat.zero_le _, List.not_mem_nil, rfl⟩

theorem retired_placeholder :
    (ofDeclaration detail (.retired position prototype)).placeholder = true :=
  (placeholder_ofDeclaration_iff detail _).mpr ⟨rfl, rfl⟩

theorem retired_name :
    (ofDeclaration detail (.retired position prototype)).name =
      if detail.names then placeholderName else "" := rfl

theorem named_of_retired_name {name : String} (given : name ≠ "")
    (same : name = (ofDeclaration detail (.retired position prototype)).name) :
    detail.names = true ∧ name = placeholderName := by
  rw [retired_name] at same
  by_cases named : detail.names = true
  · exact ⟨named, by rwa [if_pos named] at same⟩
  · rw [if_neg named] at same
    exact absurd same given

end Action

namespace Catalog
variable {detail : Detail} {catalog : Catalog} {position other : Nat} {prototype : String}
  {old row : Action}

theorem get?_retire_self (inside : position < catalog.count) :
    (catalog.retire detail position prototype).get? position =
      some (.ofDeclaration detail (.retired position prototype)) :=
  List.getElem?_set_self inside

theorem get?_retire_other (elsewhere : other ≠ position) :
    (catalog.retire detail position prototype).get? other = catalog.get? other :=
  List.getElem?_set_ne (Ne.symm elsewhere)

theorem WellFormed.retire_iff (valid : catalog.WellFormed) (inside : position < catalog.count) :
    (catalog.retire detail position prototype).WellFormed ↔
      (detail.names = true → ∀ other row, catalog.get? other = some row →
        row.name = placeholderName → other = position) := by
  constructor
  · intro retired named other row stored same
    apply Decidable.byContradiction
    intro elsewhere
    have name := Action.retired_name detail position prototype
    rw [if_pos named, ← same] at name
    have given : row.name ≠ "" := by rw [same]; decide
    exact elsewhere (retired.names other position row _
      ((get?_retire_other elsewhere).trans stored) (get?_retire_self inside) name.symm given)
  · intro alone
    have clash : ∀ other row, catalog.get? other = some row → row.name ≠ "" →
        row.name = (Action.ofDeclaration detail (.retired position prototype)).name →
          other = position := by
      intro other row stored given same
      obtain ⟨named, taken⟩ := Action.named_of_retired_name detail position prototype given same
      exact alone named other row stored taken
    refine ⟨?_, ?_⟩
    · intro other row stored
      by_cases here : other = position
      · subst here
        rw [get?_retire_self inside] at stored
        cases Option.some.inj stored
        exact Action.retired_wellFormed detail other prototype
      · rw [get?_retire_other here] at stored
        exact valid.rows other row stored
    · intro first second left right storedLeft storedRight same given
      by_cases atFirst : first = position
      · by_cases atSecond : second = position
        · exact atFirst.trans atSecond.symm
        · rw [atFirst, get?_retire_self inside] at storedLeft
          rw [get?_retire_other atSecond] at storedRight
          cases Option.some.inj storedLeft
          exact absurd (clash second right storedRight (same ▸ given) same.symm) atSecond
      · rw [get?_retire_other atFirst] at storedLeft
        by_cases atSecond : second = position
        · rw [atSecond, get?_retire_self inside] at storedRight
          cases Option.some.inj storedRight
          exact absurd (clash first left storedLeft given same) atFirst
        · rw [get?_retire_other atSecond] at storedRight
          exact valid.names first second left right storedLeft storedRight same given

theorem WellFormed.ordinalOf?_retire (valid : catalog.WellFormed)
    (inside : position < catalog.count) (named : detail.names = true)
    (retired : (catalog.retire detail position prototype).WellFormed) (name : String)
    (other : Nat) :
    (catalog.retire detail position prototype).ordinalOf? name = some other ↔
      other = position ∧ name = placeholderName ∨
        other ≠ position ∧ catalog.ordinalOf? name = some other := by
  rw [retired.ordinalOf?_iff, valid.ordinalOf?_iff]
  by_cases here : other = position
  · subst here
    rw [get?_retire_self inside]
    have given : placeholderName ≠ "" := by decide
    constructor
    · rintro ⟨_, row, stored, rfl⟩
      cases Option.some.inj stored
      exact .inl ⟨rfl, by rw [Action.retired_name, if_pos named]⟩
    · rintro (⟨_, rfl⟩ | ⟨elsewhere, _⟩)
      · exact ⟨given, _, rfl, by rw [Action.retired_name, if_pos named]⟩
      · exact absurd rfl elsewhere
  · rw [get?_retire_other here]
    simp [here]

theorem WellFormed.ordinalOf?_row (valid : catalog.WellFormed)
    (stored : catalog.get? position = some row) :
    catalog.ordinalOf? row.name = some other → other = position := by
  intro resolved
  obtain ⟨given, found, storedOther, same⟩ := (valid.ordinalOf?_iff row.name other).mp resolved
  exact valid.names other position found row storedOther stored same (same ▸ given)

theorem WellFormed.retirement (valid : catalog.WellFormed)
    (stored : catalog.get? position = some old) (named : detail.names = true)
    (retired : (catalog.retire detail position prototype).WellFormed) :
    Retirement catalog (catalog.retire detail position prototype) position old := by
  have inside : position < catalog.count := (List.getElem?_eq_some_iff.mp stored).1
  have leads := valid.ordinalOf?_retire inside named retired
  have held : (catalog.retire detail position prototype).get? position =
      some (.ofDeclaration detail (.retired position prototype)) := get?_retire_self inside
  refine ⟨count_retire detail catalog position prototype,
    ⟨_, held, Action.retired_placeholder detail position prototype⟩,
    fun other => get?_retire_other, ?_, (leads _ _).mpr (.inl ⟨rfl, rfl⟩), ?_, ?_⟩
  · intro renamed
    apply Option.eq_none_iff_forall_ne_some.mpr
    intro other resolved
    rcases (leads old.name other).mp resolved with ⟨_, same⟩ | ⟨elsewhere, before⟩
    · exact renamed same
    · exact elsewhere (valid.ordinalOf?_row stored before)
  · intro name unlike given
    apply Option.ext
    intro other
    rw [leads]
    constructor
    · rintro (⟨_, same⟩ | ⟨_, before⟩)
      · exact absurd same given
      · exact before
    · intro before
      refine .inr ⟨?_, before⟩
      rintro rfl
      obtain ⟨_, row, storedRow, same⟩ := (valid.ordinalOf?_iff name other).mp before
      cases Option.some.inj (stored.symm.trans storedRow)
      exact unlike same.symm
  · intro renamed
    refine ⟨_, held, ?_, (valid.rows position old stored).placed⟩
    have differs : old.name ≠
        (Action.ofDeclaration detail (.retired position prototype)).name := by
      rwa [Action.retired_name, if_pos named]
    have listed := Divergence.ofRowLists_set
      (Action.ofDeclaration detail (.retired position prototype)) stored
    rw [Divergence.ofRows?, if_pos differs] at listed
    exact listed

def retireEach (detail : Detail) (catalog : Catalog) (retirements : List (Nat × String)) :
    Catalog :=
  retirements.foldl (fun held retirement => held.retire detail retirement.1 retirement.2) catalog

def RetiredAt (detail : Detail) (catalog : Catalog) (position : Nat) : Prop :=
  ∃ prototype, catalog.get? position =
    some (.ofDeclaration detail (.retired position prototype))

theorem RetiredAt.retire (before : RetiredAt detail catalog other) :
    RetiredAt detail (catalog.retire detail position prototype) other := by
  obtain ⟨kept, stored⟩ := before
  by_cases here : other = position
  · subst here
    exact ⟨prototype, get?_retire_self (List.getElem?_eq_some_iff.mp stored).1⟩
  · exact ⟨kept, (get?_retire_other here).trans stored⟩

theorem RetiredAt.retireEach (before : RetiredAt detail catalog other)
    (retirements : List (Nat × String)) :
    RetiredAt detail (catalog.retireEach detail retirements) other := by
  induction retirements generalizing catalog with
  | nil => exact before
  | cons retirement rest ih => exact ih before.retire

theorem retiredAt_retireEach {retirements : List (Nat × String)} {retirement : Nat × String}
    (inside : ∀ retirement ∈ retirements, retirement.1 < catalog.count)
    (member : retirement ∈ retirements) :
    RetiredAt detail (catalog.retireEach detail retirements) retirement.1 := by
  induction retirements generalizing catalog with
  | nil => cases member
  | cons first rest ih =>
    rw [List.forall_mem_cons] at inside
    rcases List.mem_cons.mp member with rfl | later
    · have now : RetiredAt detail (catalog.retire detail retirement.1 retirement.2) retirement.1 :=
        ⟨retirement.2, get?_retire_self inside.1⟩
      exact now.retireEach rest
    · apply ih _ later
      rw [count_retire]
      exact inside.2

theorem WellFormed.retireEach (valid : catalog.WellFormed) (nameless : detail.names = false)
    {retirements : List (Nat × String)}
    (inside : ∀ retirement ∈ retirements, retirement.1 < catalog.count) :
    (catalog.retireEach detail retirements).WellFormed := by
  induction retirements generalizing catalog with
  | nil => exact valid
  | cons first rest ih =>
    rw [List.forall_mem_cons] at inside
    have next : (catalog.retire detail first.1 first.2).WellFormed := by
      apply (valid.retire_iff inside.1).mpr
      intro named
      rw [nameless] at named
      cases named
    apply ih next
    rw [count_retire]
    exact inside.2

theorem WellFormed.retiredAt_unique (valid : catalog.WellFormed) (named : detail.names = true)
    (first : RetiredAt detail catalog position) (second : RetiredAt detail catalog other) :
    position = other := by
  obtain ⟨_, storedFirst⟩ := first
  obtain ⟨_, storedSecond⟩ := second
  apply valid.names position other _ _ storedFirst storedSecond
  · rw [Action.retired_name, Action.retired_name]
  · rw [Action.retired_name, if_pos named]
    decide

end Catalog

-- With names the retired row must not meet another one of the placeholder name, so that no two
-- ordinals can be retired; without names any of them can.
theorem retirement_exact (catalog : Catalog) (sound : catalog.check = .ok ()) (prototypes : Bool) :
    (∀ (position : Nat) (old : Action) (prototype : String),
      catalog.get? position = some old →
      ((catalog.retire ⟨true, prototypes⟩ position prototype).check = .ok () ↔
        ∀ other row, catalog.get? other = some row → row.name = placeholderName →
          other = position) ∧
      ((catalog.retire ⟨true, prototypes⟩ position prototype).check = .ok () →
        Retirement catalog (catalog.retire ⟨true, prototypes⟩ position prototype) position old) ∧
      (catalog.retire ⟨false, prototypes⟩ position prototype).check = .ok ()) ∧
    ∀ retirements : List (Nat × String),
      (∀ retirement ∈ retirements, retirement.1 < catalog.count) →
      (catalog.retireEach ⟨false, prototypes⟩ retirements).check = .ok () ∧
      (∀ retirement ∈ retirements, Catalog.RetiredAt ⟨false, prototypes⟩
        (catalog.retireEach ⟨false, prototypes⟩ retirements) retirement.1) ∧
      ((catalog.retireEach ⟨true, prototypes⟩ retirements).check = .ok () →
        ∀ first ∈ retirements, ∀ second ∈ retirements, first.1 = second.1) := by
  have valid := (Catalog.check_exact _).mp sound
  refine ⟨?_, ?_⟩
  · intro position old prototype stored
    have inside : position < catalog.count := (List.getElem?_eq_some_iff.mp stored).1
    refine ⟨?_, ?_, ?_⟩
    · rw [Catalog.check_exact, valid.retire_iff inside]
      simp
    · intro accepted
      exact valid.retirement stored rfl ((Catalog.check_exact _).mp accepted)
    · rw [Catalog.check_exact, valid.retire_iff inside]
      simp
  · intro retirements inside
    refine ⟨(Catalog.check_exact _).mpr (valid.retireEach rfl inside),
      fun _ => Catalog.retiredAt_retireEach inside, ?_⟩
    intro accepted first inFirst second inSecond
    exact ((Catalog.check_exact _).mp accepted).retiredAt_unique rfl
      (Catalog.retiredAt_retireEach inside inFirst) (Catalog.retiredAt_retireEach inside inSecond)

theorem retired_name_lost_and_second_retirement_refused :
    let catalog := Catalog.ofDeclarations .full .nwn2
      [declare 0 "Fire" 0 .void [] "", declare 1 "Aim" 1 .int [.vector] ""]
    let retired := catalog.retire ⟨true, true⟩ 1 "no longer used"
    let both := [(0, "first"), (1, "second")]
    retired.check = .ok () ∧ retired.ordinalOf? "Aim" = none ∧
      retired.ordinalOf? placeholderName = some 1 ∧ retired.get? 0 = catalog.get? 0 ∧
      (catalog.retireEach ⟨false, true⟩ both).check = .ok () ∧
      (catalog.retireEach ⟨true, true⟩ both).check ≠ .ok () := by
  intro catalog retired both
  obtain ⟨one, several⟩ := retirement_exact catalog rfl true
  have accepted : retired.check = .ok () := rfl
  have result := (one 1 _ "no longer used" rfl).2.1 accepted
  obtain ⟨nameless, _, named⟩ := several both (by decide)
  refine ⟨accepted, result.freed (by decide), result.taken, result.kept 0 (by decide), nameless, ?_⟩
  intro passed
  exact absurd (named passed (0, "first") (by decide) (1, "second") (by decide)) (by decide)

end EngineActions
