import EngineActions.Catalog.Operand
import EngineActions.Proofs.ShippedTables

namespace EngineActions

namespace Catalog
variable {catalog : Catalog} {name : String} {ordinal : Int} {failure : Failure}

theorem ordinalOf?_eq_ofActions (catalog : Catalog) (name : String) :
    catalog.ordinalOf? name = NameIndex.ofActions catalog.actions name := by
  unfold ordinalOf?
  split
  · rename_i blank
    rw [blank, NameIndex.ofActions_empty]
  · rfl

theorem ordinalOf?_eq_none_iff : catalog.ordinalOf? name = none ↔
    name = "" ∨ ∀ action ∈ catalog.actions, action.name ≠ name := by
  rw [ordinalOf?_eq_ofActions, NameIndex.ofActions_eq_none_iff]
  by_cases blank : name = ""
  · simp [blank]
  · simp [blank]

theorem ordinalOf?_eq_some_iff {ordinal : Nat} : catalog.ordinalOf? name = some ordinal ↔
    name ≠ "" ∧ ∃ position action, LastNamed catalog.actions name position action ∧
      action.ordinal = ordinal := by
  rw [ordinalOf?_eq_ofActions, NameIndex.ofActions_eq_some_iff]

theorem actionNamed_ok_iff {action : Action} : catalog.actionNamed name = .ok action ↔
    ∃ ordinal, catalog.ordinalOf? name = some ordinal ∧ catalog.get? ordinal = some action := by
  rw [actionNamed, orFailure_ok_iff, Option.bind_eq_some_iff]

theorem actionNamed_error_iff {failure : Failure} :
    catalog.actionNamed name = .error failure ↔
      failure = .unknownName catalog.revision name ∧
        ∀ ordinal, catalog.ordinalOf? name = some ordinal → catalog.count ≤ ordinal := by
  rw [actionNamed, orFailure_error_iff, Option.bind_eq_none_iff]
  simp only [get?, List.getElem?_eq_none_iff, count]

theorem actionAt_ok_iff {position : Nat} {action : Action} :
    catalog.actionAt position = .ok action ↔ catalog.get? position = some action := by
  rw [actionAt, orFailure_ok_iff, if_pos (Int.natCast_nonneg position), Int.toNat_natCast]

theorem actionAt_int_ok_iff {action : Action} : catalog.actionAt ordinal = .ok action ↔
    ∃ position : Nat, ordinal = position ∧ catalog.get? position = some action := by
  constructor
  · intro found
    rw [actionAt, orFailure_ok_iff] at found
    split at found
    · rename_i least
      exact ⟨ordinal.toNat, (Int.toNat_of_nonneg least).symm, found⟩
    · cases found
  · rintro ⟨position, rfl, stored⟩
    exact actionAt_ok_iff.mpr stored

theorem actionAt_error_iff : catalog.actionAt ordinal = .error failure ↔
    (ordinal < 0 ∨ catalog.count ≤ ordinal) ∧
      failure = .outOfRange catalog.revision (reportedOrdinal ordinal) catalog.count := by
  rw [actionAt, orFailure_error_iff, and_comm]
  refine and_congr_left fun _ => ?_
  split
  · rw [get?, List.getElem?_eq_none_iff, count]
    omega
  · simp
    omega

structure NamesInverse (catalog : Catalog) : Prop where
  resolves : ∀ (name : String) (position : Nat), catalog.ordinalOf? name = some position ↔
    name ≠ "" ∧ ∃ action, catalog.get? position = some action ∧ action.name = name
  found : ∀ (name : String) (position : Nat), catalog.ordinalOf? name = some position →
    ∃ action, action.name = name ∧ catalog.actionAt position = .ok action ∧
      catalog.actionNamed name = .ok action

theorem WellFormed.ordinalOf?_iff (valid : catalog.WellFormed) (name : String) (position : Nat) :
    catalog.ordinalOf? name = some position ↔
      name ≠ "" ∧ ∃ action, catalog.get? position = some action ∧ action.name = name := by
  rw [ordinalOf?_eq_some_iff]
  constructor
  · rintro ⟨given, held, action, last, rfl⟩
    rw [(valid.rows held action last.stored).placed]
    exact ⟨given, action, last.stored, last.named⟩
  · rintro ⟨given, action, stored, named⟩
    have placed := (valid.rows position action stored).placed
    refine ⟨given, position, action, ⟨stored, named, ?_⟩, placed⟩
    intro later other behind storedLater same
    have equal := valid.names position later action other stored storedLater (named.trans same.symm)
      (named ▸ given)
    omega

theorem WellFormed.namesInverse (valid : catalog.WellFormed) : catalog.NamesInverse := by
  refine ⟨valid.ordinalOf?_iff, ?_⟩
  intro name position resolved
  obtain ⟨_, action, stored, named⟩ := (valid.ordinalOf?_iff name position).mp resolved
  exact ⟨action, named, actionAt_ok_iff.mpr stored,
    actionNamed_ok_iff.mpr ⟨position, resolved, stored⟩⟩

theorem ordinalOf?_nameless (prototypes : Bool) (revision : Revision) (rows : List Declaration)
    (name : String) :
    (ofDeclarations ⟨false, prototypes⟩ revision rows).ordinalOf? name = none := by
  rw [ordinalOf?_eq_none_iff]
  by_cases blank : name = ""
  · exact .inl blank
  · refine .inr ?_
    intro action member
    obtain ⟨row, _, rfl⟩ := List.mem_map.mp member
    exact Ne.symm blank

end Catalog

-- What a name leads to on any table, on one that passes, on the shipped ones and without names.
theorem name_resolution_exact :
    (∀ (catalog : Catalog) (name : String),
      (catalog.ordinalOf? name = none ↔
        name = "" ∨ ∀ action ∈ catalog.actions, action.name ≠ name) ∧
      (∀ ordinal, catalog.ordinalOf? name = some ordinal ↔ name ≠ "" ∧
        ∃ position action, LastNamed catalog.actions name position action ∧
          action.ordinal = ordinal) ∧
      (∀ action, catalog.actionNamed name = .ok action ↔ ∃ ordinal,
        catalog.ordinalOf? name = some ordinal ∧ catalog.get? ordinal = some action) ∧
      ∀ failure, catalog.actionNamed name = .error failure ↔
        failure = .unknownName catalog.revision name ∧
          ∀ ordinal, catalog.ordinalOf? name = some ordinal → catalog.count ≤ ordinal) ∧
    (∀ catalog : Catalog, catalog.check = .ok () → catalog.NamesInverse) ∧
    (∀ (detail : Detail) (revision : Revision),
      (Shipped.catalog detail revision).check = .ok () ∧
        (Shipped.catalog detail revision).NamesInverse) ∧
    ∀ (prototypes : Bool) (revision : Revision) (rows : List Declaration) (name : String),
      (Catalog.ofDeclarations ⟨false, prototypes⟩ revision rows).ordinalOf? name = none ∧
        (Catalog.ofDeclarations ⟨false, prototypes⟩ revision rows).actionNamed name =
          .error (.unknownName revision name) := by
  refine ⟨?_, ?_, ?_, ?_⟩
  · intro catalog name
    exact ⟨Catalog.ordinalOf?_eq_none_iff, fun _ => Catalog.ordinalOf?_eq_some_iff,
      fun _ => Catalog.actionNamed_ok_iff, fun _ => Catalog.actionNamed_error_iff⟩
  · intro catalog sound
    exact ((Catalog.check_exact catalog).mp sound).namesInverse
  · intro detail revision
    have sound := Shipped.check_catalog detail revision
    exact ⟨sound, ((Catalog.check_exact _).mp sound).namesInverse⟩
  · intro prototypes revision rows name
    have unresolved := Catalog.ordinalOf?_nameless prototypes revision rows name
    refine ⟨unresolved, Catalog.actionNamed_error_iff.mpr ⟨rfl, ?_⟩⟩
    intro ordinal resolved
    rw [unresolved] at resolved
    cases resolved

theorem name_and_ordinal_reach_one_row :
    let catalog := Catalog.ofDeclarations .full .nwn1
      [declare 0 "First" 0 .void [] "", declare 1 "Second" 1 .int [.vector] ""]
    catalog.check = .ok () ∧ catalog.ordinalOf? "Second" = some 1 ∧
      ∃ action, action.name = "Second" ∧ catalog.actionAt 1 = .ok action ∧
        catalog.actionNamed "Second" = .ok action := by
  intro catalog
  have sound : catalog.check = .ok () := rfl
  have inverse := name_resolution_exact.2.1 catalog sound
  have resolved : catalog.ordinalOf? "Second" = some 1 :=
    (inverse.resolves "Second" 1).mpr ⟨by decide, _, rfl, rfl⟩
  exact ⟨sound, resolved, inverse.found "Second" 1 resolved⟩

theorem reportedOrdinal_idem (ordinal : Int) :
    reportedOrdinal (reportedOrdinal ordinal) = reportedOrdinal ordinal := by
  by_cases fits : Int64.minValue.toInt ≤ ordinal ∧ ordinal ≤ Int64.maxValue.toInt
  · have same : reportedOrdinal ordinal = ordinal := if_pos fits
    rw [same, same]
  · have largest : reportedOrdinal ordinal = Int64.maxValue.toInt := if_neg fits
    rw [largest]
    rfl

namespace MachineWord
variable {word : MachineWord}

theorem resized_eq (word : MachineWord) : word.resized = .ofInt word.value := by
  unfold resized value
  split
  · rfl
  · rw [← BitVec.ofNat_toNat, Int64.ofInt_eq_ofNat]
    rfl

theorem toInt_toInt64? (word : MachineWord) :
    (word.toInt64?.getD Int64.maxValue).toInt = reportedOrdinal word.value := by
  unfold toInt64? reportedOrdinal
  split
  · rename_i fits
    rw [Option.getD_some, resized_eq]
    exact Int64.toInt_ofInt_of_le fits.1 (Int.lt_of_le_of_lt fits.2 (by decide))
  · rfl

end MachineWord

theorem bind_position? {α : Type} (ordinal : Int64) (found : Nat → Option α) :
    ((position? ordinal).bind fun position => found position.toNat) =
      if 0 ≤ ordinal.toInt then found ordinal.toInt.toNat else none := by
  have sign : 0 ≤ ordinal ↔ 0 ≤ ordinal.toInt := Int64.le_iff_toInt_le
  unfold position?
  by_cases least : 0 ≤ ordinal
  · rw [if_pos least, if_pos (sign.mp least), Option.bind_some,
      Int64.toNat_toUInt64_of_le least]
    rfl
  · rw [if_neg least, if_neg (sign.not.mp least), Option.bind_none]

namespace Catalog
variable {catalog : Catalog} {ordinal : Int} {action : Action} {failure : Failure}

theorem actionAtWord_eq (catalog : Catalog) (word : MachineWord) :
    catalog.actionAtWord word = catalog.actionAt (reportedOrdinal word.value) := by
  rw [actionAtWord, bind_position?, word.toInt_toInt64?, actionAt, reportedOrdinal_idem]

theorem outside_of_not_fits (short : catalog.count < 2 ^ 63)
    (wide : ¬(Int64.minValue.toInt ≤ ordinal ∧ ordinal ≤ Int64.maxValue.toInt)) :
    ordinal < 0 ∨ catalog.count ≤ ordinal := by
  rw [Int64.toInt_minValue, Int64.toInt_maxValue] at wide
  omega

theorem actionAt_reportedOrdinal (short : catalog.count < 2 ^ 63) (ordinal : Int) :
    catalog.actionAt (reportedOrdinal ordinal) = catalog.actionAt ordinal := by
  by_cases fits : Int64.minValue.toInt ≤ ordinal ∧ ordinal ≤ Int64.maxValue.toInt
  · rw [reportedOrdinal, if_pos fits]
  · have largest : reportedOrdinal ordinal = Int64.maxValue.toInt := if_neg fits
    have behind : (catalog.count : Int) ≤ reportedOrdinal ordinal := by
      rw [largest, Int64.toInt_maxValue]
      omega
    have missed := actionAt_error_iff.mpr ⟨outside_of_not_fits short fits, rfl⟩
    rw [missed, actionAt_error_iff, reportedOrdinal_idem]
    exact ⟨.inr behind, rfl⟩

end Catalog

-- What an ordinal of any integer type finds depends on the integer alone. One that is no position
-- is never cut to one.
theorem ordinal_words_exact (catalog : Catalog) (short : catalog.count < 2 ^ 63) :
    (∀ word : MachineWord,
      (∀ action, catalog.actionAtWord word = .ok action ↔
        ∃ position : Nat, word.value = position ∧ catalog.get? position = some action) ∧
      ∀ failure, catalog.actionAtWord word = .error failure ↔
        (word.value < 0 ∨ catalog.count ≤ word.value) ∧
          failure =
            .outOfRange catalog.revision (reportedOrdinal word.value) catalog.count) ∧
    (∀ left right : MachineWord, left.value = right.value →
      catalog.actionAtWord left = catalog.actionAtWord right) ∧
    ∀ index : BitVec 64,
      ((∃ action, catalog.actionAtWord ⟨false, 64, index⟩ = .ok action) ↔
        (catalog.get? index.toNat).isSome) ∧
      ∀ action, catalog.actionAtWord ⟨false, 64, index⟩ = .ok action ↔
        catalog.get? index.toNat = some action := by
  have answered : ∀ word : MachineWord, catalog.actionAtWord word = catalog.actionAt word.value := by
    intro word
    rw [catalog.actionAtWord_eq, Catalog.actionAt_reportedOrdinal short]
  have indexed : ∀ (index : BitVec 64) (action : Action),
      catalog.actionAtWord ⟨false, 64, index⟩ = .ok action ↔
        catalog.get? index.toNat = some action := by
    intro index action
    rw [answered]
    exact Catalog.actionAt_ok_iff
  refine ⟨?_, ?_, ?_⟩
  · intro word
    rw [answered]
    exact ⟨fun _ => Catalog.actionAt_int_ok_iff, fun _ => Catalog.actionAt_error_iff⟩
  · intro left right same
    rw [answered, answered, same]
  · intro index
    refine ⟨?_, indexed index⟩
    simp only [indexed, Option.isSome_iff_exists]

theorem wide_words_reported_as_largest :
    let catalog := Catalog.ofDeclarations .full .nwn1
      [declare 0 "First" 0 .void [] "", declare 1 "Second" 1 .int [.vector] ""]
    (∃ action, action.name = "Second" ∧ catalog.actionAtWord (.ofInt false 8 1) = .ok action ∧
      catalog.actionAtWord (.ofInt true 128 1) = .ok action) ∧
    catalog.actionAtWord (.ofInt false 128 18446744073709551617) =
      .error (.outOfRange .nwn1 9223372036854775807 2) ∧
    catalog.actionAtWord (.ofInt true 128 (-18446744073709551615)) =
      .error (.outOfRange .nwn1 9223372036854775807 2) ∧
    catalog.actionAtWord (.ofInt true 8 (-1)) = .error (.outOfRange .nwn1 (-1) 2) := by
  intro catalog
  obtain ⟨answers, same, _⟩ := ordinal_words_exact catalog (by decide)
  have found := ((answers (.ofInt false 8 1)).1 _).mpr ⟨1, by decide, rfl⟩
  refine ⟨⟨_, rfl, found, (same _ _ (by decide)).trans found⟩, ?_, ?_, ?_⟩
  · exact ((answers _).2 _).mpr ⟨.inr (by decide), by decide⟩
  · exact ((answers _).2 _).mpr ⟨.inl (by decide), by decide⟩
  · exact ((answers _).2 _).mpr ⟨.inl (by decide), by decide⟩

end EngineActions
