import EngineActions.Proofs.CallPicture
import EngineActions.Proofs.JsonReading

namespace EngineActions

open Numeral

namespace Shipped
variable {revision : Revision} {position : Nat} {text : String} {action : Action}
  {read : Reader} {arguments : List String}

inductive StandsFor (revision : Revision) (position : Nat) : String → Prop where
  | ordinal (spelling : String) : Literal spelling.toList position →
      StandsFor revision position spelling
  | name (action : Action) : (catalog .full revision).get? position = some action →
      StandsFor revision position action.name

def PrintsJson (read : Reader) (arguments : List String) (value : Json) : Prop :=
  ∃ report, read.answer? (catalog .full) arguments = some report ∧ report.exitCode = 0 ∧
    report.errorOutput = "" ∧ Json.Printed report.output value

theorem Prints.unique {lines others : List String} (printed : Prints read arguments lines)
    (again : Prints read arguments others) : lines = others := by
  obtain ⟨report, answered, _, _, lined⟩ := printed
  obtain ⟨reportOther, answeredOther, _, _, linedOther⟩ := again
  cases answered.symm.trans answeredOther
  exact lined.unique linedOther

theorem PrintsJson.unique {value other : Json} (printed : PrintsJson read arguments value)
    (again : PrintsJson read arguments other) : value = other := by
  obtain ⟨report, answered, _, _, said⟩ := printed
  obtain ⟨reportOther, answeredOther, _, _, saidOther⟩ := again
  cases answered.symm.trans answeredOther
  exact said.unique saidOther

theorem PrintsJson.of_completed {command : Command} {value : Json}
    (completed : command.Completed (catalog .full) value.lines)
    (understood : read.command? arguments = some command) : PrintsJson read arguments value :=
  ⟨_, completed.answer?_eq understood, rfl, rfl, value.printed_output⟩

theorem exists_row (inside : position < revision.actionCount) :
    ∃ action, (catalog .full revision).get? position = some action := by
  rw [← count_catalog .full revision] at inside
  exact ⟨_, List.getElem?_eq_getElem inside⟩

theorem StandsFor.find_eq (stands : StandsFor revision position text)
    (stored : (catalog .full revision).get? position = some action) :
    (catalog .full revision).find (.ofText text) = .ok action := by
  have reached := reached stored
  cases stands with
  | ordinal spelling number => exact find_eq_iff.mpr (reached.numbered text number)
  | name other storedOther =>
    cases storedOther.symm.trans stored
    exact find_eq_iff.mpr reached.named

end Shipped

-- The list has one line for each row, the first one of the row's description. As data it is one
-- array of the values that the descriptions are, each text two blanks to the right.
theorem list_show_agree (read : Reader) (revision : Revision) :
    (∃ heads : List String, heads.length = revision.actionCount ∧
      (∀ arguments, read.command? arguments = some (.list revision false) →
        Shipped.Prints read arguments heads) ∧
      ∀ position text arguments, position < revision.actionCount →
        Shipped.StandsFor revision position text →
        read.command? arguments = some (.describe text revision false) →
        ∃ lines, Shipped.Prints read arguments lines ∧ lines.head? = heads[position]?) ∧
    (∃ values : List Json, values.length = revision.actionCount ∧
      (∀ arguments, read.command? arguments = some (.list revision true) →
        Shipped.PrintsJson read arguments (.array values)) ∧
      (∀ position text arguments, position < revision.actionCount →
        Shipped.StandsFor revision position text →
        read.command? arguments = some (.describe text revision true) →
        ∃ value, Shipped.PrintsJson read arguments value ∧ values[position]? = some value) ∧
      ∀ output, Json.Printed output (.array values) → output.toList =
        ['[', '\n', ' ', ' '] ++
          [',', '\n', ' ', ' '].intercalate
            (values.map fun value => Json.nested (value.written 0)) ++
          ['\n', ']', '\n']) ∧
    (∀ arguments lines others, Shipped.Prints read arguments lines →
      Shipped.Prints read arguments others → lines = others) ∧
    ∀ arguments value other, Shipped.PrintsJson read arguments value →
      Shipped.PrintsJson read arguments other → value = other := by
  have count : (Shipped.catalog .full revision).actions.length = revision.actionCount :=
    Shipped.count_catalog .full revision
  refine ⟨⟨(Shipped.catalog .full revision).actions.map Action.summary, ?_, ?_, ?_⟩,
    ⟨(Shipped.catalog .full revision).actions.map Action.record, ?_, ?_, ?_, ?_⟩,
    fun _ _ _ printed again => printed.unique again,
    fun _ _ _ printed again => printed.unique again⟩
  · rw [List.length_map, count]
  · exact fun arguments understood => Shipped.prints_list understood
  · intro position text arguments inside stands understood
    obtain ⟨action, stored⟩ := Shipped.exists_row inside
    exact ⟨_, Shipped.prints_describe (stands.find_eq stored) understood,
      (Catalog.getElem?_listed stored Action.summary).symm⟩
  · rw [List.length_map, count]
  · intro arguments understood
    exact .of_completed (.list revision true) understood
  · intro position text arguments inside stands understood
    obtain ⟨action, stored⟩ := Shipped.exists_row inside
    have completed : (Command.describe text revision true).Completed (Shipped.catalog .full) _ :=
      .describe text revision true action (stands.find_eq stored)
    exact ⟨action.record, .of_completed completed understood,
      Catalog.getElem?_listed stored Action.record⟩
  · intro output printed
    have given : (Shipped.catalog .full revision).actions.map Action.record ≠ [] := by
      intro none
      rw [List.map_eq_nil_iff.mp none] at count
      cases revision <;> cases count
    rw [printed, Json.written_array given]
    simp only [List.append_assoc, List.cons_append, List.nil_append]

theorem listed_row_shown_alike :
    (∃ heads lines, Shipped.Prints .conventional ["list", "-rnwn1"] heads ∧
      Shipped.Prints .conventional ["show", "EffectDamage", "-r", "nwn1"] lines ∧
      heads.length = 848 ∧ lines.head? = heads[79]?) ∧
    ∃ values value, Shipped.PrintsJson .conventional ["list", "--json", "-rnwn1"] (.array values) ∧
      Shipped.PrintsJson .conventional ["show", "-rnwn1", "+079", "--json"] value ∧
      values.length = 848 ∧ values[79]? = some value := by
  obtain ⟨⟨heads, count, listed, shown⟩, ⟨values, length, data, parts, _⟩, _⟩ :=
    list_show_agree .conventional .nwn1
  obtain ⟨action, stored, name⟩ : ∃ action, (Shipped.catalog .full .nwn1).get? 79 = some action ∧
      action.name = "EffectDamage" := ⟨_, rfl, rfl⟩
  have named : Shipped.StandsFor .nwn1 79 "EffectDamage" := name ▸ .name action stored
  have numbered : Shipped.StandsFor .nwn1 79 "+079" :=
    .ordinal _ (literal_of_integer? (by decide))
  obtain ⟨lines, printed, head⟩ := shown 79 "EffectDamage" ["show", "EffectDamage", "-r", "nwn1"]
    (by decide) named (by decide +kernel)
  obtain ⟨value, said, place⟩ := parts 79 "+079" ["show", "-rnwn1", "+079", "--json"]
    (by decide) numbered (by decide +kernel)
  exact ⟨⟨heads, lines, listed _ (by decide +kernel), printed, count, head⟩,
    values, value, data _ (by decide +kernel), said, length, place⟩

end EngineActions
