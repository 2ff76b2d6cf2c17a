import EngineActions.CommandLine.Response
import EngineActions.Proofs.FailureTexts
import EngineActions.Proofs.RowLookup

namespace EngineActions

open Numeral

-- What a text given for an action stands for. An ordinal is never looked up as a name, and all else
-- never by position.
inductive Catalog.Meant (catalog : Catalog) (text : String) : Except Failure Action → Prop where
  | row (position : Nat) (action : Action) : OrdinalText text position →
      catalog.get? position = some action → Meant catalog text (.ok action)
  | outside (value : Int) : OrdinalText text value → (value < 0 ∨ catalog.count ≤ value) →
      Meant catalog text (.error (.outOfRange catalog.revision value catalog.count))
  | named (position : Nat) (action : Action) : (∀ value, ¬OrdinalText text value) →
      catalog.get? position = some action → action.name = text → Meant catalog text (.ok action)
  | unknown : (∀ value, ¬OrdinalText text value) →
      (∀ position action, catalog.get? position = some action → action.name ≠ text) →
      Meant catalog text (.error (.unknownName catalog.revision text))

-- Why a text leads to no row, and what is said of it.
inductive Catalog.Unreached (catalog : Catalog) (text : String) : String → Prop where
  | outside (value : Int) : OrdinalText text value → (value < 0 ∨ catalog.count ≤ value) →
      Unreached catalog text
        s!"{catalog.revision.word} action ordinal {value} out of range (count {catalog.count})"
  | unknown : (∀ value, ¬OrdinalText text value) →
      (∀ position action, catalog.get? position = some action → action.name ≠ text) →
      Unreached catalog text s!"{catalog.revision.word} has no action named '{text}'"

inductive Request
  | describe (json : Bool)
  | layout (supplied : Nat)

namespace Request

def command (text : String) (revision : Revision) : Request → Command
  | describe json => .describe text revision json
  | layout supplied => .layout text supplied revision

def answer (action : Action) : Request → Report
  | describe json => .write (if json then action.record.lines else action.description)
  | layout supplied => action.layoutReport supplied

end Request

namespace Catalog
variable {catalog : Catalog} {text : String}

theorem find_of_ordinal {value : Int} (read : OrdinalText text value) :
    catalog.find (.ofText text) = catalog.actionAt value := by
  rw [Reference.ofText, ordinal?_eq_some_iff.mpr read, find]

theorem find_of_word (word : ∀ value, ¬OrdinalText text value) :
    catalog.find (.ofText text) = catalog.actionNamed text := by
  rw [Reference.ofText, ordinal?_eq_none_iff.mpr word, find]

theorem actionAt_of_outside {value : Int} (least : Int64.minValue.toInt ≤ value)
    (most : value ≤ Int64.maxValue.toInt) (outside : value < 0 ∨ catalog.count ≤ value) :
    catalog.actionAt value =
      .error (.outOfRange catalog.revision value catalog.count) := by
  refine actionAt_error_iff.mpr ⟨outside, ?_⟩
  rw [reportedOrdinal, if_pos ⟨least, most⟩]

theorem actionNamed_of_absent (absent : ∀ position action,
    catalog.get? position = some action → action.name ≠ text) :
    catalog.actionNamed text = .error (.unknownName catalog.revision text) := by
  have unresolved : catalog.ordinalOf? text = none := by
    refine ordinalOf?_eq_none_iff.mpr (.inr ?_)
    intro action member
    obtain ⟨position, stored⟩ := List.mem_iff_getElem?.mp member
    exact absent position action stored
  rw [actionNamed, unresolved]
  rfl

theorem WellFormed.actionNamed_of_stored (valid : catalog.WellFormed) {position : Nat}
    {action : Action} (stored : catalog.get? position = some action) (given : action.name ≠ "") :
    catalog.actionNamed action.name = .ok action :=
  actionNamed_ok_iff.mpr ⟨position,
    (valid.ordinalOf?_iff action.name position).mpr ⟨given, action, stored, rfl⟩, stored⟩

section Sound
variable (valid : catalog.WellFormed)
  (named : ∀ position action, catalog.get? position = some action → action.name ≠ "")

include valid named in
theorem Meant.find_eq {result : Except Failure Action} (meant : catalog.Meant text result) :
    catalog.find (.ofText text) = result := by
  cases meant with
  | row position action read stored =>
    rw [find_of_ordinal read]
    exact actionAt_ok_iff.mpr stored
  | outside value read outside =>
    rw [find_of_ordinal read]
    exact actionAt_of_outside read.least read.most outside
  | named position action word stored same =>
    rw [find_of_word word, ← same]
    exact valid.actionNamed_of_stored stored (named position action stored)
  | unknown word absent =>
    rw [find_of_word word]
    exact actionNamed_of_absent absent

theorem exists_meant (catalog : Catalog) (text : String) :
    ∃ result, catalog.Meant text result := by
  by_cases number : ∃ value, OrdinalText text value
  · obtain ⟨value, read⟩ := number
    by_cases outside : value < 0 ∨ catalog.count ≤ value
    · exact ⟨_, .outside value read outside⟩
    · obtain ⟨position, rfl⟩ := Int.eq_ofNat_of_zero_le (Int.not_lt.mp (not_or.mp outside).1)
      have inside : position < catalog.actions.length := by
        have below := (not_or.mp outside).2
        rw [count] at below
        omega
      exact ⟨_, .row position catalog.actions[position] read (List.getElem?_eq_getElem inside)⟩
  · have word := not_exists.mp number
    by_cases stored : ∃ position action, catalog.get? position = some action ∧ action.name = text
    · obtain ⟨position, action, found, same⟩ := stored
      exact ⟨_, .named position action word found same⟩
    · refine ⟨_, .unknown word ?_⟩
      intro position action found same
      exact stored ⟨position, action, found, same⟩

theorem Meant.unreached {failure : Failure} (meant : catalog.Meant text (.error failure)) :
    catalog.Unreached text failure.message := by
  cases meant with
  | outside value read outside =>
    rw [Failure.message_outOfRange]
    exact .outside value read outside
  | unknown word absent =>
    rw [Failure.message_unknownName]
    exact .unknown word absent

theorem Unreached.exists_meant {said : String} (unreached : catalog.Unreached text said) :
    ∃ failure, catalog.Meant text (.error failure) ∧ failure.message = said := by
  cases unreached with
  | outside value read outside =>
    exact ⟨_, .outside value read outside, Failure.message_outOfRange _ _⟩
  | unknown word absent => exact ⟨_, .unknown word absent, Failure.message_unknownName _⟩

include valid named in
theorem Unreached.find_error {said : String} (unreached : catalog.Unreached text said) :
    ∃ failure : Failure, catalog.find (.ofText text) = .error failure ∧ failure.message = said ∧
      ∀ ordinal supplied, failure ≠ .sizeMissing ordinal supplied := by
  obtain ⟨failure, meant, same⟩ := unreached.exists_meant
  refine ⟨failure, meant.find_eq valid named, same, ?_⟩
  rintro ordinal supplied rfl
  cases meant

include valid named in
theorem find_eq_iff {result : Except Failure Action} :
    catalog.find (.ofText text) = result ↔ catalog.Meant text result := by
  constructor
  · rintro rfl
    obtain ⟨result, meant⟩ := exists_meant catalog text
    rwa [meant.find_eq valid named]
  · exact Meant.find_eq valid named

end Sound
end Catalog

namespace Request
variable {catalogs : Revision → Catalog} {text : String} {revision : Revision} {request : Request}

theorem respond_command : (request.command text revision).respond catalogs =
    Report.require none ((catalogs revision).find (.ofText text)) request.answer := by
  cases request with
  | describe json => rfl
  | layout supplied => rfl

theorem answer?_eq {read : Reader} {arguments : List String}
    (understood : read.command? arguments = some (request.command text revision)) :
    read.answer? catalogs arguments = some
      (.require none ((catalogs revision).find (.ofText text)) request.answer) := by
  rw [Reader.answer?, understood, Option.map_some, respond_command]

end Request

namespace Shipped
variable {revision : Revision} {text : String} {position : Nat} {action : Action}

def Fails (read : Reader) (arguments : List String) (said : String) : Prop :=
  ∃ report, read.answer? (catalog .full) arguments = some report ∧ report.exitCode = 1 ∧
    report.output = "" ∧ report.errorOutput = "Error: " ++ said ++ "\n"

-- How a row of a shipped table is reached: by its name, which is no number, and by every spelling
-- of its ordinal, with one answer to whatever is asked.
structure Reached (revision : Revision) (position : Nat) (action : Action) : Prop where
  noNumber : ∀ value, ¬Literal action.name.toList value
  named : (catalog .full revision).Meant action.name (.ok action)
  numbered : ∀ spelling : String, Literal spelling.toList position →
    (catalog .full revision).Meant spelling (.ok action)
  alike : ∀ (read : Reader) (spelling : String) (request : Request)
    (byOrdinal byName : List String), Literal spelling.toList position →
    read.command? byOrdinal = some (request.command spelling revision) →
    read.command? byName = some (request.command action.name revision) →
    read.answer? (catalog .full) byOrdinal = read.answer? (catalog .full) byName

theorem find_eq_iff {result : Except Failure Action} :
    (catalog .full revision).find (.ofText text) = result ↔
      (catalog .full revision).Meant text result :=
  Catalog.find_eq_iff (wellFormed_catalog .full revision) fun _ _ => name_ne_empty rfl

theorem existsUnique_meant (revision : Revision) (text : String) :
    ∃! result, (catalog .full revision).Meant text result :=
  ⟨_, find_eq_iff.mp rfl, fun _ meant => (find_eq_iff.mpr meant).symm⟩

theorem answer?_of_meant {read : Reader} {request : Request} {arguments : List String}
    {result : Except Failure Action} (meant : (catalog .full revision).Meant text result)
    (understood : read.command? arguments = some (request.command text revision)) :
    read.answer? (catalog .full) arguments = some (.require none result request.answer) := by
  rw [Request.answer?_eq understood, find_eq_iff.mpr meant]

theorem fails_of_unreached {read : Reader} {request : Request} {arguments : List String}
    {said : String} (unreached : (catalog .full revision).Unreached text said)
    (understood : read.command? arguments = some (request.command text revision)) :
    Fails read arguments said := by
  obtain ⟨failure, meant, rfl⟩ := unreached.exists_meant
  exact ⟨_, answer?_of_meant meant understood, rfl, rfl, rfl⟩

theorem reached_or_unreached (revision : Revision) (text : String) :
    (∃ action, (catalog .full revision).Meant text (.ok action)) ∨
      ∃ said, (catalog .full revision).Unreached text said := by
  obtain ⟨result, meant⟩ := Catalog.exists_meant (catalog .full revision) text
  cases result with
  | ok action => exact .inl ⟨action, meant⟩
  | error failure => exact .inr ⟨_, meant.unreached⟩

theorem actionCount_le (revision : Revision) :
    (revision.actionCount : Int) ≤ Int64.maxValue.toInt := by
  cases revision <;> decide

theorem reached (stored : (catalog .full revision).get? position = some action) :
    Reached revision position action := by
  have noNumber := (identifier_name rfl stored).not_literal
  have named : (catalog .full revision).Meant action.name (.ok action) :=
    .named position action (fun value read => noNumber value read.literal) stored rfl
  have small : (position : Int) ≤ Int64.maxValue.toInt :=
    Int.le_trans (Int.ofNat_le.mpr (Nat.le_of_lt (lt_actionCount stored))) (actionCount_le revision)
  have numbered : ∀ spelling : String, Literal spelling.toList position →
      (catalog .full revision).Meant spelling (.ok action) := by
    intro spelling number
    exact .row position action (number.ordinalText small) stored
  refine ⟨noNumber, named, numbered, ?_⟩
  intro read spelling request byOrdinal byName number understood understoodName
  rw [answer?_of_meant (numbered spelling number) understood,
    answer?_of_meant named understoodName]

theorem outside_of_ordinal {value : Int} (read : OrdinalText text value)
    (outside : value < 0 ∨ revision.actionCount ≤ value) :
    (catalog .full revision).Unreached text
      s!"{revision.word} action ordinal {value} out of range (count {revision.actionCount})" := by
  rw [← count_catalog .full revision] at outside ⊢
  exact .outside value read outside

theorem unknown_of_literal {value : Int} (number : Literal text.toList value)
    (wide : value < Int64.minValue.toInt ∨ Int64.maxValue.toInt < value) :
    (catalog .full revision).Unreached text s!"{revision.word} has no action named '{text}'" := by
  refine .unknown ?_ ?_
  · intro other read
    have same : value = other := number.unique read.literal
    have least := read.least
    have most := read.most
    omega
  · rintro position action stored rfl
    exact (identifier_name rfl stored).not_literal value number

end Shipped

-- Every text means one thing, a row or a failure, and every run answers with that row or says why
-- there is none. Every row is reached by its name and by every spelling of its ordinal alike.
theorem action_reference_exact (revision : Revision) :
    (∀ text : String, (∃! result, (Shipped.catalog .full revision).Meant text result) ∧
      ((∃ action, (Shipped.catalog .full revision).Meant text (.ok action)) ∨
        ∃ said, (Shipped.catalog .full revision).Unreached text said) ∧
      ∀ (read : Reader) (request : Request) (arguments : List String),
        read.command? arguments = some (request.command text revision) →
        (∀ action, (Shipped.catalog .full revision).Meant text (.ok action) →
          read.answer? (Shipped.catalog .full) arguments = some (request.answer action)) ∧
        ∀ said, (Shipped.catalog .full revision).Unreached text said →
          Shipped.Fails read arguments said) ∧
    ∀ (position : Nat) (action : Action),
      (Shipped.catalog .full revision).get? position = some action →
        Shipped.Reached revision position action := by
  refine ⟨?_, fun _ _ => Shipped.reached⟩
  intro text
  refine ⟨Shipped.existsUnique_meant revision text, Shipped.reached_or_unreached revision text, ?_⟩
  intro read request arguments understood
  exact ⟨fun action meant => Shipped.answer?_of_meant meant understood,
    fun said unreached => Shipped.fails_of_unreached unreached understood⟩

theorem spellings_alike_and_misses_named :
    respond? (Shipped.catalog .full) ["show", "0079", "-r", "nwn1"] =
        respond? (Shipped.catalog .full) ["show", "--revision=nwn1", "EffectDamage"] ∧
      respond? (Shipped.catalog .full) ["layout", "+79", "-a", "4", "-rnwn1"] =
        respond? (Shipped.catalog .full) ["layout", "-a=4", "-rnwn1", "EffectDamage"] ∧
      (∃ report, respond? (Shipped.catalog .full) ["show", "848", "-rnwn1"] = some report ∧
        report.exitCode = 1 ∧
        report.errorOutput = "Error: nwn1 action ordinal 848 out of range (count 848)\n") ∧
      ∃ report, respond? (Shipped.catalog .full) ["show", "9223372036854775808", "-rnwn1"] =
          some report ∧ report.exitCode = 1 ∧
        report.errorOutput = "Error: nwn1 has no action named '9223372036854775808'\n" := by
  obtain ⟨meaning, rows⟩ := action_reference_exact .nwn1
  obtain ⟨action, stored, name⟩ : ∃ action, (Shipped.catalog .full .nwn1).get? 79 = some action ∧
      action.name = "EffectDamage" := ⟨_, rfl, rfl⟩
  have alike := (rows 79 action stored).alike .conventional
  rw [name] at alike
  refine ⟨?_, ?_, ?_, ?_⟩
  · have number : Literal "0079".toList 79 := Numeral.literal_of_integer? (by decide)
    exact alike "0079" (.describe false) _ _ number (by decide +kernel) (by decide +kernel)
  · have number : Literal "+79".toList 79 := Numeral.literal_of_integer? (by decide)
    exact alike "+79" (.layout 4) _ _ number (by decide +kernel) (by decide +kernel)
  · have number : OrdinalText "848" 848 := Numeral.ordinal?_eq_some_iff.mp rfl
    have behind : (Shipped.catalog .full .nwn1).Unreached "848" _ :=
      Shipped.outside_of_ordinal number (.inr (by decide))
    obtain ⟨report, answered, code, _, said⟩ := ((meaning "848").2.2 .conventional
      (.describe false) ["show", "848", "-rnwn1"] (by decide +kernel)).2 _ behind
    exact ⟨report, answered, code, said.trans (by decide +kernel)⟩
  · have number : Literal "9223372036854775808".toList 9223372036854775808 :=
      Numeral.literal_of_integer? (by decide)
    have wide : (Shipped.catalog .full .nwn1).Unreached "9223372036854775808" _ :=
      Shipped.unknown_of_literal number (.inr (by decide))
    obtain ⟨report, answered, code, _, said⟩ := ((meaning "9223372036854775808").2.2 .conventional
      (.describe false) ["show", "9223372036854775808", "-rnwn1"] (by decide +kernel)).2 _ wide
    exact ⟨report, answered, code, said.trans (by decide +kernel)⟩

end EngineActions
