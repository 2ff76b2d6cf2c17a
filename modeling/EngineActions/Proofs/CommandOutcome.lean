import EngineActions.CommandLine.Response
import EngineActions.Proofs.ActionReference
import EngineActions.Proofs.CallSites

namespace EngineActions

theorem Catalog.get?_of_find {catalog : Catalog} {reference : Reference} {action : Action}
    (found : catalog.find reference = .ok action) :
    ∃ position, catalog.get? position = some action := by
  cases reference with
  | ordinal value =>
    obtain ⟨position, _, stored⟩ := actionAt_int_ok_iff.mp found
    exact ⟨position, stored⟩
  | name text =>
    obtain ⟨ordinal, _, stored⟩ := actionNamed_ok_iff.mp found
    exact ⟨ordinal, stored⟩

namespace Action
variable {action : Action} {supplied : Nat}

theorem layoutReport_refused {failure : Failure}
    (refused : action.checkArguments supplied = .error failure) :
    action.layoutReport supplied = ⟨[], some ⟨some ("Cannot call " ++ action.label), failure⟩⟩ := by
  rw [layoutReport, refused]
  rfl

theorem layoutReport_completed {popped : UInt32} {delta : Int32}
    (accepted : action.checkArguments supplied = .ok ())
    (counted : action.argumentsSize supplied = .ok popped)
    (grown : action.stackDelta supplied = .ok delta) :
    action.layoutReport supplied =
      ⟨action.summary :: action.argumentLines supplied ++ [unwindLine popped, deltaLine delta],
        none⟩ := by
  rw [layoutReport, accepted, counted, grown]
  rfl

end Action

theorem checkReport_sound {catalogs : Revision → Catalog} {revisions : List Revision}
    (sound : ∀ revision ∈ revisions, (catalogs revision).check = .ok ()) :
    checkReport catalogs revisions =
      ⟨revisions.map fun revision => (catalogs revision).soundLine revision, none⟩ := by
  induction revisions with
  | nil => rfl
  | cons revision rest ih =>
    rw [List.forall_mem_cons] at sound
    rw [checkReport, sound.1, ih sound.2]
    rfl

namespace Command

-- The commands that cannot be carried out, each with all that is said.
inductive Refused (catalogs : Revision → Catalog) : Command → String → Prop where
  | describe (text : String) (revision : Revision) (json : Bool) (said : String) :
      (catalogs revision).Unreached text said →
      Refused catalogs (.describe text revision json) ("Error: " ++ said ++ "\n")
  | layout (text : String) (supplied : Nat) (revision : Revision) (said : String) :
      (catalogs revision).Unreached text said →
      Refused catalogs (.layout text supplied revision) ("Error: " ++ said ++ "\n")
  | tooFew (text : String) (supplied : Nat) (revision : Revision) (action : Action) :
      (catalogs revision).Meant text (.ok action) → supplied < action.required →
      Refused catalogs (.layout text supplied revision)
        (s!"Error: Cannot call #{action.ordinal} {action.name}" ++ "\n\nCaused by:\n    " ++
          s!"Too few arguments for action {action.ordinal}: {supplied} supplied, at least {action.required} required" ++ "\n")
  | tooMany (text : String) (supplied : Nat) (revision : Revision) (action : Action) :
      (catalogs revision).Meant text (.ok action) → action.accepted < supplied →
      Refused catalogs (.layout text supplied revision)
        (s!"Error: Cannot call #{action.ordinal} {action.name}" ++ "\n\nCaused by:\n    " ++
          s!"Too many arguments for action {action.ordinal}: {supplied} supplied, at most {action.accepted} accepted" ++ "\n")

-- The commands that are carried out, each with all its lines and with what has to succeed on the
-- way.
inductive Completed (catalogs : Revision → Catalog) : Command → List String → Prop where
  | list (revision : Revision) (json : Bool) :
      Completed catalogs (.list revision json) ((catalogs revision).listing json)
  | describe (text : String) (revision : Revision) (json : Bool) (action : Action) :
      (catalogs revision).find (.ofText text) = .ok action →
      Completed catalogs (.describe text revision json)
        (if json then action.record.lines else action.description)
  | layout (text : String) (supplied : Nat) (revision : Revision) (action : Action)
      (popped : UInt32) (delta : Int32) :
      (catalogs revision).find (.ofText text) = .ok action →
      action.required ≤ supplied → supplied ≤ action.accepted →
      action.argumentsSize supplied = .ok popped → action.stackDelta supplied = .ok delta →
      Completed catalogs (.layout text supplied revision)
        (action.summary :: action.argumentLines supplied ++
          [Action.unwindLine popped, Action.deltaLine delta])
  | check : (∀ revision, (catalogs revision).check = .ok ()) →
      Completed catalogs .check
        (Revision.all.map fun revision => (catalogs revision).soundLine revision)
  | compare (json : Bool) :
      Completed catalogs (.compare json) ((catalogs .nwn1).comparison (catalogs .nwn2) json)

variable {catalogs : Revision → Catalog} {command : Command}

theorem Completed.respond_eq {lines : List String} (completed : command.Completed catalogs lines) :
    command.respond catalogs = ⟨lines, none⟩ := by
  cases completed with
  | list revision json => simp [respond, Report.write, Report.done]
  | describe text revision json action found =>
    rw [respond, found]
    simp [Report.require, Report.write, Report.done]
  | layout text supplied revision action popped delta found least most counted grown =>
    rw [respond, found]
    exact Action.layoutReport_completed
      ((action.checkArguments_ok_iff supplied).mpr ⟨least, most⟩) counted grown
  | check sound => exact checkReport_sound fun revision _ => sound revision
  | compare json => simp [respond, Report.write, Report.done]

theorem Completed.answer?_eq {lines : List String} {read : Reader} {arguments : List String}
    (completed : command.Completed catalogs lines)
    (understood : read.command? arguments = some command) :
    read.answer? catalogs arguments = some ⟨lines, none⟩ := by
  rw [Reader.answer?, understood, Option.map_some, completed.respond_eq]

theorem Completed.ends {lines : List String} (completed : command.Completed catalogs lines) :
    (command.respond catalogs).exitCode = 0 ∧ (command.respond catalogs).errorOutput = "" ∧
      (command.respond catalogs).lines = lines := by
  rw [completed.respond_eq]
  exact ⟨rfl, rfl, rfl⟩

section Sound
variable (sound : ∀ revision, (catalogs revision).WellFormed)
  (named : ∀ revision position action,
    (catalogs revision).get? position = some action → action.name ≠ "")

include sound named in
theorem respond_refused_call {text : String} {supplied : Nat} {revision : Revision}
    {action : Action} {failure : Failure} (meant : (catalogs revision).Meant text (.ok action))
    (refused : action.checkArguments supplied = .error failure) :
    ∃ complaint : Complaint,
      (layout text supplied revision).respond catalogs = ⟨[], some complaint⟩ ∧
        complaint.cause = failure ∧
        complaint.text = s!"Error: Cannot call #{action.ordinal} {action.name}" ++
          "\n\nCaused by:\n    " ++ failure.message ++ "\n" := by
  have found := meant.find_eq (sound revision) (named revision)
  obtain ⟨position, stored⟩ := Catalog.get?_of_find found
  refine ⟨_, ?_, rfl, Action.text_cannotCall (named revision position action stored) failure⟩
  rw [respond, found]
  exact Action.layoutReport_refused refused

include sound named in
theorem Refused.respond_eq {text : String} (refused : command.Refused catalogs text) :
    ∃ complaint : Complaint, command.respond catalogs = ⟨[], some complaint⟩ ∧
      complaint.text = text ∧ ∀ ordinal supplied, complaint.cause ≠ .sizeMissing ordinal supplied := by
  cases refused with
  | describe text revision json said unreached =>
    obtain ⟨failure, missing, rfl, other⟩ := unreached.find_error (sound revision) (named revision)
    exact ⟨⟨none, failure⟩, by rw [respond, missing]; rfl, rfl, other⟩
  | layout text supplied revision said unreached =>
    obtain ⟨failure, missing, rfl, other⟩ := unreached.find_error (sound revision) (named revision)
    exact ⟨⟨none, failure⟩, by rw [respond, missing]; rfl, rfl, other⟩
  | tooFew text supplied revision action meant few =>
    obtain ⟨complaint, report, cause, said⟩ :=
      respond_refused_call sound named meant (Action.checkArguments_tooFew few)
    exact ⟨complaint, report, said, by rw [cause]; nofun⟩
  | tooMany text supplied revision action meant many =>
    obtain ⟨position, stored⟩ :=
      Catalog.get?_of_find (meant.find_eq (sound revision) (named revision))
    have enough : action.required ≤ supplied :=
      Nat.le_trans ((sound revision).rows position action stored).required_le (Nat.le_of_lt many)
    obtain ⟨complaint, report, cause, said⟩ :=
      respond_refused_call sound named meant (Action.checkArguments_tooMany enough many)
    exact ⟨complaint, report, said, by rw [cause]; nofun⟩

include sound named in
theorem Refused.ends {text : String} (refused : command.Refused catalogs text) :
    (command.respond catalogs).exitCode = 1 ∧ (command.respond catalogs).output = "" ∧
      (command.respond catalogs).errorOutput = text := by
  obtain ⟨complaint, report, said, _⟩ := refused.respond_eq sound named
  rw [report]
  exact ⟨rfl, rfl, said⟩

include sound named in
theorem layout_refused_or_completed (text : String) (supplied : Nat) (revision : Revision) :
    (∃ said, (layout text supplied revision).Refused catalogs said) ∨
      ∃ lines, (layout text supplied revision).Completed catalogs lines := by
  cases found : (catalogs revision).find (.ofText text) with
  | error failure =>
    have meant := (Catalog.find_eq_iff (sound revision) (named revision)).mp found
    exact .inl ⟨_, .layout text supplied revision _ meant.unreached⟩
  | ok action =>
    have meant := (Catalog.find_eq_iff (sound revision) (named revision)).mp found
    obtain ⟨position, stored⟩ := Catalog.get?_of_find found
    have valid := (sound revision).rows position action stored
    rcases Nat.lt_or_ge supplied action.required with few | least
    · exact .inl ⟨_, .tooFew text supplied revision action meant few⟩
    · rcases Nat.lt_or_ge action.accepted supplied with many | most
      · exact .inl ⟨_, .tooMany text supplied revision action meant many⟩
      · obtain ⟨popped, counted, _⟩ := valid.argumentsSize_exact least most
        obtain ⟨delta, grown, _⟩ := valid.stackDelta_exact least most
        exact .inr ⟨_, .layout text supplied revision action popped delta found least most counted
          grown⟩

include sound named in
theorem refused_or_completed (command : Command) :
    (∃ text, command.Refused catalogs text) ∨ ∃ lines, command.Completed catalogs lines := by
  cases command with
  | list revision json => exact .inr ⟨_, .list revision json⟩
  | describe text revision json =>
    cases found : (catalogs revision).find (.ofText text) with
    | error failure =>
      have meant := (Catalog.find_eq_iff (sound revision) (named revision)).mp found
      exact .inl ⟨_, .describe text revision json _ meant.unreached⟩
    | ok action => exact .inr ⟨_, .describe text revision json action found⟩
  | layout text supplied revision =>
    exact layout_refused_or_completed sound named text supplied revision
  | check => exact .inr ⟨_, .check fun revision => (Catalog.check_exact _).mpr (sound revision)⟩
  | compare json => exact .inr ⟨_, .compare json⟩

end Sound
end Command

-- A command line that is understood is refused, with nothing written but the reason, or carried out
-- to its last line. No sum made once lines are written fails, and no run is broken off.
theorem command_outcome (read : Reader) (arguments : List String) (command : Command)
    (understood : read.command? arguments = some command) :
    ∃ report, read.answer? (Shipped.catalog .full) arguments = some report ∧
      (report.exitCode = 0 ∨ report.exitCode = 1) ∧
      (∀ complaint ordinal supplied, report.complaint = some complaint →
        complaint.cause ≠ .sizeMissing ordinal supplied) ∧
      (report.exitCode = 1 ↔ ∃ text, command.Refused (Shipped.catalog .full) text) ∧
      (∀ text, command.Refused (Shipped.catalog .full) text →
        report.output = "" ∧ report.errorOutput = text) ∧
      (report.exitCode = 0 → report.errorOutput = "" ∧
        command.Completed (Shipped.catalog .full) report.lines) ∧
      ((∃ revision json, command = .list revision json) ∨ command = .check ∨
        (∃ json, command = .compare json) → report.exitCode = 0) := by
  have sound := Shipped.wellFormed_catalog .full
  have named : ∀ revision position action,
      (Shipped.catalog .full revision).get? position = some action → action.name ≠ "" :=
    fun _ _ _ => Shipped.name_ne_empty rfl
  have refusal : ∀ text, command.Refused (Shipped.catalog .full) text →
      (command.respond (Shipped.catalog .full)).exitCode = 1 ∧
        (command.respond (Shipped.catalog .full)).output = "" ∧
        (command.respond (Shipped.catalog .full)).errorOutput = text :=
    fun _ refused => refused.ends sound named
  refine ⟨command.respond (Shipped.catalog .full),
    by rw [Reader.answer?, understood, Option.map_some], ?_⟩
  rcases Command.refused_or_completed sound named command with
    ⟨text, refused⟩ | ⟨lines, completed⟩
  · have code := (refusal text refused).1
    obtain ⟨complaint, report, _, cause⟩ := refused.respond_eq sound named
    refine ⟨.inr code, ?_, ⟨fun _ => ⟨text, refused⟩, fun _ => code⟩,
      fun other again => (refusal other again).2, ?_, ?_⟩
    · intro other ordinal supplied said
      rw [report] at said
      cases said
      exact cause ordinal supplied
    · intro zero
      rw [code] at zero
      exact absurd zero (by decide)
    · rintro (⟨_, _, rfl⟩ | rfl | ⟨_, rfl⟩)
      · cases refused
      · cases refused
      · cases refused
  · obtain ⟨code, silent, written⟩ := completed.ends
    refine ⟨.inl code, ?_, ⟨?_, ?_⟩, fun other again => (refusal other again).2,
      fun _ => ⟨silent, ?_⟩, fun _ => code⟩
    · intro complaint ordinal supplied said
      rw [completed.respond_eq] at said
      cases said
    · intro one
      rw [code] at one
      exact absurd one (by decide)
    · rintro ⟨text, refused⟩
      exact (refusal text refused).1
    · rw [written]
      exact completed

theorem surplus_argument_refused_and_check_completed :
    (∃ report, respond? (Shipped.catalog .full) ["layout", "79", "--args=5"] = some report ∧
      report.exitCode = 1 ∧ report.output = "" ∧
      report.errorOutput = "Error: Cannot call #79 EffectDamage\n\nCaused by:\n" ++
        "    Too many arguments for action 79: 5 supplied, at most 4 accepted\n") ∧
    ∃ report, respond? (Shipped.catalog .full) ["check"] = some report ∧ report.exitCode = 0 ∧
      report.lines = ["nwn1: 848 actions OK", "nwn2: 1058 actions OK"] := by
  obtain ⟨layout, answered, _, _, code, refusal, _⟩ := command_outcome .conventional
    ["layout", "79", "--args=5"] (.layout "79" 5 .nwn2) (by decide +kernel)
  obtain ⟨check, checked, _, _, _, _, completion, always⟩ := command_outcome .conventional
    ["check"] .check (by decide +kernel)
  have number : Numeral.OrdinalText "79" (79 : Nat) := Numeral.ordinal?_eq_some_iff.mp rfl
  have refused : Command.Refused (Shipped.catalog .full) (.layout "79" 5 .nwn2) _ :=
    .tooMany "79" 5 .nwn2 _ (.row 79 _ number rfl) (by decide)
  refine ⟨⟨layout, answered, code.mpr ⟨_, refused⟩, (refusal _ refused).1,
    (refusal _ refused).2.trans (by decide +kernel)⟩, check, checked,
    always (.inr (.inl rfl)), ?_⟩
  have completed := (completion (always (.inr (.inl rfl)))).2
  generalize check.lines = lines at completed ⊢
  cases completed
  decide +kernel

end EngineActions
