import EngineActions.Catalog.Check
import EngineActions.CommandLine.Command
import EngineActions.CommandLine.Reader
import EngineActions.Listing

namespace EngineActions

structure Complaint where
  attempt : Option String
  cause : Failure
deriving DecidableEq

def Complaint.text (complaint : Complaint) : String :=
  match complaint.attempt with
  | none => "Error: " ++ complaint.cause.message ++ "\n"
  | some attempt =>
    "Error: " ++ attempt ++ "\n\nCaused by:\n    " ++ complaint.cause.message ++ "\n"

-- Lines written before a failure stay written.
structure Report where
  lines : List String
  complaint : Option Complaint
deriving DecidableEq

namespace Report

def done : Report := ⟨[], none⟩

def write (lines : List String) (next : Report := done) : Report :=
  ⟨lines ++ next.lines, next.complaint⟩

def require {α : Type} (attempt : Option String) (result : Except Failure α)
    (next : α → Report) : Report :=
  match result with
  | .ok value => next value
  | .error cause => ⟨[], some ⟨attempt, cause⟩⟩

def exitCode (report : Report) : UInt32 := if report.complaint.isNone then 0 else 1

def output (report : Report) : String := String.join (report.lines.map (· ++ "\n"))

def errorOutput (report : Report) : String :=
  match report.complaint with
  | none => ""
  | some complaint => complaint.text

end Report

open Report

namespace Catalog

def listing (catalog : Catalog) (json : Bool) : List String :=
  if json then (Json.array (catalog.actions.map Action.record)).lines
  else catalog.actions.map Action.summary

def comparison (left right : Catalog) (json : Bool) : List String :=
  let found := left.divergences right
  if json then (Json.array (found.map Divergence.record)).lines
  else found.flatMap Divergence.description ++ [toString found.length ++ " divergent ordinals"]

def soundLine (catalog : Catalog) (revision : Revision) : String :=
  revision.keyword ++ ": " ++ toString catalog.count ++ " actions OK"

end Catalog

-- Whether the call is allowed is settled before anything is written; the sums that follow cannot
-- fail on a sound row.
def Action.layoutReport (action : Action) (supplied : Nat) : Report :=
  require (some ("Cannot call " ++ action.label)) (action.checkArguments supplied) fun _ =>
    write (action.summary :: action.argumentLines supplied) <|
      require none (action.argumentsSize supplied) fun popped =>
        write [Action.unwindLine popped] <|
          require none (action.stackDelta supplied) fun delta =>
            write [Action.deltaLine delta]

def checkReport (catalogs : Revision → Catalog) : List Revision → Report
  | [] => done
  | revision :: rest =>
    require (some (revision.keyword ++ " action table is invalid")) (catalogs revision).check
      fun _ => write [(catalogs revision).soundLine revision] (checkReport catalogs rest)

def Command.respond (catalogs : Revision → Catalog) : Command → Report
  | list revision json => write ((catalogs revision).listing json)
  | describe text revision json =>
    require none ((catalogs revision).find (.ofText text)) fun action =>
      write (if json then action.record.lines else action.description)
  | layout text supplied revision =>
    require none ((catalogs revision).find (.ofText text)) fun action =>
      action.layoutReport supplied
  | check => checkReport catalogs Revision.all
  | compare json => write ((catalogs .nwn1).comparison (catalogs .nwn2) json)

def Reader.answer? (read : Reader) (catalogs : Revision → Catalog) (arguments : List String) :
    Option Report :=
  (read.command? arguments).map (Command.respond catalogs)

def respond? (catalogs : Revision → Catalog) (arguments : List String) : Option Report :=
  Reader.conventional.answer? catalogs arguments

end EngineActions
