import EngineActions.CommandLine.Response
import EngineActions.Shipped

namespace EngineActions

def usage : String :=
  "Commands:\n" ++
  "  list [-r REVISION] [--json]\n" ++
  "  show ACTION [-r REVISION] [--json]\n" ++
  "  layout ACTION -a COUNT [-r REVISION]\n" ++
  "  check\n" ++
  "  diff [--json]\n"

end EngineActions

open EngineActions in
def main (arguments : List String) : IO UInt32 := do
  match respond? (Shipped.catalog .full) arguments with
  | none =>
    IO.eprint usage
    return 2
  | some report =>
    IO.print report.output
    IO.eprint report.errorOutput
    return report.exitCode
