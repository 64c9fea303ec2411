import ClusterOperator.Schema.Definition
import ClusterOperator.Settings

namespace ClusterOperator

/-- What a command line asks for. -/
inductive Command where
  | definitions
  | version
  | usage
deriving DecidableEq, Repr

def Command.ofArgs (args : List String) : Command :=
  if args.contains "--print-crds" then .definitions
  else if args = ["--version"] then .version
  else .usage

def Command.output : Command → String
  | definitions => Definition.stream
  | version => Settings.operatorName ++ " " ++ Settings.operatorVersion ++ "\n"
  | usage => "Usage: " ++ Settings.operatorName ++ " --print-crds | --version\n"

end ClusterOperator

def main (args : List String) : IO UInt32 := do
  let command := ClusterOperator.Command.ofArgs args
  if command = .usage then
    IO.eprint command.output
    return 2
  IO.print command.output
  return 0
