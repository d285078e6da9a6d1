/-
**From arguments to commands.**

The outer layer of the program: it takes the arguments for a command and has that carried out, or it
answers them itself. The program is built so that numbers wrap around.
-/

import PatternNfa.CommandLine.Arguments
import PatternNfa.CommandLine.Commands

namespace PatternNfa.CommandLine

/-- How the program is used. -/
def usage : String :=
  "USAGE:\n" ++
  "    nfasim run [-d | --dump] [input]\n" ++
  "        Tells which candidates of a batch its pattern accepts. The batch is read from\n" ++
  "        the standard input when no input is named or a dash.\n" ++
  "    nfasim test <name>\n" ++
  "        Runs the batch <name>.in and compares the verdicts with <name>.out.\n"

/-- The name of a subcommand. -/
def Subcommand.name : Subcommand → String
  | .run => "run"
  | .test => "test"

/-- What is written when the arguments ask for no command. Only the program itself has a version. -/
def Notice.outcome : Notice → Outcome
  | .help => .success usage
  | .version none => .success "nfasim 1.0\n"
  | .version (some subcommand) => .success ("nfasim-" ++ subcommand.name ++ " \n")
  | .misuse => ⟨1, "", usage⟩

/-- What the program does with its arguments. -/
def execute (sources : Sources) (arguments : List String) : Outcome :=
  match parse arguments with
  | .ok command => command.execute .wraps sources
  | .error notice => notice.outcome

end PatternNfa.CommandLine
