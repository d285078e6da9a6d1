/-
**The arguments of the command line.**

The program has two subcommands. `run` takes the batch to run, at most one, and the option `-d` or
`--dump`, at most once; `test` takes the test to run, exactly one. Both, and the program itself,
take `-h` or `--help` and `-V` or `--version`; these answer at once, whatever follows them, and so
does a word that has no meaning. After `--` every word is a value. `help`, alone or followed by the
name of a subcommand, is the same as `--help`.
-/

import PatternNfa.CommandLine.Commands

namespace PatternNfa.CommandLine

/-- The name of a kind of command. -/
inductive Subcommand where
  | run
  | test
  deriving DecidableEq

/-- What the arguments ask for when it is not a command. -/
inductive Notice where
  | help
  /-- The version of the program, or that of a subcommand. -/
  | version (subcommand : Option Subcommand)
  /-- The arguments make no sense. -/
  | misuse
  deriving DecidableEq

/-- An option. -/
inductive Flag where
  | help
  | version
  | dump
  deriving DecidableEq

/-- The option with a long name. -/
def Flag.ofName? (name : List Char) : Option Flag :=
  if name = "help".toList then some .help
  else if name = "version".toList then some .version
  else if name = "dump".toList then some .dump
  else none

/-- The option with a short name. -/
def Flag.ofLetter? (letter : Char) : Option Flag :=
  if letter = 'h' then some .help
  else if letter = 'V' then some .version
  else if letter = 'd' then some .dump
  else none

/-- The parts a word on the command line can play. -/
inductive Word where
  /-- Two dashes and nothing else. -/
  | separator
  /-- The long name of an option, with two dashes before it. -/
  | long (name : List Char)
  /-- The short names of options, with one dash before them. -/
  | short (letters : List Char)
  /-- Anything else, also a dash by itself. -/
  | value
  deriving DecidableEq

/-- The part that a word plays. A long name goes without any of its dashes, and ends where an equals
sign stands. -/
def Word.ofChars : List Char → Word
  | ['-', '-'] => .separator
  | '-' :: '-' :: name => .long ((name.dropWhile (· == '-')).takeWhile (· != '='))
  | '-' :: letter :: letters => .short (letter :: letters)
  | _ => .value

/-- What the words of a subcommand have given so far. -/
structure Given where
  /-- The value, if there was one. -/
  value : Option String
  /-- How often the option for the dump was there. -/
  dumps : Nat
  deriving DecidableEq

namespace Given

/-- Nothing is given. -/
def nothing : Given := ⟨none, 0⟩

/-- Takes a value; there can only be one. -/
def addValue (given : Given) (value : String) : Except Notice Given :=
  match given.value with
  | none => .ok { given with value := some value }
  | some _ => .error .misuse

/-- Takes an option, unless the subcommand has none of that name. -/
def addFlag (subcommand : Subcommand) (given : Given) : Option Flag → Except Notice Given
  | none => .error .misuse
  | some .help => .error .help
  | some .version => .error (.version (some subcommand))
  | some .dump =>
    match subcommand with
    | .run => .ok { given with dumps := given.dumps + 1 }
    | .test => .error .misuse

/-- Takes the words of a subcommand one after another. -/
def addWords (subcommand : Subcommand) (given : Given) : List String → Except Notice Given
  | [] => .ok given
  | word :: words =>
    match Word.ofChars word.toList with
    | .separator => words.foldlM addValue given
    | .long name => do
      let given ← given.addFlag subcommand (Flag.ofName? name)
      given.addWords subcommand words
    | .short letters => do
      let given ← letters.foldlM
        (fun given letter => given.addFlag subcommand (Flag.ofLetter? letter)) given
      given.addWords subcommand words
    | .value => do
      let given ← given.addValue word
      given.addWords subcommand words

/-- The command that is meant, once all words are taken. -/
def command (subcommand : Subcommand) (given : Given) : Except Notice Command :=
  match subcommand, given.value with
  | .run, source =>
    if given.dumps ≤ 1 then .ok (.run source (given.dumps == 1)) else .error .misuse
  | .test, some name => .ok (.test name)
  | .test, none => .error .misuse

end Given

/-- The command that the words after the name of a subcommand mean. -/
def parseSubcommand (subcommand : Subcommand) (words : List String) : Except Notice Command := do
  let given ← Given.nothing.addWords subcommand words
  given.command subcommand

/-- What an option means without a subcommand. -/
def topLevelFlag : Option Flag → Notice
  | some .help => .help
  | some .version => .version none
  | _ => .misuse

/-- What the words after `help` mean. -/
def topic : List String → Notice
  | [] => .help
  | [name] => if name = "run" ∨ name = "test" ∨ name = "help" then .help else .misuse
  | _ => .misuse

/-- What the arguments of the program mean. -/
def parse : List String → Except Notice Command
  | [] => .error .misuse
  | word :: words =>
    if word = "run" then
      parseSubcommand .run words
    else if word = "test" then
      parseSubcommand .test words
    else if word = "help" then
      .error (topic words)
    else
      match Word.ofChars word.toList with
      | .long name => .error (topLevelFlag (Flag.ofName? name))
      | .short (letter :: _) => .error (topLevelFlag (Flag.ofLetter? letter))
      | _ => .error .misuse

end PatternNfa.CommandLine
