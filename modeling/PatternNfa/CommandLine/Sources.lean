/-
**What a command reads.**

A command reads files by name, and the standard input. Opening a file and reading it can fail, each
for a reason that the system gives, and what was read need not be text.
-/

namespace PatternNfa.CommandLine

/-- A reason that the system gives, with its number. -/
structure SystemError where
  description : String
  code : Nat
  deriving DecidableEq

namespace SystemError

/-- There is no such file. -/
def notFound : SystemError := ⟨"No such file or directory", 2⟩

/-- A file is used as if it were a directory. -/
def notDirectory : SystemError := ⟨"Not a directory", 20⟩

/-- A directory is used as if it were a file. -/
def isDirectory : SystemError := ⟨"Is a directory", 21⟩

/-- A path, or a name in it, is longer than any can be. -/
def nameTooLong : SystemError := ⟨"File name too long", 36⟩

/-- A reason in words. -/
def message (error : SystemError) : String :=
  error.description ++ " (os error " ++ toString error.code ++ ")"

end SystemError

/-- How reading a file fails. -/
inductive FileFault where
  | opening (error : SystemError)
  | reading (error : SystemError)
  deriving DecidableEq

/-- Where a command reads from. -/
structure Sources where
  /-- The content of the file of a name. -/
  file : String → Except FileFault ByteArray
  /-- The content of the standard input. -/
  input : Except SystemError ByteArray

/-- Why there is no text to work on. -/
inductive SourceFault where
  | opening (name : String) (error : SystemError)
  | reading (error : SystemError)
  | notText
  deriving DecidableEq

/-- A fault in words. -/
def SourceFault.message : SourceFault → String
  | .opening name error => "Couldn't open " ++ name ++ " : " ++ error.message
  | .reading error => error.message
  | .notText => "stream did not contain valid UTF-8"

/-- The text that some bytes encode. -/
def decode (bytes : ByteArray) : Except SourceFault String :=
  match String.fromUTF8? bytes with
  | none => .error .notText
  | some text => .ok text

namespace Sources

/-- The text of the file of a name. -/
def fileText (sources : Sources) (name : String) : Except SourceFault String :=
  match sources.file name with
  | .error (.opening error) => .error (.opening name error)
  | .error (.reading error) => .error (.reading error)
  | .ok bytes => decode bytes

/-- The text of the standard input. -/
def inputText (sources : Sources) : Except SourceFault String :=
  match sources.input with
  | .error error => .error (.reading error)
  | .ok bytes => decode bytes

end Sources

end PatternNfa.CommandLine
