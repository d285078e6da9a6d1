/-
**A directory of files.**

Commands can be run on files that are only held in memory, in a directory without subdirectories.
A path is followed from part to part, as a system would follow it. It may stay in the directory by
a dot. It may leave it by two dots or begin at the root, but there are no files anywhere else. It
cannot pass through a file, and at its end it must come to one.
-/

import PatternNfa.CommandLine.Sources
import PatternNfa.Text.Split

namespace PatternNfa.CommandLine

/-- Files by name. -/
abbrev Directory := List (String × ByteArray)

namespace Directory

/-- The longest name, in bytes. -/
def longestName : Nat := 255

/-- The longest path, in bytes. A longer one is refused before it is followed. -/
def longestPath : Nat := 4095

/-- Follows the parts of a path through the directory. -/
def follow (directory : Directory) : List String → Except FileFault ByteArray
  | [] => .error (.reading .isDirectory)
  | part :: parts =>
    if part = "" ∨ part = "." then
      directory.follow parts
    else if part = ".." then
      follow [] parts
    else if longestName < part.utf8ByteSize then
      .error (.opening .nameTooLong)
    else
      match directory.lookup part, parts with
      | none, _ => .error (.opening .notFound)
      | some bytes, [] => .ok bytes
      | some _, _ :: _ => .error (.opening .notDirectory)

/-- The content of the file at a path. -/
def read (directory : Directory) (path : String) : Except FileFault ByteArray :=
  let parts := (Text.fields (· == '/') path.toList).map String.ofList
  if path = "" then
    .error (.opening .notFound)
  else if longestPath < path.utf8ByteSize then
    .error (.opening .nameTooLong)
  else if path.startsWith "/" then
    follow [] parts
  else
    directory.follow parts

end Directory

end PatternNfa.CommandLine
