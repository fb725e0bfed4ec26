import Notekeeper.Text.Utf8
/-!
# What a program leaves behind

A program that is run on a file in place of an editor is given the path of that file as its last
argument.  What counts is how it ends and what is there then.
-/

namespace Notekeeper

/-- **What is left when a program has ended.** -/
structure ProgramResult where
  /-- The exit code, zero if all went well. -/
  code : Nat
  /-- The content of the file, none if it is gone. -/
  file : Option Bytes
  /-- The number of other files made beside it. -/
  madeBeside : Nat := 0

namespace ProgramResult

/-- A program ended well and has left a text in the file. -/
def left (file : Bytes) : ProgramResult := { code := 0, file := some file }

/-- A program ended early, before it touched the file. -/
def endedEarly (code : Nat) (file : Bytes) : ProgramResult := { code, file := some file }

end ProgramResult

namespace Program

/-- The path of the file, which no other argument can be: no argument holds this character. -/
def notePath : String := "/tmp/\x00"

/-- The exit code of a program that finds something wrong. -/
def failure : Nat := 1

/-- The exit code of a program that was only asked what it is. -/
def success : Nat := 0

end Program
end Notekeeper
