/-
**The program.**

Reads the arguments, looks up the files they name, prints the answer, and exits with its status.
-/

import WhenClause.CommandLine.Run
import WhenClause.Regex.Engine

namespace WhenClause.CommandLine

/-- The text of an error number of the system. -/
def systemErrorText? : UInt32 → Option String
  | 2 => some "No such file or directory (os error 2)"
  | 13 => some "Permission denied (os error 13)"
  | 20 => some "Not a directory (os error 20)"
  | 21 => some "Is a directory (os error 21)"
  | 36 => some "File name too long (os error 36)"
  | _ => none

/-- Why a file could not be read. -/
def fileErrorText (error : IO.Error) : String :=
  match error with
  | .noFileOrDirectory _ code _ | .permissionDenied _ code _ | .inappropriateType _ code _
  | .invalidArgument _ code _ => (systemErrorText? code).getD (toString error)
  | _ => toString error

/-- The names of the files that a request may need. -/
def Request.fileNames : Request → List String
  | .run invocation =>
    let contextFile :=
      match invocation.command with
      | .evaluate _ _ contextFile _ => contextFile
      | _ => none
    invocation.limitsFile.toList ++ contextFile.toList
  | _ => []

/-- The content of a file, or why it cannot be read. -/
def readNamed (name : String) : IO (String × Except String String) := do
  try
    return (name, .ok (← IO.FS.readFile name))
  catch error =>
    return (name, .error (fileErrorText error))

/-- A complaint as it is printed. -/
def Complaint.text : Complaint → String
  | .plain text => text
  | .report located =>
    let place := toString located.place.line ++ ":" ++ toString located.place.column
    let hint :=
      match located.hint with
      | some hint => "\n  Help: " ++ hint
      | none => ""
    located.head ++ "\n  at " ++ place ++ hint

end WhenClause.CommandLine

open WhenClause.CommandLine in
/-- The entry point. -/
def main (arguments : List String) : IO UInt32 := do
  let request := Request.ofArguments .linux arguments
  let contents ← request.fileNames.mapM readNamed
  let files : Files := fun name =>
    (contents.lookup name).getD (.error "No such file or directory (os error 2)")
  let answer := run files request
  IO.print answer.output
  if answer.status = 2 then IO.eprintln usageText
  match answer.complaint with
  | some complaint => IO.eprintln complaint.text
  | none => pure ()
  return answer.status.toUInt32
