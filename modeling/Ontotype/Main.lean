import Ontotype.Command.Run

set_option autoImplicit false

/-! # The command

The operations of a run on the real file system and streams. -/

namespace Ontotype.Command

/-- Why an operation on a file failed. -/
def reasonOf : IO.Error → String
  | .noFileOrDirectory _ code details
  | .alreadyExists _ code details
  | .invalidArgument _ code details
  | .permissionDenied _ code details
  | .resourceExhausted _ code details
  | .inappropriateType _ code details
  | .noSuchThing _ code details => details ++ " (os error " ++ toString code ++ ")"
  | e => toString e

/-- Does an operation that may fail. -/
def attempt {α : Type} (act : IO α) : IO (Except String α) := do
  match ← act.toBaseIO with
  | .ok a => return .ok a
  | .error e => return .error (reasonOf e)

/-- The system that the command runs on. -/
def systemHost : Host IO where
  read path := return (← attempt (IO.FS.readBinFile path)).map (·.toList)
  create path := attempt (IO.FS.writeFile path "")
  append path text := do
    let file ← IO.FS.Handle.mk path .append
    file.putStr text
  out text := do
    let stdout ← IO.getStdout
    stdout.putStr text
    stdout.flush
  err text := do
    let stderr ← IO.getStderr
    stderr.putStr text

end Ontotype.Command

def main (args : List String) : IO UInt32 :=
  Ontotype.Command.invoke Ontotype.Command.systemHost args
