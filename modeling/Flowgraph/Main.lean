import Flowgraph.CommandLine.Run

/-!
# The program

Reads the files that a call names, carries the call out and writes what comes of it.
-/

namespace Flowgraph.CommandLine

def Command.file : Command → String
  | .visualize file _ _ _ _ => file
  | .reveal file _ => file

/-- What a failed attempt to read means: error 2 is a missing file, and error 20 a path through
something that is no directory. -/
def FileContent.ofError : IO.Error → FileContent
  | .noFileOrDirectory _ code details =>
      .absent (details ++ " (os error " ++ toString code.toNat ++ ")")
  | .inappropriateType _ code details | .permissionDenied _ code details
  | .invalidArgument _ code details | .resourceExhausted _ code details
  | .noSuchThing _ code details | .otherError code details =>
      let reason := details ++ " (os error " ++ toString code.toNat ++ ")"
      if code = 20 then .absent reason else .unreadable reason
  | error => .unreadable (toString error)

def FileContent.read (path : String) : IO FileContent := do
  let bytes? : IO ByteArray := do (← IO.FS.Handle.mk path .read).readBinToEnd
  match ← bytes?.toBaseIO with
  | .error error => return .ofError error
  | .ok bytes =>
      match String.fromUTF8? bytes with
      | some content => return .text content
      | none => return .unreadable "stream did not contain valid UTF-8"

def Files.ofArguments (args : List String) : IO Files := do
  match Invocation.read args with
  | .error _ => return fun _ => .absent ""
  | .ok call =>
      let settings ← FileContent.read call.config
      let source ← FileContent.read call.command.file
      return fun path => if path = call.command.file then source else settings

end Flowgraph.CommandLine

open Flowgraph.CommandLine in
def main (args : List String) : IO UInt32 := do
  let outcome := run (← Files.ofArguments args) args
  (← IO.getStderr).putStr outcome.stderr
  (← IO.getStdout).putStr outcome.stdout
  return outcome.exit.toUInt32
