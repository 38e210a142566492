import Flowgraph.CommandLine.Run

/-!
# Directories of texts

A directory that holds some texts under their paths and nothing else, as the files of a call.
-/

namespace Flowgraph.CommandLine

/-- The steps of a relative path; a path that begins with a slash leads elsewhere. -/
def steps? (path : String) : Option (List (List Char)) :=
  match path.toList with
  | [] => none
  | '/' :: _ => none
  | chars => some ((Text.fields '/' chars).filter fun step => step ≠ [] && step ≠ ['.'])

/-- The path ends in a way that only directories can be reached by. -/
def wantsDirectory (path : String) : Bool :=
  match (Text.fields '/' path.toList).getLast? with
  | some last => last = [] || last = ['.']
  | none => false

def Files.ofList (entries : List (String × String)) : Files := fun path =>
  let nowhere : FileContent := .absent "No such file or directory (os error 2)"
  let notDirectory : FileContent := .absent "Not a directory (os error 20)"
  match steps? path with
  | none => nowhere
  | some steps =>
      let known := entries.filterMap fun (name, text) => (steps? name).map fun s => (s, text)
      match known.find? (·.1 = steps) with
      | some (_, text) => if wantsDirectory path then notDirectory else .text text
      | none =>
          if known.any fun e => steps.isPrefixOf e.1 then .unreadable "Is a directory (os error 21)"
          else if known.any fun e => e.1.isPrefixOf steps then notDirectory
          else if steps.isEmpty then .unreadable "Is a directory (os error 21)"
          else nowhere

end Flowgraph.CommandLine
