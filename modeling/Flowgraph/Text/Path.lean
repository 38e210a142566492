import Flowgraph.Text.Blank

/-!
# Paths

The name of the file that a path leads to, and its extension. Slashes separate the steps of a path;
empty steps and steps `.` lead nowhere.
-/

namespace Flowgraph.Path

/-- The last step of a path, unless that step leads upwards. -/
def fileName? (path : List Char) : Option (List Char) :=
  let steps := (Text.fields '/' path).filter fun step => step ≠ [] && step ≠ ['.']
  match steps.getLast? with
  | some step => if step = ['.', '.'] then none else some step
  | none => none

/-- The text after the last dot of a file name. A dot in front begins a hidden name, not an
extension. -/
def extension? (path : List Char) : Option (List Char) :=
  (fileName? path).bind fun name =>
    match Text.splitOnce '.' name.reverse with
    | some (_, []) => none
    | some (after, _) => some after.reverse
    | none => none

end Flowgraph.Path
