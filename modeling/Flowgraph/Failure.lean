/-!
# Failures of an analysis

The ways in which an analysis fails, and their wording.
-/

namespace Flowgraph

inductive Failure where
  | noFunction
  | parse (message : String)
  | serialization
  /-- Settings that cannot be used; `detail` explains a faulty pattern at length. -/
  | config (message : String) (detail : Option String)
deriving DecidableEq, Inhabited

namespace Failure

/-- The failure in one sentence, without details. -/
def summary : Failure → String
  | .noFunction => "No function found at cursor. Place the cursor inside a function."
  | .parse message => "parse error: " ++ message
  | .serialization =>
      "failed to serialize graph: an error occurred when formatting an argument"
  | .config message _ => "invalid configuration: " ++ message

def message (failure : Failure) : String :=
  match failure with
  | .config _ (some detail) => failure.summary ++ ": " ++ detail
  | _ => failure.summary

/-- Whether the failure is the user's to mend; a failure of serialization is a defect. -/
def isUserFacing : Failure → Bool
  | .serialization => false
  | _ => true

end Failure

end Flowgraph
