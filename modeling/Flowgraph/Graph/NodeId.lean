import Flowgraph.Failure
import Flowgraph.Text.Blank
import Flowgraph.Text.Numeral
import Flowgraph.Text.Span

/-!
# Node ids

The identity of a node in a graph. A node that stands for a piece of source carries its byte range
in its id, so that a click on a drawing leads back to the text. Ids are written `start`, `end`, a
counter, or a counter and a range with bars between the three numbers.
-/

namespace Flowgraph

inductive NodeId where
  | start
  | finish
  | source (counter : Nat) (span : Span)
  | synthetic (counter : Nat)
deriving DecidableEq, Inhabited, Repr

namespace NodeId

/-- A number that mixes the parts of an id; equal ids have equal numbers. -/
def hashCode : NodeId → UInt64
  | .start => 1
  | .finish => 2
  | .source counter span => mixHash (hash counter) (mixHash (hash span.start) (hash span.stop))
  | .synthetic counter => mixHash 3 (hash counter)

instance : Hashable NodeId := ⟨hashCode⟩

def span? : NodeId → Option Span
  | .source _ span => some span
  | _ => none

/-- Whether a click on the node leads anywhere. -/
def isClickTarget : NodeId → Bool
  | .source .. => true
  | _ => false

/-- The counter is a number of 32 bits and the offsets are numbers of 64 bits. -/
def Fits : NodeId → Prop
  | .source counter span =>
      counter ≤ Numeral.max32 ∧ span.start ≤ Numeral.max64 ∧ span.stop ≤ Numeral.max64
  | .synthetic counter => counter ≤ Numeral.max32
  | _ => True

instance : DecidablePred Fits := fun id => by
  cases id <;> unfold Fits <;> infer_instance

def chars : NodeId → List Char
  | .start => "start".toList
  | .finish => "end".toList
  | .source counter span =>
      Numeral.digits counter ++ '|' :: Numeral.digits span.start ++ '|' :: Numeral.digits span.stop
  | .synthetic counter => Numeral.digits counter

def render (id : NodeId) : String := String.ofList id.chars

def readChars? (text : List Char) : Option NodeId :=
  if text = "start".toList then some .start
  else if text = "end".toList then some .finish
  else
    match Text.fields '|' text with
    | [counter] => (Numeral.read? Numeral.max32 counter).map .synthetic
    | [counter, lower, upper] => do
        let counter ← Numeral.read? Numeral.max32 counter
        let lower ← Numeral.read? Numeral.max64 lower
        let upper ← Numeral.read? Numeral.max64 upper
        return .source counter ⟨lower, upper⟩
    | _ => none

def read? (text : String) : Option NodeId := readChars? text.toList

def invalidMessage (text : String) : String := "invalid node id \x60" ++ text ++ "\x60"

/-- The id that a text stands for; a text that stands for none is named in the failure. -/
def parse (text : String) : Except Failure NodeId :=
  match read? text with
  | some id => .ok id
  | none => .error (.parse (invalidMessage text))

/-- The range that a clicked element stands for: the second and the third of the fields of its id,
whatever the others are. -/
def revealedSpan? (id : String) : Option Span :=
  match Text.fields '|' id.toList with
  | _ :: lower :: upper :: _ => do
      let lower ← Numeral.read? Numeral.max64 (Text.trim lower)
      let upper ← Numeral.read? Numeral.max64 (Text.trim upper)
      return ⟨lower, upper⟩
  | _ => none

end NodeId

end Flowgraph
