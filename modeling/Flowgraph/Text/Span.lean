/-!
# Spans

A half-open range of byte offsets into a source text.
-/

namespace Flowgraph

/-- The bytes from `start` up to but not including `stop`. -/
structure Span where
  start : Nat
  stop : Nat
deriving DecidableEq, Inhabited, Repr

end Flowgraph
