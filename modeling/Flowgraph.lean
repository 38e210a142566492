import Flowgraph.CommandLine.Directory
import Flowgraph.Graph.Encode
import Flowgraph.Json.Reader
import Flowgraph.Main
import Flowgraph.Proofs.Drawing.Places
import Flowgraph.Proofs.Drawing.Structure
import Flowgraph.Proofs.Drawing.Skeleton
import Flowgraph.Proofs.Drawing.Liveness
import Flowgraph.Proofs.Drawing.Walk
import Flowgraph.Proofs.Drawing.Execution
import Flowgraph.Proofs.Drawing.Reducibility
import Flowgraph.Proofs.Drawing.Connectivity
import Flowgraph.Proofs.Drawing.Complexity
import Flowgraph.Proofs.Graph.Dot
import Flowgraph.Proofs.Graph.Dead
import Flowgraph.Proofs.Graph.Mermaid
import Flowgraph.Proofs.Function.Location
import Flowgraph.Proofs.Function.Reveal
import Flowgraph.Proofs.Drawing.Census
import Flowgraph.Proofs.Function.Spans
import Flowgraph.Proofs.Function.Depth
import Flowgraph.Proofs.Function.Score
import Flowgraph.Proofs.Function.Comments
import Flowgraph.Proofs.Text.Decimal
import Flowgraph.Proofs.Graph.Spelling
import Flowgraph.Proofs.Text.Position
import Flowgraph.Proofs.Text.Landing
import Flowgraph.Proofs.Text.BreakClass
import Flowgraph.Proofs.Text.Grapheme
import Flowgraph.Proofs.Graph.Snippet
import Flowgraph.Proofs.Json.Reading
import Flowgraph.Proofs.Graph.Encode
import Flowgraph.Proofs.Settings.Override
import Flowgraph.Proofs.Drawing.Relocation
import Flowgraph.Proofs.Syntax.Fault
import Flowgraph.Proofs.Drawing.Draft
import Flowgraph.Proofs.Settings.Decode
import Flowgraph.Proofs.CommandLine.Visualize
