import Stencil.Edit
import Stencil.Settings.Fields
import Stencil.Proofs.Render.Recursion
import Stencil.Proofs.Segment.Cutting
import Stencil.Proofs.Segment.Counting
import Stencil.Template
import Stencil.Proofs.Segment.Braces
import Stencil.Proofs.Segment.WellFormed
import Stencil.Proofs.Segment.Assembly
import Stencil.Proofs.Segment.Concatenation
import Stencil.Proofs.Render.Concatenation
import Stencil.Proofs.Segment.Inspection
import Stencil.Proofs.Run.Relation
import Stencil.Proofs.Agreement.Texts
import Stencil.Proofs.Agreement.Accessors
import Stencil.Proofs.Agreement.Calls
import Stencil.Proofs.Agreement.Rendering
import Stencil.Proofs.Render.Steady
import Stencil.Proofs.Render.Still
import Stencil.Proofs.Render.Splice
import Stencil.Proofs.Data.Lockstep
import Stencil.Proofs.Data.Flavours
import Stencil.Proofs.Render.Guard
import Stencil.Proofs.Template.History
import Stencil.Proofs.Scene.Region
import Stencil.Proofs.Scene.Accessors
import Stencil.Proofs.Scene.Calls
import Stencil.Proofs.Scene.Rendering
import Stencil.Proofs.Render.Reports
import Stencil.Proofs.Render.Follow
import Stencil.Proofs.Settings.History
import Stencil.Proofs.Path.Keys
import Stencil.Proofs.Path.Joining
import Stencil.Proofs.Path.Composition
import Stencil.Proofs.Data.Lookup
import Stencil.Proofs.Journal.Accessors
import Stencil.Proofs.Journal.Rendering
import Stencil.Proofs.Writing.Texts
import Stencil.Proofs.Writing.Json
import Stencil.Proofs.Writing.Encoding
import Stencil.Proofs.Writing.Composite
import Stencil.Proofs.Numerals
import Stencil.Proofs.Path.Spelling
import Stencil.Proofs.Render.ComputedKey
import Stencil.Proofs.Writing.Grammar
import Stencil.Proofs.Writing.Reader
import Stencil.Proofs.Writing.Printing
import Stencil.Proofs.Writing.Decoding
import Stencil.Proofs.Segment.Nesting
import Stencil.Proofs.Segment.Frames
import Stencil.Proofs.Data.Extension
import Stencil.Proofs.Settings.Precedence
import Stencil.Proofs.Data.Recoding
import Stencil.Proofs.Effects.Visits
