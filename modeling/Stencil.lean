import Stencil.Main
import Stencil.Proofs.Demo.Interactive
import Stencil.Proofs.Directive.Faithful
import Stencil.Proofs.Directive.Overreach
import Stencil.Proofs.Directive.Places
import Stencil.Proofs.Directive.Rejected
import Stencil.Proofs.Layout.Depth
import Stencil.Proofs.Layout.Descent
import Stencil.Proofs.Layout.Matrix
import Stencil.Proofs.Layout.Nesting
import Stencil.Proofs.Layout.Piecewise
import Stencil.Proofs.Layout.Rejoined
import Stencil.Proofs.Layout.Tree
import Stencil.Proofs.Layout.Visible
import Stencil.Proofs.Literal.Inert
import Stencil.Proofs.Literal.Overflow
import Stencil.Proofs.Prompt.Answer
import Stencil.Proofs.Reference.Grammar
import Stencil.Proofs.Reference.Partner
import Stencil.Proofs.Reference.Printed
import Stencil.Proofs.Reference.Resolution
import Stencil.Proofs.Render.Printing
import Stencil.Proofs.Render.Refused
import Stencil.Proofs.Template.Agreement
import Stencil.Proofs.Template.Fault
import Stencil.Proofs.Template.Overflow
import Stencil.Proofs.Value.Alike
import Stencil.Proofs.Value.Built
import Stencil.Proofs.Value.Folded
import Stencil.Proofs.Value.Guarded
import Stencil.Proofs.Value.Indented
import Stencil.Proofs.Value.Mended
