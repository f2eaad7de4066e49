import Stencil.Main
import Stencil.Files.Tree
import Stencil.Plugin.Scripted
import Stencil.Proofs.Directive.Spans
import Stencil.Proofs.Directive.Written
import Stencil.Proofs.Render.Substitution
import Stencil.Proofs.Run.Hooks
import Stencil.Proofs.Run.Turns
import Stencil.Proofs.Run.History
import Stencil.Proofs.Run.Lasting
import Stencil.Proofs.Run.Loading
import Stencil.Proofs.Run.Termination
import Stencil.Proofs.Plugin.Counter
import Stencil.Proofs.Run.Counting
import Stencil.Proofs.Render.Still
import Stencil.Proofs.Site.Kept
import Stencil.Proofs.Site.Requests
import Stencil.Proofs.Site.Exits
import Stencil.Proofs.Render.Failure
import Stencil.Proofs.Render.Editable
import Stencil.Proofs.Render.Inert
import Stencil.Proofs.Render.Included
import Stencil.Proofs.Page.Children
import Stencil.Proofs.Directive.Entries
import Stencil.Proofs.Render.Reports
import Stencil.Proofs.Page.Truncated
import Stencil.Proofs.Markup.Expanding
import Stencil.Proofs.Site.Titles
import Stencil.Proofs.Config.Finding
import Stencil.Proofs.Page.Links
import Stencil.Proofs.CommandLine.Listing
import Stencil.Proofs.Directive.Offsets
import Stencil.Proofs.Plugin.Commands
