import DeckPress.Cascade.Layer
import DeckPress.Drawing.Deck
import DeckPress.Json.Reader
import DeckPress.Json.Writer
import DeckPress.Library.Bundled
import DeckPress.Main
import DeckPress.Proofs.Cascade.Merge
import DeckPress.Proofs.Cascade.Override
import DeckPress.Proofs.Entity.Reading
import DeckPress.Proofs.Cascade.Spelling
import DeckPress.Proofs.Record.Overlay
import DeckPress.Proofs.Trace
import DeckPress.Service.App
import DeckPress.Proofs.Drawing.Failure
import DeckPress.Proofs.Markup.Reader
import DeckPress.Proofs.Drawing.Integrity
import DeckPress.Proofs.Drawing.Emptiness
import DeckPress.Proofs.Drawing.Folding
import DeckPress.Proofs.Drawing.Recovery
import DeckPress.Proofs.Drawing.Forms
import DeckPress.Proofs.Cascade.Order
import DeckPress.Proofs.Drawing.Alike
import DeckPress.Proofs.Drawing.Isolation
import DeckPress.Proofs.Cascade.Erasure
import DeckPress.Proofs.Entity.Change
import DeckPress.Proofs.Drawing.Locality
import DeckPress.Proofs.Entity.Agreement
import DeckPress.Proofs.Entity.Edit
import DeckPress.Proofs.Cascade.Sameness
import DeckPress.Proofs.Drawing.Edited
import DeckPress.Proofs.Drawing.Irrelevance
import DeckPress.Proofs.Json.Wording
import DeckPress.Proofs.Entity.Wording
import DeckPress.Proofs.Cascade.Wording
import DeckPress.Proofs.Markup.Wording
import DeckPress.Proofs.Style.Reader
import DeckPress.Proofs.Style.Wording
import DeckPress.Proofs.Drawing.Wording
import DeckPress.Proofs.Drawing.Nulls
import DeckPress.Proofs.Service.Agreement
import DeckPress.Proofs.Drawing.Stacking
import DeckPress.Proofs.Drawing.Backmost
import DeckPress.Proofs.Drawing.Backdrop
import DeckPress.Proofs.Drawing.Leniency
import DeckPress.Proofs.Interpolation.Template
import DeckPress.Proofs.Cascade.Patching
import DeckPress.Proofs.Cascade.Listing
import DeckPress.Proofs.Cascade.Stability
import DeckPress.Proofs.Style.Nesting
import DeckPress.Proofs.Drawing.Styled
import DeckPress.Proofs.Drawing.Path
import DeckPress.Proofs.Outline.Arrows
import DeckPress.Proofs.Outline.Containment
import DeckPress.Proofs.Outline.Convexity
import DeckPress.Proofs.Outline.PathText
import DeckPress.Proofs.Outline.Polygon
import DeckPress.Proofs.Outline.Tips
import DeckPress.Proofs.Outline.Symmetry
import DeckPress.Proofs.Library.Store
import DeckPress.Proofs.Service.Environment
import DeckPress.Proofs.Json.Equality
