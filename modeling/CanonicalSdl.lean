import CanonicalSdl.Canonical
import CanonicalSdl.Document.Reading
import CanonicalSdl.Proofs.Token.Lexing
import CanonicalSdl.Proofs.Token.Literal
import CanonicalSdl.Proofs.Text.Tidy
import CanonicalSdl.Proofs.Token.Description
import CanonicalSdl.Proofs.Grammar.Legible
import CanonicalSdl.Proofs.Grammar.Reader
import CanonicalSdl.Proofs.Text.Utf8
import CanonicalSdl.Proofs.Grammar.Value
import CanonicalSdl.Proofs.Grammar.TypeSystem
import CanonicalSdl.Proofs.Grammar.Nesting
import CanonicalSdl.Proofs.Document.Descriptions
import CanonicalSdl.Proofs.Document.Lexing
import CanonicalSdl.Proofs.Rendition.Lexing
import CanonicalSdl.Proofs.Rendition.RoundTrip
import CanonicalSdl.Proofs.Document.Normal
import CanonicalSdl.Proofs.Schema.Closure
import CanonicalSdl.Proofs.Rendition.Types
import CanonicalSdl.Proofs.Rendition.DeclarationOrder
import CanonicalSdl.Proofs.Rendition.Fixpoint
import CanonicalSdl.Proofs.Document.StableSort
import CanonicalSdl.Proofs.Document.NormalForm
import CanonicalSdl.Proofs.Document.KeyOrder
import CanonicalSdl.Proofs.Rendition.Roots
import CanonicalSdl.Proofs.Rendition.DirectiveOrder
import CanonicalSdl.Proofs.Schema.Restriction
import CanonicalSdl.Proofs.Rendition.ExternalTypes
import CanonicalSdl.Proofs.Schema.WorkList
import CanonicalSdl.Proofs.Rendition.Verbatim
import CanonicalSdl.Proofs.Schema.NormalForm
import CanonicalSdl.Proofs.Rendition.Outcome
import CanonicalSdl.Proofs.Decimal.Rounding
import CanonicalSdl.Proofs.Decimal.Value
import CanonicalSdl.Proofs.Decimal.Layout
import CanonicalSdl.Proofs.Token.Float
import CanonicalSdl.Proofs.Document.Argument
import CanonicalSdl.Proofs.Schema.Requested
import CanonicalSdl.Proofs.Rendition.Descriptions
import CanonicalSdl.Proofs.Rendition.Additions
import CanonicalSdl.Proofs.Rendition.Settings
import CanonicalSdl.Proofs.Document.Names
import CanonicalSdl.Proofs.Rendition.Layout
