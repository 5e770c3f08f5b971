import JavaSource.Main
import JavaSource.Tags
import JavaSource.Template.Cache
import JavaSource.Value.Quoted
import JavaSource.Proofs.Import.Justification
import JavaSource.Proofs.Import.Spelling
import JavaSource.Proofs.Import.FixedPoint
import JavaSource.Proofs.Import.Dropped
import JavaSource.Proofs.Import.FirstEncounter
import JavaSource.Proofs.Template.Policy
import JavaSource.Proofs.Name.Construction
import JavaSource.Proofs.Listing.Tidy
import JavaSource.Proofs.Template.RoundTrip
import JavaSource.Proofs.Template.Caching
import JavaSource.Proofs.Name.Canonical
import JavaSource.Proofs.Import.ReadBack
import JavaSource.Proofs.Import.Precedence
import JavaSource.Proofs.Text.Literal
import JavaSource.Proofs.Template.Positions
import JavaSource.Proofs.Value.JsonPaths
import JavaSource.Proofs.Import.Online
import JavaSource.Proofs.Listing.Depth
import JavaSource.Proofs.Template.Concatenation
import JavaSource.Proofs.Text.Runs
import JavaSource.Proofs.Listing.Reproduced
import JavaSource.Proofs.Value.RawText
import JavaSource.Proofs.Template.Keys
import JavaSource.Proofs.Value.Paths
import JavaSource.Proofs.Name.Navigation
import JavaSource.Proofs.Import.Histories
import JavaSource.Proofs.Decimal.Integer
import JavaSource.Proofs.Listing.Characters
import JavaSource.Proofs.Template.Selectors
