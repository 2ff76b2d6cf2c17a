import EngineActions.Action
import EngineActions.Action.Call
import EngineActions.Action.Check
import EngineActions.Catalog
import EngineActions.Catalog.Check
import EngineActions.Catalog.Divergence
import EngineActions.Catalog.Operand
import EngineActions.CommandLine.Command
import EngineActions.CommandLine.Grammar
import EngineActions.CommandLine.Reader
import EngineActions.CommandLine.Response
import EngineActions.Failure
import EngineActions.Json
import EngineActions.Listing
import EngineActions.Main
import EngineActions.Proofs.ActionReference
import EngineActions.Proofs.CallLayout
import EngineActions.Proofs.CallPicture
import EngineActions.Proofs.CallSites
import EngineActions.Proofs.CatalogGrowth
import EngineActions.Proofs.Columns
import EngineActions.Proofs.CommandLines
import EngineActions.Proofs.CommandOutcome
import EngineActions.Proofs.DetailProjection
import EngineActions.Proofs.DivergenceList
import EngineActions.Proofs.FailureTexts
import EngineActions.Proofs.FirstBrokenRow
import EngineActions.Proofs.FirstDefect
import EngineActions.Proofs.Interchange
import EngineActions.Proofs.JsonReading
import EngineActions.Proofs.JsonText
import EngineActions.Proofs.LineText
import EngineActions.Proofs.ListingAgreement
import EngineActions.Proofs.LosslessDiff
import EngineActions.Proofs.PaddedKeywords
import EngineActions.Proofs.PrefixSizes
import EngineActions.Proofs.RowLookup
import EngineActions.Proofs.ShippedTables
import EngineActions.Proofs.SignedLayout
import EngineActions.Proofs.StackBytes
import EngineActions.Proofs.TableCheck
import EngineActions.Proofs.TextBytes
import EngineActions.Proofs.Widening
import EngineActions.Revision
import EngineActions.Shipped
import EngineActions.Text.Bytes
import EngineActions.Text.Field
import EngineActions.Text.Numeral
import EngineActions.ValueType
