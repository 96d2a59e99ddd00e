import ChainAtlas.Main
import ChainAtlas.Proofs.Decimal.Scaling
import ChainAtlas.Proofs.Decimal.Spelling
import ChainAtlas.Proofs.Directory
import ChainAtlas.Proofs.Document.Acceptance
import ChainAtlas.Proofs.Document.Independence
import ChainAtlas.Proofs.Document.Names
import ChainAtlas.Proofs.Document.Refusal
import ChainAtlas.Proofs.Document.Schema
import ChainAtlas.Proofs.Json.ReadValues
import ChainAtlas.Proofs.Json.LineEnds
import ChainAtlas.Proofs.Json.LongNumeral
import ChainAtlas.Proofs.Json.Number
import ChainAtlas.Proofs.Json.QuotedText
import ChainAtlas.Proofs.Probe.Verification
import ChainAtlas.Proofs.Registry.FileLoading
import ChainAtlas.Proofs.Registry.FileRefusal
import ChainAtlas.Proofs.Text.Encoding
import ChainAtlas.Proofs.TokenAmount
import ChainAtlas.Proofs.Registry.EntryByEntry
import ChainAtlas.Proofs.Json.Reordering
import ChainAtlas.Proofs.Document.Reordering
import ChainAtlas.Proofs.Registry.Reordering
import ChainAtlas.Proofs.Registry.Session
import ChainAtlas.Proofs.Catalog
import ChainAtlas.Proofs.CommandLine.Reporting
import ChainAtlas.Proofs.CommandLine.Finishing
import ChainAtlas.Proofs.Numeral.Hexadecimal
import ChainAtlas.Proofs.Probe.Reply
import ChainAtlas.Proofs.Document.Endpoints
import ChainAtlas.Proofs.CommandLine.Arguments
import ChainAtlas.Proofs.CommandLine.Probing
import ChainAtlas.Proofs.Network.Resolution
import ChainAtlas.Proofs.Network.OverrideVariable
import ChainAtlas.Proofs.Network.Agreement
import ChainAtlas.Proofs.Numeral.Positional
import ChainAtlas.Proofs.Registry.Lookups
import ChainAtlas.Proofs.Registry.Agreement
import ChainAtlas.Proofs.Operation.Method
import ChainAtlas.Proofs.Url.Beginning
import ChainAtlas.Proofs.Document.Renaming
import ChainAtlas.Proofs.Operation.WholeNumber
import ChainAtlas.Proofs.Operation.Calls
import ChainAtlas.Proofs.Registry.Selection
import ChainAtlas.Proofs.CommandLine.Insertion
import ChainAtlas.Proofs.CommandLine.Selecting
