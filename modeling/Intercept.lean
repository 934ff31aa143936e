import Intercept.Certificate.Cache
import Intercept.Certificate.Issuer
import Intercept.Config.Address
import Intercept.Config.Basic
import Intercept.Config.Conversion
import Intercept.Config.Layers
import Intercept.Config.Loader
import Intercept.Config.Section
import Intercept.Decimal.Binary64
import Intercept.Decimal.Shortest
import Intercept.Document.Basic
import Intercept.Document.KeySet
import Intercept.Document.Merge
import Intercept.Document.Number
import Intercept.Document.Parser
import Intercept.Document.Path
import Intercept.Document.Payload
import Intercept.Document.Pointer
import Intercept.Document.Printer
import Intercept.Error
import Intercept.Http.Message
import Intercept.Http.Relay
import Intercept.Http.Uri
import Intercept.Module.Program
import Intercept.Module.Registry
import Intercept.Module.Script
import Intercept.Module.Script.Reader
import Intercept.Notice
import Intercept.Observability
import Intercept.Proxy.Basic
import Intercept.Proxy.Exchange
import Intercept.Proxy.HostFilter
import Intercept.Proxy.Identity
import Intercept.Regex.Basic
import Intercept.Regex.Capture
import Intercept.Regex.CharClass
import Intercept.Regex.Parser
import Intercept.Regex.Search
import Intercept.Regex.Token
import Intercept.Session.Dispatch
import Intercept.Session.Engine
import Intercept.Session.HookTable
import Intercept.Session.Key
import Intercept.Session.Start
import Intercept.Store.Basic
import Intercept.Store.Ingest
import Intercept.Store.Listener
import Intercept.Text.CaseFold
import Intercept.Text.Digit
import Intercept.Text.Lower
import Intercept.Text.Numeral
import Intercept.Text.Printable
import Intercept.Text.Quoted
import Intercept.Text.Split
import Intercept.Text.WordChar
import Intercept.Throttle
import Intercept.Toml.Parser
import Intercept.Toml.Scalar
import Intercept.Toml.Table
import Intercept.Proofs.Store.Blank
import Intercept.Proofs.Store.Run
import Intercept.Proofs.Store.Replay
import Intercept.Proofs.Register
import Intercept.Proofs.Store.Chronicle
import Intercept.Proofs.Store.Delivery
import Intercept.Proofs.Session.HookOrder
import Intercept.Proofs.Session.Roster
import Intercept.Proofs.Session.Ledger
import Intercept.Proofs.Session.Live
import Intercept.Proofs.Session.Passage
import Intercept.Proofs.Session.Counting
import Intercept.Proofs.Session.Roll
import Intercept.Proofs.Session.Mirror
import Intercept.Proofs.Proxy.Journal
import Intercept.Proofs.Session.Activity
import Intercept.Proofs.Session.Callback
import Intercept.Proofs.Session.Lineup
import Intercept.Proofs.Session.Steady
import Intercept.Proofs.Session.Course
import Intercept.Proofs.Session.Growth
import Intercept.Proofs.Store.Renumbered
import Intercept.Proofs.Session.Reduction
import Intercept.Proofs.Session.Outlook
import Intercept.Proofs.Proxy.Operations
import Intercept.Proofs.Proxy.Table
import Intercept.Proofs.Proxy.Swap
import Intercept.Proofs.Proxy.Legs
import Intercept.Proofs.Proxy.Farewell
import Intercept.Proofs.Proxy.Isolation
import Intercept.Proofs.Certificate.Recency
import Intercept.Proofs.Certificate.Issuance
import Intercept.Proofs.Store.Lifetime
import Intercept.Proofs.Store.Threads
import Intercept.Proofs.Store.Linearization
import Intercept.Proofs.Proxy.Orderly
import Intercept.Proofs.Proxy.Entry
import Intercept.Proofs.Proxy.Swapping
import Intercept.Proofs.Proxy.Atomic
import Intercept.Proofs.Session.Discarded
import Intercept.Proofs.Session.Rollback
import Intercept.Proofs.Document.Fields
import Intercept.Proofs.Document.Overlay
import Intercept.Proofs.Store.Change
import Intercept.Proofs.Proxy.Login
import Intercept.Proofs.Document.Pathwise
import Intercept.Proofs.Document.DeltaLog
import Intercept.Proofs.Document.DeltaPair
import Intercept.Proofs.Http.Receive
import Intercept.Proofs.Http.Origin
import Intercept.Proofs.Http.Transparency
import Intercept.Proofs.Store.Shelf
import Intercept.Proofs.Store.Shelved
import Intercept.Proofs.Store.Whereabouts
import Intercept.Proofs.Session.ChainMap
import Intercept.Proofs.Session.Removal
import Intercept.Proofs.Throttle.Calls
import Intercept.Proofs.Throttle.Serial
import Intercept.Proofs.Proxy.Denylist
import Intercept.Proofs.Document.Depth
import Intercept.Proofs.Document.Recursion
import Intercept.Proofs.Store.Depth
import Intercept.Proofs.Document.Walk
import Intercept.Proofs.Numeral
import Intercept.Proofs.Store.Extraction
import Intercept.Proofs.Proxy.Header
import Intercept.Proofs.Session.Identity
