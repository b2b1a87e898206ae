import CoEdit.Address
import CoEdit.CommandLine.Arguments
import CoEdit.CommandLine.Help
import CoEdit.CommandLine.Run
import CoEdit.Config.Basic
import CoEdit.Config.Decode
import CoEdit.Config.Draft
import CoEdit.Config.Environment
import CoEdit.Config.Error
import CoEdit.Config.Source
import CoEdit.Config.Validation
import CoEdit.Connection
import CoEdit.Directory
import CoEdit.Disk
import CoEdit.Duration
import CoEdit.Error
import CoEdit.Host
import CoEdit.Json.Number
import CoEdit.Json.Reader
import CoEdit.Json.Token
import CoEdit.Json.Value
import CoEdit.Json.Writer
import CoEdit.Log
import CoEdit.Network
import CoEdit.Number.Decimal
import CoEdit.Number.Double
import CoEdit.Number.Modular
import CoEdit.Number.Shortest
import CoEdit.Path
import CoEdit.Plugin.Autosave
import CoEdit.Plugin.Autosave.Lookup
import CoEdit.Plugin.Autosave.Session
import CoEdit.Plugin.Basic
import CoEdit.Plugin.Batch
import CoEdit.Plugin.Load
import CoEdit.Plugin.Logging
import CoEdit.Plugin.Module
import CoEdit.Plugin.Parameter
import CoEdit.Plugin.Recording
import CoEdit.Plugin.Registry
import CoEdit.Plugin.SideTable
import CoEdit.Proofs.Network.Custody
import CoEdit.Proofs.Plugin.Frame
import CoEdit.Proofs.Server.Acquisition
import CoEdit.Roster
import CoEdit.Script
import CoEdit.SecurityPolicy
import CoEdit.Server.Basic
import CoEdit.Server.Error
import CoEdit.Server.Loop
import CoEdit.Server.Pool
import CoEdit.Server.Reload
import CoEdit.Server.Report
import CoEdit.Server.Resources
import CoEdit.Server.Snapshot
import CoEdit.Server.Watch
import CoEdit.Session
import CoEdit.Storage.Accounts
import CoEdit.Storage.Documents
import CoEdit.Table
import CoEdit.Text.Blank
import CoEdit.Text.Extending
import CoEdit.Text.Printable
import CoEdit.Text.Quoted
import CoEdit.Tls.Base64
import CoEdit.Tls.Certificate
import CoEdit.Tls.Credentials
import CoEdit.Tls.Der
import CoEdit.Tls.EdwardsCurve
import CoEdit.Tls.Group
import CoEdit.Tls.Pem
import CoEdit.Tls.PrimeCurve
import CoEdit.Tls.PrivateKey
import CoEdit.Tls.Sha512
import CoEdit.Toml.Number
import CoEdit.Toml.Reader
import CoEdit.Toml.Table
import CoEdit.Toml.Text
import CoEdit.Tree
import CoEdit.Tree.Layering
import CoEdit.Yaml.Cursor
import CoEdit.Yaml.Node
import CoEdit.Yaml.Reader
import CoEdit.Yaml.Scalar
import CoEdit.Yaml.Token
import CoEdit.Main
import CoEdit.Proofs.Server.Endpoints
import CoEdit.Proofs.Server.Run
import CoEdit.Proofs.Server.Listening
import CoEdit.Proofs.Server.Refusal
import CoEdit.Proofs.Server.Coherence
import CoEdit.Proofs.Plugin.SideStates
import CoEdit.Proofs.Plugin.Observed
import CoEdit.Proofs.Server.Mirror
import CoEdit.Proofs.Plugin.Trace
import CoEdit.Proofs.Plugin.Reports
import CoEdit.Proofs.Plugin.Visiting
import CoEdit.Proofs.Plugin.Lives
import CoEdit.Proofs.Plugin.Lifecycle
import CoEdit.Proofs.Server.Ports
import CoEdit.Proofs.Server.Serving
import CoEdit.Proofs.Server.ConfiguredPort
import CoEdit.Proofs.Server.Decision
import CoEdit.Proofs.Server.Availability
import CoEdit.Proofs.Plugin.Likeness
import CoEdit.Proofs.Server.Agreement
import CoEdit.Proofs.Plugin.Cues
import CoEdit.Proofs.Plugin.Stack
import CoEdit.Proofs.Plugin.Nesting
import CoEdit.Proofs.Plugin.Layers
import CoEdit.Proofs.Plugin.Succession
import CoEdit.Proofs.Server.Handover
import CoEdit.Proofs.Path.Components
import CoEdit.Proofs.Path.Extension
import CoEdit.Proofs.Disk.Places
import CoEdit.Proofs.Disk.Growth
import CoEdit.Proofs.Storage.Documents
import CoEdit.Proofs.Storage.Overwriting
import CoEdit.Proofs.Plugin.Keys
import CoEdit.Proofs.Plugin.Bookkeeping
import CoEdit.Proofs.Tree.Settled
import CoEdit.Proofs.Tree.Layers
import CoEdit.Proofs.Latest
import CoEdit.Proofs.Connection.Handshake
import CoEdit.Proofs.Server.Authentication
import CoEdit.Proofs.Server.Numbering
import CoEdit.Proofs.Loop.Visitors
import CoEdit.Proofs.Server.Replacement
import CoEdit.Proofs.Server.Material
import CoEdit.Proofs.Plugin.Overriding
import CoEdit.Proofs.Plugin.Saving
import CoEdit.Proofs.Plugin.Courtesy
import CoEdit.Proofs.Plugin.Safekeeping
import CoEdit.Proofs.Plugin.Outside
import CoEdit.Proofs.Plugin.Care
import CoEdit.Proofs.Plugin.Persistence
import CoEdit.Proofs.Plugin.Outcomes
import CoEdit.Proofs.Plugin.Independence
import CoEdit.Proofs.Server.Summary
import CoEdit.Proofs.Server.Repetition
import CoEdit.Proofs.Plugin.Tenure
import CoEdit.Proofs.Server.Strictness
import CoEdit.Proofs.Path.Parents
import CoEdit.Proofs.Disk.Passage
import CoEdit.Proofs.Disk.Contents
import CoEdit.Proofs.Disk.Making
import CoEdit.Proofs.Plugin.Schema
import CoEdit.Proofs.Storage.Writes
import CoEdit.Proofs.Storage.Listing
import CoEdit.Proofs.Json.RoundTrip
import CoEdit.Proofs.Storage.AccountFile
import CoEdit.Proofs.Storage.Attempts
import CoEdit.Proofs.Storage.SharedRoot
import CoEdit.Proofs.Address
import CoEdit.Proofs.Config.Completion
import CoEdit.Proofs.Config.Placeholders
import CoEdit.Proofs.Config.RoundTrip
import CoEdit.Proofs.Config.Sources
import CoEdit.Proofs.Number.Digits
import CoEdit.Proofs.Duration
import CoEdit.Proofs.Loop.Tasks
import CoEdit.Proofs.Server.Debouncing
import CoEdit.Proofs.Plugin.Endings
import CoEdit.Proofs.Plugin.Chains
import CoEdit.Proofs.Plugin.LibraryFiles
import CoEdit.Proofs.Json.WholeNumbers
import CoEdit.Proofs.Plugin.WholeNumbers
import CoEdit.Proofs.Plugin.Pending
