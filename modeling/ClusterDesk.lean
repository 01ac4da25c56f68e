import ClusterDesk.AppState
import ClusterDesk.AppState.File
import ClusterDesk.Command
import ClusterDesk.Command.ConfigMaps
import ClusterDesk.Command.Editing
import ClusterDesk.Command.Namespaces
import ClusterDesk.Command.Outside
import ClusterDesk.Command.Report
import ClusterDesk.Command.Usage
import ClusterDesk.Command.World
import ClusterDesk.CommandLine
import ClusterDesk.Config
import ClusterDesk.ConfigMap
import ClusterDesk.ConfigMap.Record
import ClusterDesk.Decimal
import ClusterDesk.Dict
import ClusterDesk.Disk
import ClusterDesk.Domain
import ClusterDesk.Domain.Direction
import ClusterDesk.Domain.Joining
import ClusterDesk.Domain.Mapping
import ClusterDesk.Domain.Punycode
import ClusterDesk.Draft
import ClusterDesk.Editor
import ClusterDesk.Editor.Workbench
import ClusterDesk.Failure
import ClusterDesk.Future
import ClusterDesk.Http
import ClusterDesk.Http.Script
import ClusterDesk.Instant
import ClusterDesk.Json
import ClusterDesk.Json.Field
import ClusterDesk.Json.Parser
import ClusterDesk.Json.Printer
import ClusterDesk.Log
import ClusterDesk.Main
import ClusterDesk.Manifest
import ClusterDesk.Manifest.Wire
import ClusterDesk.Namespace
import ClusterDesk.Namespace.Record
import ClusterDesk.Problem
import ClusterDesk.Program
import ClusterDesk.ResourceId
import ClusterDesk.Rest
import ClusterDesk.Service
import ClusterDesk.Settings
import ClusterDesk.Settings.Form
import ClusterDesk.Settings.Form.Record
import ClusterDesk.Settings.Remote
import ClusterDesk.Settings.Server
import ClusterDesk.StateStore
import ClusterDesk.Store
import ClusterDesk.Store.Faulty
import ClusterDesk.Text.Base64
import ClusterDesk.Text.Blank
import ClusterDesk.Text.Combining
import ClusterDesk.Text.Composition
import ClusterDesk.Text.Hex
import ClusterDesk.Text.Invisible
import ClusterDesk.Text.Percent
import ClusterDesk.Text.Quoted
import ClusterDesk.Text.Ranges
import ClusterDesk.Text.Replace
import ClusterDesk.Text.Split
import ClusterDesk.Text.Utf8
import ClusterDesk.Url
import ClusterDesk.Url.Address
import ClusterDesk.Url.Parser
import ClusterDesk.Yaml.Cursor
import ClusterDesk.Yaml.Node
import ClusterDesk.Yaml.Printer
import ClusterDesk.Yaml.Scalar
import ClusterDesk.Yaml.Token
import ClusterDesk.Proofs.Conversation
import ClusterDesk.Proofs.Operations
import ClusterDesk.Proofs.WriteSafety
import ClusterDesk.Proofs.Editing
import ClusterDesk.Proofs.Replacement
import ClusterDesk.Proofs.Directory
import ClusterDesk.Proofs.Sessions
import ClusterDesk.Proofs.Locking
import ClusterDesk.Proofs.LostUpdate
import ClusterDesk.Proofs.JsonValue
import ClusterDesk.Proofs.SettingsCodec
import ClusterDesk.Proofs.ServerData
import ClusterDesk.Proofs.Submission
import ClusterDesk.Proofs.JsonText
import ClusterDesk.Proofs.StateFile
import ClusterDesk.Proofs.Agreement
import ClusterDesk.Proofs.Jobs
import ClusterDesk.Proofs.ReservedNames
import ClusterDesk.Proofs.OtherForm
import ClusterDesk.Proofs.Toggling
import ClusterDesk.Proofs.ReadBack
import ClusterDesk.Proofs.Stages
import ClusterDesk.Proofs.Overlap
import ClusterDesk.Proofs.ProgressFlag
import ClusterDesk.Proofs.LastAnswer
import ClusterDesk.Proofs.Registers
import ClusterDesk.Proofs.Restarts
import ClusterDesk.Proofs.Isolation
import ClusterDesk.Proofs.EntryArguments
import ClusterDesk.Proofs.FormView
import ClusterDesk.Proofs.Addresses
import ClusterDesk.Proofs.EntryHistory
import ClusterDesk.Proofs.LabelEditing
import ClusterDesk.Proofs.MergedNames
import ClusterDesk.Proofs.AddressForm
import ClusterDesk.Proofs.Endpoint
import ClusterDesk.Proofs.HeldDrafts
import ClusterDesk.Proofs.Uids
