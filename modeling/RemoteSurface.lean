import RemoteSurface.Action
import RemoteSurface.Action.Catalog
import RemoteSurface.Action.Dispatch
import RemoteSurface.Arguments
import RemoteSurface.Binding
import RemoteSurface.Cancel
import RemoteSurface.Children
import RemoteSurface.Component
import RemoteSurface.Component.Written
import RemoteSurface.Http
import RemoteSurface.Http.Transfer
import RemoteSurface.Json
import RemoteSurface.Json.Reading
import RemoteSurface.Json.Source
import RemoteSurface.Main
import RemoteSurface.Message
import RemoteSurface.Message.Entry
import RemoteSurface.Message.Validation
import RemoteSurface.Number.Double
import RemoteSurface.Number.Rounding
import RemoteSurface.Number.Shortest
import RemoteSurface.Number.Stepwise
import RemoteSurface.Number.Written
import RemoteSurface.Origin
import RemoteSurface.Origin.Reply
import RemoteSurface.Outline
import RemoteSurface.Path
import RemoteSurface.Program
import RemoteSurface.Proofs.BackoffDelays
import RemoteSurface.Proofs.CancelAnswers
import RemoteSurface.Proofs.CancelFamilies
import RemoteSurface.Proofs.CancelHistory
import RemoteSurface.Proofs.CancelWaits
import RemoteSurface.Proofs.ConnectionOutcome
import RemoteSurface.Proofs.DataNodes
import RemoteSurface.Proofs.DataReads
import RemoteSurface.Proofs.DataUpdates
import RemoteSurface.Proofs.DataWrites
import RemoteSurface.Proofs.DecoderChunks
import RemoteSurface.Proofs.DecoderStreams
import RemoteSurface.Proofs.EntryDefects
import RemoteSurface.Proofs.EntryValues
import RemoteSurface.Proofs.EventStreams
import RemoteSurface.Proofs.FittingRecords
import RemoteSurface.Proofs.FlatStyles
import RemoteSurface.Proofs.FolderPaths
import RemoteSurface.Proofs.FormPairs
import RemoteSurface.Proofs.LoadedSettings
import RemoteSurface.Proofs.LowerCase
import RemoteSurface.Proofs.MessageDefects
import RemoteSurface.Proofs.MessageLabels
import RemoteSurface.Proofs.MessageOrder
import RemoteSurface.Proofs.MessageReduction
import RemoteSurface.Proofs.NamedSurfaces
import RemoteSurface.Proofs.NearestDoubles
import RemoteSurface.Proofs.NestedScopes
import RemoteSurface.Proofs.NormalNames
import RemoteSurface.Proofs.OriginEndpoints
import RemoteSurface.Proofs.Publications
import RemoteSurface.Proofs.ReadBindings
import RemoteSurface.Proofs.ReadJson
import RemoteSurface.Proofs.ReconnectDelays
import RemoteSurface.Proofs.ReconnectLimit
import RemoteSurface.Proofs.RefusedActions
import RemoteSurface.Proofs.RefusedHosts
import RemoteSurface.Proofs.ReplayConvergence
import RemoteSurface.Proofs.RereadMessages
import RemoteSurface.Proofs.RereadRecords
import RemoteSurface.Proofs.ReservedItem
import RemoteSurface.Proofs.RunTables
import RemoteSurface.Proofs.SessionClosing
import RemoteSurface.Proofs.SessionCourse
import RemoteSurface.Proofs.SessionPhases
import RemoteSurface.Proofs.SessionReplay
import RemoteSurface.Proofs.SessionReports
import RemoteSurface.Proofs.SessionRuns
import RemoteSurface.Proofs.ShortestDecimals
import RemoteSurface.Proofs.SnapshotSharing
import RemoteSurface.Proofs.StepwiseReading
import RemoteSurface.Proofs.StyleMerge
import RemoteSurface.Proofs.SurfaceHistory
import RemoteSurface.Proofs.SurfaceOrder
import RemoteSurface.Proofs.TableLaws
import RemoteSurface.Proofs.TextEncoding
import RemoteSurface.Proofs.TextPieces
import RemoteSurface.Proofs.WebUrls
import RemoteSurface.Proofs.WrittenJson
import RemoteSurface.Proofs.WrittenNumbers
import RemoteSurface.Proofs.WrittenPaths
import RemoteSurface.Session
import RemoteSurface.SessionId
import RemoteSurface.Settings
import RemoteSurface.Settings.Load
import RemoteSurface.Snapshot
import RemoteSurface.Stream.Backoff
import RemoteSurface.Stream.Frames
import RemoteSurface.Stream.Phase
import RemoteSurface.Stream.Report
import RemoteSurface.Style
import RemoteSurface.Surface
import RemoteSurface.Table
import RemoteSurface.Text.Blank
import RemoteSurface.Text.Lowercase
import RemoteSurface.Text.Normal
import RemoteSurface.Text.Normal.Tables
import RemoteSurface.Text.Quoted
import RemoteSurface.Text.Runs
import RemoteSurface.Text.Split
import RemoteSurface.Text.Utf8
import RemoteSurface.Text.Visible
import RemoteSurface.Toml.Document
import RemoteSurface.Toml.Scalar
import RemoteSurface.Toml.Tree
import RemoteSurface.Url
import RemoteSurface.Url.Address
import RemoteSurface.Url.Domain
import RemoteSurface.Url.Domain.Label
import RemoteSurface.Url.Domain.Mapping
import RemoteSurface.Url.Domain.Scripts
import RemoteSurface.Url.Form
import RemoteSurface.Url.Host
import RemoteSurface.Url.Parse
import RemoteSurface.Url.Percent
import RemoteSurface.Url.Punycode
import RemoteSurface.Url.Segments
import RemoteSurface.Value
