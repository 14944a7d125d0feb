import RoomSync.Classifier.Basic
import RoomSync.Client
import RoomSync.CommandLine
import RoomSync.Configuration.Basic
import RoomSync.Configuration.Environment
import RoomSync.Configuration.Load
import RoomSync.ConfiguredClient
import RoomSync.Cursor.Batch
import RoomSync.Cursor.Loop
import RoomSync.Cursor.Request
import RoomSync.Digits
import RoomSync.Effect
import RoomSync.Error
import RoomSync.Event.Basic
import RoomSync.Event.Codec
import RoomSync.Identifier.Basic
import RoomSync.Identifier.Codec
import RoomSync.Identifier.Ip
import RoomSync.Json.Decode
import RoomSync.Json.Double
import RoomSync.Json.Reader
import RoomSync.Json.Value
import RoomSync.Json.Writer
import RoomSync.Main
import RoomSync.Proofs.Classifier.Deciding
import RoomSync.Proofs.Classifier.Departures
import RoomSync.Proofs.Classifier.Duplicates
import RoomSync.Proofs.Classifier.Effects
import RoomSync.Proofs.Classifier.Histories
import RoomSync.Proofs.Classifier.Locality
import RoomSync.Proofs.Classifier.Membership
import RoomSync.Proofs.Classifier.Readings
import RoomSync.Proofs.Classifier.Repeats
import RoomSync.Proofs.Classifier.Standing
import RoomSync.Proofs.Classifier.Timelines
import RoomSync.Proofs.Cursor.Delivery
import RoomSync.Proofs.Cursor.FilterRuns
import RoomSync.Proofs.Cursor.Rejoin
import RoomSync.Proofs.Cursor.Writes
import RoomSync.Proofs.Cursor.WrittenForm
import RoomSync.Proofs.Event.Kinds
import RoomSync.Proofs.Event.WrittenForm
import RoomSync.Proofs.Json.Content
import RoomSync.Proofs.Json.Records
import RoomSync.Proofs.Json.RoundTrips
import RoomSync.Proofs.Outcomes
import RoomSync.Proofs.Recency
import RoomSync.Proofs.Retry.Accounting
import RoomSync.Proofs.Room.Replays
import RoomSync.Proofs.Room.State
import RoomSync.Proofs.Session.Calls
import RoomSync.Proofs.Session.Lifecycle
import RoomSync.Proofs.Session.Overlaps
import RoomSync.Proofs.Session.Routes
import RoomSync.Proofs.Session.Separation
import RoomSync.Proofs.Session.Stays
import RoomSync.Proofs.Session.StoreUse
import RoomSync.Proofs.Session.TaskHistories
import RoomSync.Proofs.Storage.Durability
import RoomSync.Proofs.Storage.Files
import RoomSync.Proofs.TableLookup
import RoomSync.Proofs.Window.Batches
import RoomSync.Proofs.Window.Building
import RoomSync.Proofs.Window.MachineWords
import RoomSync.Proofs.Window.OwnMembership
import RoomSync.Proofs.Window.PageSizes
import RoomSync.Proofs.Window.Places
import RoomSync.Proofs.Window.Positions
import RoomSync.Proofs.Window.Reachable
import RoomSync.Proofs.Window.Refusals
import RoomSync.Proofs.Window.Reload
import RoomSync.Proofs.Window.Resent
import RoomSync.Proofs.Window.Restarts
import RoomSync.Proofs.Window.Resume
import RoomSync.Proofs.Window.Retries
import RoomSync.Proofs.Window.SavedForm
import RoomSync.Proofs.Window.Slots
import RoomSync.Proofs.Window.WellFormed
import RoomSync.Proofs.Window.WrittenForm
import RoomSync.Proofs.WireFormat
import RoomSync.Recency
import RoomSync.Replay
import RoomSync.Retry.Backoff
import RoomSync.Retry.Stop
import RoomSync.Retry.Task
import RoomSync.Room.State
import RoomSync.Session.World
import RoomSync.Signal.Basic
import RoomSync.Signal.Bus
import RoomSync.Storage.Document
import RoomSync.Storage.FileStore
import RoomSync.Storage.FileSystem
import RoomSync.Storage.Path
import RoomSync.Storage.Store
import RoomSync.Table
import RoomSync.Toml.Document
import RoomSync.Toml.Reader
import RoomSync.Toml.Scalar
import RoomSync.Toml.Text
import RoomSync.Unicode.Composition
import RoomSync.Unicode.Direction
import RoomSync.Unicode.Joining
import RoomSync.Unicode.Mark
import RoomSync.Unicode.NameForm
import RoomSync.Unicode.Ranges
import RoomSync.Web.Address
import RoomSync.Web.Domain
import RoomSync.Web.Host
import RoomSync.Web.Path
import RoomSync.Web.Percent
import RoomSync.Web.Punycode
import RoomSync.Web.Refusal
import RoomSync.Window.Engine
import RoomSync.Window.Message
import RoomSync.Window.Operations
import RoomSync.Window.Room
import RoomSync.Window.RoomList
import RoomSync.Window.Saved
import RoomSync.Proofs.Window.Rebuilding
import RoomSync.Proofs.Window.Shifting
import RoomSync.Proofs.Window.Footprints
import RoomSync.Proofs.Window.Resyncs
import RoomSync.Proofs.Classifier.Groups
import RoomSync.Proofs.Classifier.Arrivals
import RoomSync.Proofs.Window.Documents
import RoomSync.Proofs.Cursor.BatchOrder
import RoomSync.Proofs.Room.Effective
import RoomSync.Proofs.Window.Projection
import RoomSync.Proofs.Window.Requests
import RoomSync.Proofs.Json.Edits
import RoomSync.Proofs.Cursor.MalformedIds
import RoomSync.Proofs.Classifier.Selection
import RoomSync.Proofs.Window.Restoring
import RoomSync.Proofs.Json.Rewriting
import RoomSync.Proofs.Event.Rewritten
