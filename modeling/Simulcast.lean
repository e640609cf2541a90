import Simulcast.Announcement.Channel
import Simulcast.Announcement.Kind
import Simulcast.Announcement.Message
import Simulcast.Binary64.Basic
import Simulcast.Binary64.Layout
import Simulcast.Binary64.Reading
import Simulcast.Binary64.Shortest
import Simulcast.Endpoint.Basic
import Simulcast.Endpoint.Failure
import Simulcast.Endpoint.Id
import Simulcast.Journal.Event
import Simulcast.Journal.Filter
import Simulcast.Journal.Level
import Simulcast.Journal.Line
import Simulcast.Journal.Setup
import Simulcast.Json.Basic
import Simulcast.Json.Fault
import Simulcast.Json.Reader
import Simulcast.Json.Scan
import Simulcast.Json.Skip
import Simulcast.Json.Wire
import Simulcast.Json.Writer
import Simulcast.Layer.Basic
import Simulcast.Layer.Description
import Simulcast.Layer.Order
import Simulcast.Lineup.Basic
import Simulcast.Packet
import Simulcast.Role.Basic
import Simulcast.Role.Holder
import Simulcast.Roster.Basic
import Simulcast.Roster.Handle
import Simulcast.Session.Action
import Simulcast.Session.Admission
import Simulcast.Session.Basic
import Simulcast.Session.Happening
import Simulcast.Session.Run
import Simulcast.Session.Switching
import Simulcast.Settings.Coercion
import Simulcast.Settings.Document
import Simulcast.Settings.Environment
import Simulcast.Settings.Fault
import Simulcast.Settings.Layering
import Simulcast.Settings.Load
import Simulcast.Settings.Path
import Simulcast.Settings.Schema
import Simulcast.Settings.Tree
import Simulcast.Switching.Promotion
import Simulcast.Switching.Request
import Simulcast.Switching.Snapshot
import Simulcast.Switching.Tally
import Simulcast.Switching.Threshold
import Simulcast.Text.Alphanumeric
import Simulcast.Text.Blank
import Simulcast.Text.Casing
import Simulcast.Text.Hidden
import Simulcast.Text.LowerCase
import Simulcast.Text.Mark
import Simulcast.Text.Numeral
import Simulcast.Text.Quoted
import Simulcast.Text.Ranges
import Simulcast.Toml.Document
import Simulcast.Toml.Table
import Simulcast.Toml.Text
import Simulcast.Toml.Word
import Simulcast.Trickle.Counter
import Simulcast.Trickle.Ledger
import Simulcast.Trickle.Request
import Simulcast.Proofs.Session.Frame
import Simulcast.Proofs.Session.Decision
import Simulcast.Proofs.Session.Course
import Simulcast.Proofs.Trickle.Cycle
import Simulcast.Proofs.Session.Override
import Simulcast.Proofs.Session.Admission
import Simulcast.Proofs.Session.Bridging
import Simulcast.Proofs.Roster.Generation
import Simulcast.Proofs.Session.Interruption
import Simulcast.Proofs.Session.Lockstep
import Simulcast.Proofs.Session.Removal
import Simulcast.Proofs.Session.Deeds
import Simulcast.Proofs.Session.Threshold
import Simulcast.Proofs.Session.Told
import Simulcast.Proofs.Session.Heralds
import Simulcast.Proofs.Lineup.Lookup
import Simulcast.Proofs.Session.Outcome
import Simulcast.Proofs.Session.Retreat
import Simulcast.Proofs.Session.Repetition
import Simulcast.Proofs.Session.Keyframes
import Simulcast.Proofs.Session.Revolution
import Simulcast.Proofs.Session.Delivery
import Simulcast.Proofs.Roster.Change
import Simulcast.Proofs.Roster.History
import Simulcast.Proofs.Session.Stance
import Simulcast.Proofs.Session.Staleness
import Simulcast.Proofs.Session.Proclamation
import Simulcast.Proofs.Session.Independence
import Simulcast.Proofs.Session.Grants
import Simulcast.Proofs.Session.Decrees
import Simulcast.Proofs.Session.Fates
import Simulcast.Proofs.Session.Statistics
import Simulcast.Proofs.Settings.Merging
import Simulcast.Proofs.Settings.Arrangement
import Simulcast.Proofs.Settings.Agreement
import Simulcast.Proofs.Json.Layout
import Simulcast.Proofs.Json.Skipping
import Simulcast.Proofs.Json.Reading
import Simulcast.Proofs.Json.Record
import Simulcast.Proofs.Wire.Lawful
import Simulcast.Proofs.Wire.Presentation
import Simulcast.Proofs.Trickle.Tenure
import Simulcast.Proofs.Roster.Seats
import Simulcast.Proofs.Lineup.Standing
import Simulcast.Proofs.Settings.Layers
import Simulcast.Proofs.Role.Packing
import Simulcast.Proofs.Journal.Directives
import Simulcast.Proofs.Journal.Decisions
import Simulcast.Proofs.Session.Tracing
