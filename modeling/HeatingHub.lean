import HeatingHub.Calendar.ClockTime
import HeatingHub.Calendar.Date
import HeatingHub.Calendar.Moment
import HeatingHub.Calendar.Reading
import HeatingHub.Client.Exchange
import HeatingHub.Client.Remote
import HeatingHub.Climate
import HeatingHub.Command
import HeatingHub.CommandLine
import HeatingHub.Config
import HeatingHub.Effective
import HeatingHub.Entity
import HeatingHub.Environment
import HeatingHub.Hub.Request
import HeatingHub.Hub.Run
import HeatingHub.Installation
import HeatingHub.Installation.Form
import HeatingHub.Json.Decoder
import HeatingHub.Json.Document
import HeatingHub.Json.Fields
import HeatingHub.Json.Path
import HeatingHub.Json.Reading
import HeatingHub.Json.Value
import HeatingHub.Main
import HeatingHub.Mode
import HeatingHub.Number.Double
import HeatingHub.Number.Numeral
import HeatingHub.Number.Power
import HeatingHub.Number.Reading
import HeatingHub.Number.Shortest
import HeatingHub.Number.Text
import HeatingHub.Override
import HeatingHub.Proofs.Calendar.DateReading
import HeatingHub.Proofs.Calendar.DateText
import HeatingHub.Proofs.Calendar.Minutes
import HeatingHub.Proofs.Calendar.MomentReading
import HeatingHub.Proofs.Client.Course
import HeatingHub.Proofs.Client.Echo
import HeatingHub.Proofs.Client.Facility
import HeatingHub.Proofs.Client.Identification
import HeatingHub.Proofs.Client.Lockstep
import HeatingHub.Proofs.Client.Login
import HeatingHub.Proofs.Client.Requests
import HeatingHub.Proofs.Client.Run
import HeatingHub.Proofs.Client.Secrecy
import HeatingHub.Proofs.Client.Transcript
import HeatingHub.Proofs.Client.Vetoes
import HeatingHub.Proofs.Climate.Times
import HeatingHub.Proofs.CommandLine.Arguments
import HeatingHub.Proofs.CommandLine.Grammar
import HeatingHub.Proofs.CommandLine.Logout
import HeatingHub.Proofs.CommandLine.VetoDuration
import HeatingHub.Proofs.Config.Validation
import HeatingHub.Proofs.Environment.Assignment
import HeatingHub.Proofs.Environment.Loading
import HeatingHub.Proofs.Hub.Admissible
import HeatingHub.Proofs.Hub.Announcement
import HeatingHub.Proofs.Hub.Clearing
import HeatingHub.Proofs.Hub.Discipline
import HeatingHub.Proofs.Hub.Effect
import HeatingHub.Proofs.Hub.Failure
import HeatingHub.Proofs.Hub.Flow
import HeatingHub.Proofs.Hub.History
import HeatingHub.Proofs.Hub.InForce
import HeatingHub.Proofs.Hub.Lockstep
import HeatingHub.Proofs.Hub.ManualRoom
import HeatingHub.Proofs.Hub.Mirror
import HeatingHub.Proofs.Hub.Naming
import HeatingHub.Proofs.Hub.Operation
import HeatingHub.Proofs.Hub.Orderly
import HeatingHub.Proofs.Hub.Plan
import HeatingHub.Proofs.Hub.Refresh
import HeatingHub.Proofs.Hub.Refusal
import HeatingHub.Proofs.Hub.Rendering
import HeatingHub.Proofs.Hub.Stepwise
import HeatingHub.Proofs.Hub.Switch
import HeatingHub.Proofs.Hub.Target
import HeatingHub.Proofs.Hub.Upkeep
import HeatingHub.Proofs.Json.Numerals
import HeatingHub.Proofs.Json.Rereading
import HeatingHub.Proofs.Json.Slots
import HeatingHub.Proofs.Json.Texts
import HeatingHub.Proofs.Number.Digits
import HeatingHub.Proofs.Number.Doubles
import HeatingHub.Proofs.Number.Rounding
import HeatingHub.Proofs.Number.Shortest
import HeatingHub.Proofs.Outcome
import HeatingHub.Proofs.Registry.Directory
import HeatingHub.Proofs.Registry.Lookup
import HeatingHub.Proofs.Registry.Reach
import HeatingHub.Proofs.Registry.Synchronisation
import HeatingHub.Proofs.Schedule.Change
import HeatingHub.Proofs.Schedule.Occurrence
import HeatingHub.Proofs.Schedule.Order
import HeatingHub.Proofs.Snapshot.Patches
import HeatingHub.Proofs.Snapshot.Versions
import HeatingHub.Proofs.Text.Slugs
import HeatingHub.Proofs.Text.Trimming
import HeatingHub.Proofs.Throttle.Spacing
import HeatingHub.Proofs.Wire.Complaints
import HeatingHub.Proofs.Wire.Correspondence
import HeatingHub.Proofs.Wire.Overrides
import HeatingHub.Proofs.Wire.Stages
import HeatingHub.Registry
import HeatingHub.Schedule
import HeatingHub.Session
import HeatingHub.Snapshot
import HeatingHub.Text.Alphanumeric
import HeatingHub.Text.Blank
import HeatingHub.Text.CharClass
import HeatingHub.Text.Lines
import HeatingHub.Text.LowerCase
import HeatingHub.Text.Quoted
import HeatingHub.Text.Slug
import HeatingHub.Text.Terminal
import HeatingHub.Throttle
import HeatingHub.Wire.Account
import HeatingHub.Wire.Assembly
import HeatingHub.Wire.Control
import HeatingHub.Wire.Parts
import HeatingHub.Wire.Reports
import HeatingHub.Wire.Rooms
