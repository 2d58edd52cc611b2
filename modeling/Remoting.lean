import Remoting.Behaviour
import Remoting.Collaborator
import Remoting.Config
import Remoting.Config.Builder
import Remoting.Config.Release
import Remoting.Connection
import Remoting.Decimal.Shortest
import Remoting.Duration
import Remoting.Endpoint.Local
import Remoting.Endpoint.State
import Remoting.Error
import Remoting.Error.Creation
import Remoting.Io.Error
import Remoting.Io.Kind
import Remoting.Io.SystemError
import Remoting.Journal
import Remoting.Json.Cursor
import Remoting.Json.Fault
import Remoting.Json.Number
import Remoting.Json.Read
import Remoting.Json.Skip
import Remoting.Json.Text
import Remoting.Leak
import Remoting.Operation.Script
import Remoting.Operation.Tracker
import Remoting.Options
import Remoting.Protocol
import Remoting.Schedule
import Remoting.Session
import Remoting.Settings
import Remoting.Settings.Document
import Remoting.Target
import Remoting.Target.Ipv6
import Remoting.Target.Percent
import Remoting.Task
import Remoting.TeardownStep
import Remoting.Text.Blank
import Remoting.Text.Quoted
import Remoting.Text.Unprintable
import Remoting.World
import Remoting.World.Acting
import Remoting.World.Client
import Remoting.World.Close
import Remoting.World.Connect
import Remoting.World.Execute
import Remoting.World.Life
import Remoting.World.Parts
import Remoting.World.Poll
import Remoting.World.Step
import Remoting.Proofs.Run
import Remoting.Proofs.Quiet
import Remoting.Proofs.History
import Remoting.Proofs.Stack
import Remoting.Proofs.CallsFit
import Remoting.Proofs.Acting
import Remoting.Proofs.Changes
import Remoting.Proofs.Closed
import Remoting.Proofs.Connected
import Remoting.Proofs.Order
import Remoting.Proofs.Outcome
import Remoting.Proofs.Aftermath
import Remoting.Proofs.Cancelling
import Remoting.Proofs.Draining
import Remoting.Proofs.Releasing
import Remoting.Proofs.Reading
import Remoting.Proofs.RoundTrip
import Remoting.Proofs.Phases
import Remoting.Proofs.Custody
import Remoting.Proofs.Orphans
import Remoting.Proofs.Leaks
import Remoting.Proofs.Listing
import Remoting.Proofs.Reporting
import Remoting.Proofs.Limiting
import Remoting.Proofs.OneByOne
import Remoting.Proofs.Advancing
import Remoting.Proofs.Minding
import Remoting.Proofs.Serialising
import Remoting.Proofs.Courses
import Remoting.Proofs.Ledger
import Remoting.Proofs.Walks
import Remoting.Proofs.Delivering
import Remoting.Proofs.Reaching
import Remoting.Proofs.Unclosed
import Remoting.Proofs.Addresses
import Remoting.Proofs.Escapes
import Remoting.Proofs.Targets
import Remoting.Proofs.Resuming
import Remoting.Proofs.Building
import Remoting.Proofs.Creating
import Remoting.Proofs.Attempting
import Remoting.Proofs.Waiting
import Remoting.Proofs.Publishing
import Remoting.Proofs.Watching
import Remoting.Proofs.Emptying
import Remoting.Proofs.Copying
