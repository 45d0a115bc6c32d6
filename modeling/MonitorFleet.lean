import MonitorFleet.Main
import MonitorFleet.Rehearsal.Relayed
import MonitorFleet.Rehearsal.Shell
import MonitorFleet.Rehearsal.Timed
import MonitorFleet.Proofs.FanOut.Runs
import MonitorFleet.Proofs.FanOut.Standings
import MonitorFleet.Proofs.Task.Steps
import MonitorFleet.Proofs.FanOut.Reports
import MonitorFleet.Proofs.FanOut.OrderFree
import MonitorFleet.Proofs.Task.Frames
import MonitorFleet.Proofs.Task.OnlyAttempt
import MonitorFleet.Proofs.Collection.Agreement
import MonitorFleet.Proofs.Tunnel.Custody
import MonitorFleet.Proofs.Tunnel.Lifetime
import MonitorFleet.Proofs.Json.Groups
import MonitorFleet.Proofs.Json.Writing
import MonitorFleet.Proofs.Config.Loading
import MonitorFleet.Proofs.Config.RoundTrip
import MonitorFleet.Proofs.Config.SaveLoad
import MonitorFleet.Proofs.Task.Conduct
import MonitorFleet.Proofs.Task.Scripted
import MonitorFleet.Proofs.Task.Arrivals
import MonitorFleet.Proofs.Task.Courses
import MonitorFleet.Proofs.Task.Completion
import MonitorFleet.Proofs.Tree.LastName
import MonitorFleet.Proofs.SystemInfo.Retrieval
import MonitorFleet.Proofs.Selector.Hosts
import MonitorFleet.Proofs.Manifest.Labels
import MonitorFleet.Proofs.Tree.Directories
import MonitorFleet.Proofs.Tree.Changes
import MonitorFleet.Proofs.Task.Writing
import MonitorFleet.Proofs.Session.Directory
import MonitorFleet.Proofs.Session.History
import MonitorFleet.Proofs.Session.Usable
import MonitorFleet.Proofs.Task.Streaming
import MonitorFleet.Proofs.Collection.Archives
import MonitorFleet.Proofs.Yaml.Documents
import MonitorFleet.Proofs.Manifest.Text
import MonitorFleet.Proofs.Task.Cancelling
import MonitorFleet.Proofs.Tree.Growing
import MonitorFleet.Proofs.Session.Footprint
import MonitorFleet.Proofs.Session.Creating
import MonitorFleet.Proofs.FanOut.Tallies
import MonitorFleet.Proofs.Task.Counting
import MonitorFleet.Proofs.Task.Tallies
import MonitorFleet.Proofs.Collection.Counting
import MonitorFleet.Proofs.FanOut.LastOutcomes
import MonitorFleet.Proofs.Transfer.Appending
import MonitorFleet.Proofs.Retry.Reference
import MonitorFleet.Proofs.Task.Whole
import MonitorFleet.Proofs.Collection.Participants
import MonitorFleet.Proofs.CommandLine.Retrievals
import MonitorFleet.Proofs.Net.Endpoints
import MonitorFleet.Proofs.Collection.Starting
import MonitorFleet.Proofs.Session.Identity
import MonitorFleet.Proofs.Tunnel.Dialing
import MonitorFleet.Proofs.Tunnel.Serving
import MonitorFleet.Proofs.Session.SideBySide
import MonitorFleet.Proofs.SystemInfo.Unaddressed
import MonitorFleet.Proofs.Task.Questions
import MonitorFleet.Proofs.Task.Exhausting
import MonitorFleet.Proofs.Session.Configured
