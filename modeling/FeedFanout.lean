import FeedFanout.Database.Options
import FeedFanout.Main
import FeedFanout.Simulation.Session
import FeedFanout.Domain.Ipv4
import FeedFanout.Domain.Name
import FeedFanout.Proofs.Agreement
import FeedFanout.Proofs.Calm
import FeedFanout.Proofs.History
import FeedFanout.Proofs.Shown
import FeedFanout.Proofs.Report
import FeedFanout.Proofs.Missing
import FeedFanout.Proofs.Together
import FeedFanout.Proofs.Channels
import FeedFanout.Proofs.Topics
import FeedFanout.Proofs.Viewers
import FeedFanout.Proofs.Accounts
import FeedFanout.Proofs.Errands
import FeedFanout.Proofs.Responses
import FeedFanout.Proofs.Scenes
import FeedFanout.Proofs.Copies
import FeedFanout.Proofs.Halves
import FeedFanout.Proofs.Leafing
import FeedFanout.Proofs.Courses
import FeedFanout.Proofs.Omissions
import FeedFanout.Proofs.Openings
import FeedFanout.Proofs.Outcomes
import FeedFanout.Proofs.Trials
import FeedFanout.Proofs.Refusals
import FeedFanout.Proofs.Provenance
import FeedFanout.Proofs.Precedence
import FeedFanout.Proofs.Effects
import FeedFanout.Proofs.Truncation
import FeedFanout.Proofs.Degrading
import FeedFanout.Proofs.Chronicles
import FeedFanout.Proofs.Ledger
import FeedFanout.Proofs.Pools
import FeedFanout.Proofs.Lifetimes
import FeedFanout.Proofs.Documents
import FeedFanout.Proofs.Verdicts
import FeedFanout.Proofs.Watching
import FeedFanout.Proofs.Discretion
import FeedFanout.Proofs.Acquaintances
import FeedFanout.Proofs.Appending
import FeedFanout.Proofs.Identities
