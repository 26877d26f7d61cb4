import CatchmentPlanning.Powers
import CatchmentPlanning.Text.Blank
import CatchmentPlanning.Text.Numeral
import CatchmentPlanning.Text.Percent
import CatchmentPlanning.Decimal.Basic
import CatchmentPlanning.Decimal.Shortest
import CatchmentPlanning.Decimal.Layout
import CatchmentPlanning.Decimal.Reading
import CatchmentPlanning.Decimal.Scaling
import CatchmentPlanning.Text.Named
import CatchmentPlanning.Json.Basic
import CatchmentPlanning.Json.Printer
import CatchmentPlanning.Json.Reader
import CatchmentPlanning.Text.Pieces
import CatchmentPlanning.Token
import CatchmentPlanning.Toml.Basic
import CatchmentPlanning.Toml.Lexical
import CatchmentPlanning.Toml.Moment
import CatchmentPlanning.Toml.Document
import CatchmentPlanning.Problems
import CatchmentPlanning.Attributes
import CatchmentPlanning.Catchment
import CatchmentPlanning.Plan.Basic
import CatchmentPlanning.Plan.Solution
import CatchmentPlanning.Toml.Section
import CatchmentPlanning.Scenario.Basic
import CatchmentPlanning.Scenario.Interpretation
import CatchmentPlanning.Sheet
import CatchmentPlanning.Front
import CatchmentPlanning.Roster
import CatchmentPlanning.Gallery
import CatchmentPlanning.Exploration
import CatchmentPlanning.Random.Keystream
import CatchmentPlanning.Random.Draw
import CatchmentPlanning.Annealing
import CatchmentPlanning.Job.Identifier
import CatchmentPlanning.Job.Basic
import CatchmentPlanning.Job.History
import CatchmentPlanning.Job.Queue
import CatchmentPlanning.Job.Worker
import CatchmentPlanning.Service
import CatchmentPlanning.Api.Message
import CatchmentPlanning.Api.Refusal
import CatchmentPlanning.Api.View
import CatchmentPlanning.Api.ActionTable
import CatchmentPlanning.Api.UnitUpdate
import CatchmentPlanning.Api.Endpoint
import CatchmentPlanning.Api.Exploring
import CatchmentPlanning.Api.Application
import CatchmentPlanning.Annealing.Seeded
import CatchmentPlanning.Startup.Arguments
import CatchmentPlanning.Startup.Settings
import CatchmentPlanning.Startup.Preload
import CatchmentPlanning.Api.Wire
import CatchmentPlanning.Main
import CatchmentPlanning.Proofs.Checks
import CatchmentPlanning.Proofs.Token.Numeral
import CatchmentPlanning.Proofs.Token.Words
import CatchmentPlanning.Proofs.Token.Exactness
import CatchmentPlanning.Proofs.Token.Separation
import CatchmentPlanning.Proofs.Steps
import CatchmentPlanning.Proofs.Exploration.Moves
import CatchmentPlanning.Proofs.Api.Handling
import CatchmentPlanning.Proofs.Api.Effects
import CatchmentPlanning.Proofs.Exploration.Coherence
import CatchmentPlanning.Proofs.Api.Runs
import CatchmentPlanning.Proofs.Trace
import CatchmentPlanning.Proofs.Job.Desk
import CatchmentPlanning.Proofs.Job.History
import CatchmentPlanning.Proofs.Job.Interleaving
import CatchmentPlanning.Proofs.Job.Custody
import CatchmentPlanning.Proofs.Job.Ledger
import CatchmentPlanning.Proofs.Front
import CatchmentPlanning.Proofs.Api.Solutions
import CatchmentPlanning.Proofs.Job.LifeCycle
import CatchmentPlanning.Proofs.Job.Dispatch
import CatchmentPlanning.Proofs.Job.WindingDown
import CatchmentPlanning.Proofs.Front.Membership
import CatchmentPlanning.Proofs.Front.Violations
import CatchmentPlanning.Proofs.Front.Acceptance
import CatchmentPlanning.Proofs.Front.Reports
import CatchmentPlanning.Proofs.Api.SinceLoading
import CatchmentPlanning.Proofs.Api.Instantiation
import CatchmentPlanning.Proofs.Api.ClientMembership
import CatchmentPlanning.Proofs.Scenario.Declarations
import CatchmentPlanning.Proofs.Scenario.Violations
import CatchmentPlanning.Proofs.Scenario.WellFormed
import CatchmentPlanning.Proofs.Sheet.Writing
import CatchmentPlanning.Proofs.Text.Numeral
import CatchmentPlanning.Proofs.ActionTable
import CatchmentPlanning.Proofs.ActionTable.Cells
import CatchmentPlanning.Proofs.Api.FullTable
import CatchmentPlanning.Proofs.Plan.Edits
import CatchmentPlanning.Proofs.Exploration.Edits
import CatchmentPlanning.Proofs.Attributes
import CatchmentPlanning.Proofs.UnitUpdate
import CatchmentPlanning.Proofs.Api.UnitRequests
import CatchmentPlanning.Proofs.Api.Editing
import CatchmentPlanning.Proofs.Api.UnseenGallery
import CatchmentPlanning.Proofs.Api.Invisibility
import CatchmentPlanning.Proofs.Json.Numbers
import CatchmentPlanning.Proofs.Json.Values
import CatchmentPlanning.Proofs.Json.Printing
import CatchmentPlanning.Proofs.Json.RoundTrip
import CatchmentPlanning.Proofs.Attributes.Stored
import CatchmentPlanning.Proofs.Api.Changes
import CatchmentPlanning.Proofs.Api.Restoring
import CatchmentPlanning.Proofs.Decimal.Floats
import CatchmentPlanning.Proofs.Decimal.Rounding
import CatchmentPlanning.Proofs.Decimal.Shortest
import CatchmentPlanning.Proofs.Decimal.Layout
import CatchmentPlanning.Proofs.Front.OwnRow
import CatchmentPlanning.Proofs.Exploration.OwnFront
import CatchmentPlanning.Proofs.Decimal.Comparison
import CatchmentPlanning.Proofs.Decimal.Packing
import CatchmentPlanning.Proofs.Decimal.Arithmetic
import CatchmentPlanning.Proofs.Annealing.Walk
import CatchmentPlanning.Proofs.Annealing.Certificate
import CatchmentPlanning.Proofs.Annealing.Infeasibility
import CatchmentPlanning.Proofs.Annealing.Minimum
import CatchmentPlanning.Proofs.Job.Sightings
import CatchmentPlanning.Proofs.Plan.Sides
import CatchmentPlanning.Proofs.Api.AsIsViews
import CatchmentPlanning.Proofs.Exploration.Consistency
import CatchmentPlanning.Proofs.Roster.Variants
import CatchmentPlanning.Proofs.Token.BinaryNumber
import CatchmentPlanning.Proofs.Token.Faults
import CatchmentPlanning.Proofs.Api.UnitUpdating
import CatchmentPlanning.Proofs.Job.Bookkeeping
import CatchmentPlanning.Proofs.Attributes.Insertion
import CatchmentPlanning.Proofs.Plan.Refreshing
