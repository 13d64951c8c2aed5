import VoterSession.Bytes
import VoterSession.Config.Client
import VoterSession.Config.Disk
import VoterSession.Config.Error
import VoterSession.Config.File
import VoterSession.Config.Open
import VoterSession.Config.Server
import VoterSession.Config.Setting
import VoterSession.Config.Variable
import VoterSession.Duration
import VoterSession.Network.Address
import VoterSession.Network.Uri
import VoterSession.Scenario.Fault
import VoterSession.Scenario.Run
import VoterSession.Scenario.Script
import VoterSession.Scenario.Step
import VoterSession.Scenario.Timed
import VoterSession.Scenario.World
import VoterSession.Service.Client
import VoterSession.Service.Shutdown
import VoterSession.Service.Status
import VoterSession.Service.Verifier
import VoterSession.Service.Window
import VoterSession.Session.Auth
import VoterSession.Session.Header
import VoterSession.Session.Id
import VoterSession.Session.Lease
import VoterSession.Session.Method
import VoterSession.Session.Record
import VoterSession.Session.Request
import VoterSession.Store.Basic
import VoterSession.Store.Memory
import VoterSession.Store.RecordText
import VoterSession.Store.Retry
import VoterSession.Store.Sessions
import VoterSession.Text.Base64
import VoterSession.Text.Blank
import VoterSession.Text.Character
import VoterSession.Text.Decimal
import VoterSession.Text.Json
import VoterSession.Text.Quoted
import VoterSession.Text.Separated
import VoterSession.Text.Visible
import VoterSession.Violation
import VoterSession.Wire.Conversion
import VoterSession.Wire.Draft
import VoterSession.Wire.Field
import VoterSession.Wire.Message
import VoterSession.Wire.Remote
import VoterSession.Wire.Status
import VoterSession.Wire.Varint
import VoterSession.Workflow.Stage
import VoterSession.Workflow.Table
import VoterSession.Workflow.Transition
import VoterSession.Proofs.Store.Holding
import VoterSession.Proofs.Store.Operation
import VoterSession.Proofs.Store.Step
import VoterSession.Proofs.Store.RecordText
import VoterSession.Proofs.Store.Book
import VoterSession.Proofs.Store.Refinement
import VoterSession.Proofs.Service.Moment
import VoterSession.Proofs.Service.Call
import VoterSession.Proofs.Concurrent.System
import VoterSession.Proofs.Concurrent.Move
import VoterSession.Proofs.Concurrent.Chronicle
import VoterSession.Proofs.Concurrent.Ledger
import VoterSession.Proofs.Concurrent.NoSkip
import VoterSession.Proofs.Concurrent.Fencing
import VoterSession.Proofs.Concurrent.Removal
import VoterSession.Proofs.Concurrent.Lifetime
import VoterSession.Proofs.Concurrent.Renaming
import VoterSession.Proofs.Concurrent.Twins
import VoterSession.Proofs.Concurrent.Apart
import VoterSession.Proofs.Sequential.Visit
import VoterSession.Proofs.Workflow.Word
import VoterSession.Proofs.Sequential.Lifecycle
import VoterSession.Proofs.Sequential.Language
import VoterSession.Proofs.Session.Lease
import VoterSession.Proofs.Scenario.Triple
import VoterSession.Proofs.Scenario.Attempt
import VoterSession.Proofs.Wire.Conversion
import VoterSession.Proofs.Wire.Crossing
import VoterSession.Proofs.Wire.Seam
import VoterSession.Proofs.Scenario.Repetition
import VoterSession.Proofs.Store.Representation
import VoterSession.Proofs.Scenario.Calls
import VoterSession.Proofs.Scenario.Bench
import VoterSession.Proofs.Scenario.AllOrNothing
import VoterSession.Proofs.Concurrent.Ballots
import VoterSession.Proofs.Store.Issue
import VoterSession.Proofs.Store.Neighbours
import VoterSession.Proofs.Store.Beside
import VoterSession.Proofs.Scenario.Passage
import VoterSession.Proofs.Scenario.LostAnswers
import VoterSession.Proofs.Service.Trace
import VoterSession.Proofs.Text.Blank
import VoterSession.Proofs.Text.Separated
import VoterSession.Proofs.Session.Spelling
import VoterSession.Proofs.Session.Grammar
import VoterSession.Proofs.Session.Header
import VoterSession.Proofs.Wire.Canonical
import VoterSession.Proofs.Wire.Boundary
import VoterSession.Proofs.Scenario.Corruption
import VoterSession.Proofs.Config.Setting
import VoterSession.Proofs.Config.Builder
import VoterSession.Proofs.Config.Number
import VoterSession.Proofs.Config.File
import VoterSession.Proofs.Config.Scheme
import VoterSession.Proofs.Scenario.Interleaving
import VoterSession.Proofs.Scenario.WellFormed
import VoterSession.Proofs.Scenario.Polling
