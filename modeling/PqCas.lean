import PqCas.Lib.Prog
import PqCas.Lib.Text
import PqCas.Lib.Hex
import PqCas.Lib.Fallible
import PqCas.Lib.Json
import PqCas.Lib.Serde
import PqCas.Lib.Codec
import PqCas.Lib.Utf8
import PqCas.Lib.Table
import PqCas.Lib.Stream
import PqCas.Lib.Ledger
import PqCas.Lib.Grid
import PqCas.Lib.PubSub
import PqCas.Lib.Among
import PqCas.Lib.Search
import PqCas.Lib.Scan
import PqCas.Lib.Excerpt
import PqCas.Lib.Http
import PqCas.Lib.Neighbours
import PqCas.Lib.Keyed
import PqCas.Lib.Preference
import PqCas.Lib.Picks
import PqCas.Lib.SortedMap
import PqCas.Domain.Status
import PqCas.Domain.Proto
import PqCas.Domain.Wire
import PqCas.Domain.Contract
import PqCas.Domain.Jobs
import PqCas.Domain.Payload
import PqCas.Store.Tables
import PqCas.Store.Statements
import PqCas.Worker.Effect
import PqCas.Worker.Adapters
import PqCas.Worker.Config
import PqCas.Worker.Probe
import PqCas.Worker.Verdict
import PqCas.Worker.Announced
import PqCas.Kem.Order
import PqCas.Kem.Console
import PqCas.Kem.Modes
import PqCas.Kem.Rounds
import PqCas.Kem.Logic
import PqCas.Kem.Lines
import PqCas.Kem.Redelivery
import PqCas.Kem.Server
import PqCas.Kem.Priority
import PqCas.Worker.Tick
import PqCas.Worker.Recorded
import PqCas.Worker.Protocol
import PqCas.Worker.System
import PqCas.Worker.CloseOut
import PqCas.Worker.Coherent
import PqCas.Worker.Lifecycle
import PqCas.Worker.Outstanding
import PqCas.Worker.Reclaimed
import PqCas.Worker.Consumer
import PqCas.Worker.Loop
import PqCas.Worker.Accounted
import PqCas.Worker.Live
import PqCas.Worker.ClosedOnce
import PqCas.Api.Error
import PqCas.Api.Tests
import PqCas.Api.Matrix
import PqCas.Api.Subtasks
import PqCas.Api.Handover
import PqCas.Api.KemRuns
import PqCas.Api.Work
import PqCas.Kem.Journal
import PqCas.Kem.Recovery
import PqCas.Kem.Fairness
import PqCas.Web.TestMatrix
import PqCas.Web.KemRunner
import PqCas.Cli.Backend
import PqCas.Cli.Parse
import PqCas.Cli.Offered
import PqCas.Cli.Forged
import PqCas.Cli.Printed
import PqCas.Cli.Vocabulary
import PqCas.Cli.Transcript
import PqCas.Cli.Chain
import PqCas.Cli.Report
import PqCas.Cli.Server
import PqCas.Worker.Remote
import PqCas.Go.Groups
import PqCas.Go.Wire
import PqCas.Go.Http
import PqCas.Go.Probe
import PqCas.Go.Mirror
import PqCas.Go.Reports
import PqCas.Go.Strings
import PqCas.Go.Response
import PqCas.Cavp.Validate
import PqCas.Cavp.Gate
import PqCas.Cavp.Bytes
import PqCas.Cavp.Arrangement
import PqCas.Cavp.Generator
import PqCas.Cavp.Packs
import PqCas.Cavp.Sessions
import PqCas.Cavp.Readback
import PqCas.Cavp.Student
import PqCas.Cavp.Workbench
import PqCas.Cavp.Computed
import PqCas.Cavp.Honest
import PqCas.Worker.ReportStatus
import PqCas.Worker.OneRequest
import PqCas.Api.Seed
import PqCas.Api.Catalog
import PqCas.Web.NewTestForm
import PqCas.Web.KemForm
