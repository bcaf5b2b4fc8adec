import LlmHarness.DurableIo
import LlmHarness.State.Schedule
import LlmHarness.State.Journal
import LlmHarness.State.Review
import LlmHarness.State.Fencing
import LlmHarness.Rollback.Concurrency
import LlmHarness.Git.Repository
import LlmHarness.Verifier.PatchScan
import LlmHarness.Review.Schemas
import LlmHarness.Review.Reimport
import LlmHarness.Review.Reviewable
import LlmHarness.State.ClaimBatch
import LlmHarness.State.Downstream
import LlmHarness.State.EnqueueBatch
import LlmHarness.State.AttemptBudget
import LlmHarness.Review.ImportFailure
import LlmHarness.Operator.Polling
import LlmHarness.Verifier.ScopeNames
import LlmHarness.Operations.SelfValid
import LlmHarness.Rollback.Canonical
import LlmHarness.Review.FinalHandoff
import LlmHarness.Operator.ReadyBatch
import LlmHarness.Supervisor.Coherence
import LlmHarness.Lifecycle.PlanAgreement
import LlmHarness.State.Codec
import LlmHarness.A2A.PushInbox
import LlmHarness.A2A.RemotePatch
import LlmHarness.Verifier.FailClosed
import LlmHarness.Verifier.CommandPolicy
import LlmHarness.Verifier.ReadExactly
import LlmHarness.Updater.Pointer
import LlmHarness.Updater.Precedence
import LlmHarness.Coordination.StaleOwner
import LlmHarness.Supervisor.ChatTurns
import LlmHarness.Workspace.DueTimes
import LlmHarness.Acp.TurnSafety
import LlmHarness.Lib.Greatest
import LlmHarness.Python.FloatNumber
import LlmHarness.Metrics.Reports
import LlmHarness.Metrics.UsageLaw
import LlmHarness.Models.Totality
import LlmHarness.Audit.ImportSoundness
import LlmHarness.Coordination.MutualExclusion
import LlmHarness.Config.WriteLoad
import LlmHarness.Journal.Interaction
import LlmHarness.Acp.Credentials
import LlmHarness.Operations.CrashRestore
