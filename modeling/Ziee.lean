import Ziee.Library.PortProgram
import Ziee.Library.Prefixes
import Ziee.Library.RowOrder
import Ziee.Providers.Chat
import Ziee.Providers.Text
import Ziee.Agent.Types
import Ziee.Agent.Approval
import Ziee.Agent.Ports
import Ziee.Agent.Core
import Ziee.Agent.CoreRuns
import Ziee.Agent.LoopRuns
import Ziee.Agent.Appended
import Ziee.Agent.Answered
import Ziee.Agent.Suspension
import Ziee.Agent.Resume
import Ziee.Agent.ApprovalSafety
import Ziee.Agent.Pairing
import Ziee.Agent.CompactionStore
import Ziee.Agent.PromptInfluence
import Ziee.Agent.BudgetProtocol
import Ziee.Agent.ExecutionKeys
import Ziee.Library.TaskPool
import Ziee.Agent.Guard
import Ziee.Agent.FanOut
import Ziee.Agent.FanOutAccounts
import Ziee.Agent.Delegation
import Ziee.Workflow.RunStore
import Ziee.Workflow.TranscriptCodec
import Ziee.Workflow.AgentHost
import Ziee.Workflow.ChildIsolation
import Ziee.Workflow.RefCheck
import Ziee.Workflow.TypedRefs
import Ziee.Workflow.RenderRefs
import Ziee.Workflow.RefSoundness
import Ziee.Library.Threads
import Ziee.Library.Obligations
import Ziee.Library.Histories
import Ziee.Library.Watched
import Ziee.Workflow.RunControl
import Ziee.Workflow.RunStatus
import Ziee.Workflow.SingleRunner
import Ziee.Workflow.Cancellation
import Ziee.Workflow.StepTallies
import Ziee.Workflow.ResumeTallies
import Ziee.Workflow.BackgroundRuns
import Ziee.Workflow.SpawnGuard
import Ziee.Scheduler.Schedule
import Ziee.Scheduler.Store
import Ziee.Scheduler.Ports
import Ziee.Scheduler.Tick
import Ziee.Scheduler.Handlers
import Ziee.Scheduler.Asks
import Ziee.Scheduler.ArmedTasks
import Ziee.Scheduler.Requests
import Ziee.Scheduler.RowSteps
import Ziee.Scheduler.GoalVerdicts
import Ziee.Scheduler.ValidRows
import Ziee.Scheduler.ActiveQuota
import Ziee.Scheduler.TickRules
import Ziee.Scheduler.Dispatches
import Ziee.Scheduler.FiringRules
import Ziee.Scheduler.KeptEdits
import Ziee.Scheduler.FailureTally
import Ziee.Chat.GroupBlocks
import Ziee.Chat.StreamRegistry
import Ziee.Chat.RegistryIndex
import Ziee.Chat.GenerationSlots
import Ziee.Chat.StreamIsolation
import Ziee.Chat.StreamDelivery
import Ziee.Chat.BranchStore
import Ziee.Chat.ForkedBranches
import Ziee.Chat.HistoryWindows
import Ziee.Library.Utf8
import Ziee.Library.Framing
import Ziee.Providers.SseDriver
import Ziee.Providers.SseChunking
import Ziee.Chat.DeltaAccumulator
import Ziee.Chat.StoredBlocks
import Ziee.Chat.GenerationLoop
import Ziee.Chat.ErrorEnds
import Ziee.Chat.DeltaBlocks
import Ziee.Chat.ReasoningIndex
import Ziee.Agent.StreamedReply
import Ziee.Chat.GeminiParts
import Ziee.Providers.OpenAiMessages
import Ziee.Chat.ApprovalLadders
import Ziee.Chat.ApprovalRows
import Ziee.Chat.SeenApprovals
import Ziee.Control.SchemaInline
import Ziee.Control.SchemaPointers
import Ziee.Control.SelfContained
import Ziee.Library.Verdicts
import Ziee.Control.SchemaMeaning
import Ziee.Control.SchemaUnfolds
import Ziee.Control.SchemaMade
import Ziee.Control.SchemaBudgets
import Ziee.Hub.Extract
import Ziee.Hub.ExtractBounds
import Ziee.Hub.PackWorkspace
import Ziee.Chat.ScriptGate
import Ziee.Summary.SummaryBlock
import Ziee.Library.RelyGuarantee
import Ziee.Summary.RollingSummary
import Ziee.Rag.HeadIndex
import Ziee.Memory.CurrentEmbeddings
import Ziee.LocalRuntime.DrainSafety
import Ziee.LocalRuntime.CrashLoops
import Ziee.LocalRuntime.OneEngine
import Ziee.Library.Rewriting
import Ziee.Library.ByteSlices
import Ziee.Library.Grouping
import Ziee.Agent.Neutralized
import Ziee.Agent.CompactionOnce
import Ziee.Agent.CheapTiers
import Ziee.Agent.RiskReplies
import Ziee.Agent.FailsClosed
import Ziee.Mcp.AgentToolNames
import Ziee.Mcp.ConnectionBreaker
import Ziee.Files.AvailableFiles
import Ziee.Files.FileTools
import Ziee.Files.FileVersions
import Ziee.Mcp.ResourceLinks
import Ziee.Mcp.SavedLinks
import Ziee.Library.ShellWords
import Ziee.Library.Globs
import Ziee.Library.Repeats
import Ziee.Library.HighestRows
import Ziee.Library.MarkedPlaces
import Ziee.Workflow.ShellQuoting
import Ziee.Workflow.ArtifactGlob
import Ziee.Workflow.ElicitSlots
import Ziee.Workflow.MapItems
import Ziee.Workflow.MapAccounts
import Ziee.Workflow.AgentActivity
import Ziee.Workflow.ToolArguments
import Ziee.Chat.DuplicateResults
import Ziee.Chat.GroupedOrder
import Ziee.Chat.ClearedResults
import Ziee.Providers.ThinkingBudget
import Ziee.Providers.GeminiSchema
import Ziee.Library.WholeWords
import Ziee.Scheduler.GoalVerdicts
import Ziee.Library.JoinedLines
import Ziee.Sandbox.FileLines
import Ziee.Sandbox.LineSplices
import Ziee.Mcp.FreshResults
import Ziee.Mcp.ToolRouting
import Ziee.Library.Enumerations
import Ziee.Scheduler.ScheduleGaps
import Ziee.Library.KeyedMerge
import Ziee.Library.LetterCase
import Ziee.LitSearch.MergeByDoi
import Ziee.Library.LinkedTrees
import Ziee.Sandbox.WorkspacePaths
import Ziee.Control.SchemaBounds
import Ziee.Summary.SummaryPairs
import Ziee.Files.UniqueEdits
import Ziee.Memory.ExtractedArrays
import Ziee.Rag.PageCover
import Ziee.JsTool.Bindings
import Ziee.Memory.Reembedding
import Ziee.Citations.RisRecords
import Ziee.Citations.Identifiers
import Ziee.Citations.KeyContention
import Ziee.Git.LfsCache
