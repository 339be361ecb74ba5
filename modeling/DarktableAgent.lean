import DarktableAgent.Foundation.Framing
import DarktableAgent.Foundation.Json
import DarktableAgent.Stream.Sse
import DarktableAgent.Protocol.CanonicalPlan
import DarktableAgent.Protocol.Plan
import DarktableAgent.Protocol.Request
import DarktableAgent.Protocol.Response
import DarktableAgent.Server.ChatStream
import DarktableAgent.Protocol.Parse
import DarktableAgent.Protocol.Agreement
import DarktableAgent.Protocol.Narrowing
import DarktableAgent.Client.Catalog
import DarktableAgent.Foundation.Dict
import DarktableAgent.Foundation.SelectedSort
import DarktableAgent.Server.Settings
import DarktableAgent.Server.Schema
import DarktableAgent.Foundation.FreshName
import DarktableAgent.Server.CanonicalBinder
import DarktableAgent.Foundation.Runs
import DarktableAgent.Server.ApplyBatch
import DarktableAgent.Server.Operations
import DarktableAgent.Server.ToolRouting
import DarktableAgent.Server.RequestState
import DarktableAgent.Client.Execute
import DarktableAgent.Client.Atomicity
import DarktableAgent.Client.ImageState
import DarktableAgent.Foundation.KeyedFold
import DarktableAgent.Refinement.Orders
import DarktableAgent.Refinement.Cells
import DarktableAgent.Refinement.Simulation
import DarktableAgent.Refinement.Reported
import DarktableAgent.Chat.Panel
import DarktableAgent.Chat.Handlers
import DarktableAgent.Chat.MainLoop
import DarktableAgent.Chat.Core
import DarktableAgent.Chat.Wiring
import DarktableAgent.Chat.Confinement
import DarktableAgent.Chat.Cancellation
import DarktableAgent.Chat.Staleness
import DarktableAgent.Server.Turn
import DarktableAgent.Server.Ledger
import DarktableAgent.Chat.Serving
import DarktableAgent.Live.ExactlyOnce
import DarktableAgent.Foundation.Unwinding
import DarktableAgent.Server.Exchange
import DarktableAgent.Server.Registry
import DarktableAgent.Server.ArrivalOrder
import DarktableAgent.Live.Passes
import DarktableAgent.Server.Conversations
import DarktableAgent.Live.Handshake
import DarktableAgent.Live.Renders
import DarktableAgent.Chat.Tags
import DarktableAgent.Chat.Filing
import DarktableAgent.Chat.Belonging
import DarktableAgent.Chat.Isolation
import DarktableAgent.Chat.Loading
import DarktableAgent.Client.Collect
import DarktableAgent.Client.Identifiers
import DarktableAgent.Client.Descriptors
import DarktableAgent.Client.ChatRequest
import DarktableAgent.Server.Envelope
import DarktableAgent.Refinement.Accepted
import DarktableAgent.Foundation.StableSort
import DarktableAgent.Refinement.Reordering
import DarktableAgent.Server.Checkpoints
import DarktableAgent.Server.ControlSearch
import DarktableAgent.Server.ControlBindings
import DarktableAgent.Server.CropBox
import DarktableAgent.Server.Channels
import DarktableAgent.Server.Accumulation
import DarktableAgent.Server.Guardrails
import DarktableAgent.Server.Renumbering
import DarktableAgent.Client.SettingIds
import DarktableAgent.Server.Addressing
import DarktableAgent.Client.Report
import DarktableAgent.Server.Transport
import DarktableAgent.Client.ColorZonesWrites
import DarktableAgent.Server.Evaluation
import DarktableAgent.Server.VerifierDeltas
import DarktableAgent.Server.TonalSignals
import DarktableAgent.Refinement.CurrentEdit
import DarktableAgent.Foundation.Cuts
import DarktableAgent.Server.HistogramPayload
import DarktableAgent.Foundation.Proportion
import DarktableAgent.Client.RgbLevels
import DarktableAgent.Foundation.JsonPaths
import DarktableAgent.Server.OutputSchema
import DarktableAgent.Foundation.StringHeap
import DarktableAgent.Client.RequestMemory
import DarktableAgent.Client.RequestCopy
import DarktableAgent.Client.BuiltRequest
import DarktableAgent.Chat.Job
import DarktableAgent.Protocol.WellFormed
import DarktableAgent.Protocol.ErrorAgreement
import DarktableAgent.Live.Delivery
import DarktableAgent.Chat.Content
import DarktableAgent.Server.Replay
import DarktableAgent.Live.Settled
import DarktableAgent.Foundation.RefCount
import DarktableAgent.Chat.ClientMemory
import DarktableAgent.Chat.MemorySafety
import DarktableAgent.Live.CancelAgreement
import DarktableAgent.Server.ConversationMemory
import DarktableAgent.Server.Answers
