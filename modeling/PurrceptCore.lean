import PurrceptCore.Composition.DrivenEffects
import PurrceptCore.Driver.Cancellation
import PurrceptCore.Driver.Endings
import PurrceptCore.Driver.Executors
import PurrceptCore.Driver.FlowRuns
import PurrceptCore.Driver.Lifecycle
import PurrceptCore.Driver.SafeSinks
import PurrceptCore.Driver.ScriptedExecutor
import PurrceptCore.Models.AppendOnlyRequests
import PurrceptCore.Models.BudgetAgreement
import PurrceptCore.Models.BusyFlag
import PurrceptCore.Models.Checkpoints
import PurrceptCore.Models.Conformance
import PurrceptCore.Models.DocumentationFormat
import PurrceptCore.Models.EncodedGraphs
import PurrceptCore.Models.FrozenHeaps
import PurrceptCore.Models.NumericBoundaries
import PurrceptCore.Models.Pairing
import PurrceptCore.Models.PartialRendering
import PurrceptCore.Models.PromptHashes
import PurrceptCore.Models.ReminderLife
import PurrceptCore.Models.ToolArguments
import PurrceptCore.Models.ToolFaults
import PurrceptCore.Models.TraceSecrecy
import PurrceptCore.Models.TurnFailures
import PurrceptCore.Models.TurnHistory
