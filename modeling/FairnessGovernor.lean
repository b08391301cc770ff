import FairnessGovernor.Core.Types
import FairnessGovernor.Core.U128
import FairnessGovernor.Core.Checked
import FairnessGovernor.Core.Bytes
import FairnessGovernor.Lib.LittleEndian
import FairnessGovernor.Lib.Apportion
import FairnessGovernor.Lib.Forest
import FairnessGovernor.Lib.Program
import FairnessGovernor.Lib.Runs
import FairnessGovernor.Lib.Sorting
import FairnessGovernor.Lib.LargestRemainder
import FairnessGovernor.Lib.Retention
import FairnessGovernor.Lib.Segments
import FairnessGovernor.Lib.Refinement
import FairnessGovernor.Model.Policy
import FairnessGovernor.Model.Evidence
import FairnessGovernor.Model.Accounting
import FairnessGovernor.Model.Outcome
import FairnessGovernor.Eval.Allocate
import FairnessGovernor.Eval.AllocateSpec
import FairnessGovernor.Eval.Distributor
import FairnessGovernor.Eval.TreeSpec
import FairnessGovernor.Eval.Conservation
import FairnessGovernor.Eval.Plan
import FairnessGovernor.Eval.Engine
import FairnessGovernor.Eval.PlanSpec
import FairnessGovernor.Eval.CorrectionSpec
import FairnessGovernor.Eval.EngineSpec
import FairnessGovernor.Eval.Redistribution
import FairnessGovernor.Eval.Bounds
import FairnessGovernor.Persist.Codec
import FairnessGovernor.Persist.CodecSpec
import FairnessGovernor.Eval.Overflow
import FairnessGovernor.Eval.CorrectivePlan
import FairnessGovernor.Eval.Absence
import FairnessGovernor.Eval.Demand
import FairnessGovernor.Eval.PartialAuthority
import FairnessGovernor.Eval.ProtectedGroups
import FairnessGovernor.Eval.Renaming
import FairnessGovernor.Eval.Reordering
import FairnessGovernor.Eval.DeclarationOrder
import FairnessGovernor.Eval.Allotment
import FairnessGovernor.Eval.Overcommit
import FairnessGovernor.Eval.Reference
import FairnessGovernor.Eval.RaisedWeight
import FairnessGovernor.Eval.Floors
import FairnessGovernor.Eval.Unfloored
import FairnessGovernor.Eval.Unenforced
import FairnessGovernor.Eval.Nesting
import FairnessGovernor.Eval.Priority
import FairnessGovernor.Eval.Netting
import FairnessGovernor.Eval.Blocking
import FairnessGovernor.Persist.FileSystem
import FairnessGovernor.Persist.Store
import FairnessGovernor.Persist.StoreSpec
import FairnessGovernor.Persist.FileTriples
import FairnessGovernor.Persist.CrashSafety
import FairnessGovernor.Persist.Histories
import FairnessGovernor.Persist.Records
import FairnessGovernor.Governor.State
import FairnessGovernor.Governor.Commit
import FairnessGovernor.Governor.Operations
import FairnessGovernor.Governor.Step
import FairnessGovernor.Governor.CommitSpec
import FairnessGovernor.Governor.Sample
import FairnessGovernor.Governor.Serialized
import FairnessGovernor.Governor.Absence
import FairnessGovernor.Governor.Opening
import FairnessGovernor.Governor.Sound
import FairnessGovernor.Governor.Administration
import FairnessGovernor.Governor.Fencing
import FairnessGovernor.Governor.BoundedMaps
import FairnessGovernor.Governor.Intake
import FairnessGovernor.Governor.Reingestion
import FairnessGovernor.Governor.Contradiction
import FairnessGovernor.Governor.Sequences
import FairnessGovernor.Governor.Preview
import FairnessGovernor.Governor.BurnedWindow
import FairnessGovernor.Governor.Superseded
import FairnessGovernor.Governor.Effect
import FairnessGovernor.Governor.Committed
import FairnessGovernor.Governor.Starvation
import FairnessGovernor.Governor.Closure
import FairnessGovernor.Governor.Moves
import FairnessGovernor.Governor.Site
import FairnessGovernor.Governor.DurablePolicy
import FairnessGovernor.Governor.DurableEpoch
import FairnessGovernor.Governor.ReportedStreaks
import FairnessGovernor.Governor.Cooldown
import FairnessGovernor.Governor.Population
import FairnessGovernor.Governor.Regained
import FairnessGovernor.Governor.Carry
import FairnessGovernor.Persist.Reliable
import FairnessGovernor.Governor.Reopening
import FairnessGovernor.Governor.Restart
import FairnessGovernor.Persist.RoundTrips
import FairnessGovernor.Persist.Canonical
import FairnessGovernor.Persist.RecordImage
import FairnessGovernor.Governor.Ledger
import FairnessGovernor.Governor.Lineage
import FairnessGovernor.Persist.Posix
import FairnessGovernor.Persist.PosixSpec
import FairnessGovernor.Persist.PosixStore
import FairnessGovernor.Governor.SystemCalls
import FairnessGovernor.Link.FrameSpec
import FairnessGovernor.Link.Corruption
import FairnessGovernor.Link.ServerSpec
import FairnessGovernor.Link.Identities
import FairnessGovernor.Link.Overtaken
import FairnessGovernor.Link.Socket
import FairnessGovernor.Link.Messages
import FairnessGovernor.Link.Client
import FairnessGovernor.Link.Conversation
import FairnessGovernor.Link.Submissions
import FairnessGovernor.Link.Lifecycle
import FairnessGovernor.Link.Threads
import FairnessGovernor.Link.Budget
import FairnessGovernor.Scenario.Numbers
import FairnessGovernor.Scenario.Lines
import FairnessGovernor.Scenario.Attributes
import FairnessGovernor.Scenario.Parse
import FairnessGovernor.Scenario.ParseSpec
import FairnessGovernor.Scenario.Strict
import FairnessGovernor.Lib.Rendering
import FairnessGovernor.Eval.Explain
import FairnessGovernor.Eval.ExplainSpec
import FairnessGovernor.Governor.InMemory
