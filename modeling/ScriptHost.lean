import ScriptHost.Backend
import ScriptHost.Binder.Argument
import ScriptHost.Binder.ForeignBinding
import ScriptHost.Binder.ForeignClass
import ScriptHost.BinderRules
import ScriptHost.Call.CallContext
import ScriptHost.Call.CallProgram
import ScriptHost.Call.Keyring
import ScriptHost.Configuration
import ScriptHost.DirectSession
import ScriptHost.Document
import ScriptHost.Document.Journal
import ScriptHost.Document.Session
import ScriptHost.Engine
import ScriptHost.Engine.Api
import ScriptHost.Engine.Callbacks
import ScriptHost.Engine.ForeignCell
import ScriptHost.Engine.Guarded
import ScriptHost.ErrorBridge
import ScriptHost.Exposure
import ScriptHost.Exposure.Attributes
import ScriptHost.Exposure.Block
import ScriptHost.Exposure.Generated
import ScriptHost.ForeignRegistry
import ScriptHost.HandleRegistry
import ScriptHost.Host
import ScriptHost.HostError
import ScriptHost.HostObject
import ScriptHost.HostState
import ScriptHost.HostValue
import ScriptHost.InMemory.Liveness
import ScriptHost.InMemory.Machine
import ScriptHost.InMemory.Request
import ScriptHost.InMemory.Script
import ScriptHost.Inspection
import ScriptHost.Journal
import ScriptHost.Kinds
import ScriptHost.LinkDirectives
import ScriptHost.Marshal
import ScriptHost.Marshal.Dynamic
import ScriptHost.Number
import ScriptHost.Number.Shortest
import ScriptHost.ObjectHeap
import ScriptHost.ObjectStore
import ScriptHost.Proofs.Allocation
import ScriptHost.Proofs.ArgumentAgreement
import ScriptHost.Proofs.BindingTable
import ScriptHost.Proofs.CallEffect
import ScriptHost.Proofs.CallHandles
import ScriptHost.Proofs.CallSafety
import ScriptHost.Proofs.Callbacks
import ScriptHost.Proofs.CapturedErrors
import ScriptHost.Proofs.CaseMappings
import ScriptHost.Proofs.CheckedAccess
import ScriptHost.Proofs.ConstructorChoice
import ScriptHost.Proofs.ContainedPanics
import ScriptHost.Proofs.DeclaredClasses
import ScriptHost.Proofs.Dispatch
import ScriptHost.Proofs.DispatchTargets
import ScriptHost.Proofs.Disposal
import ScriptHost.Proofs.DuringRuns
import ScriptHost.Proofs.EngineAborts
import ScriptHost.Proofs.EngineCalls
import ScriptHost.Proofs.EntryTables
import ScriptHost.Proofs.ErrorReports
import ScriptHost.Proofs.ExposedFunctions
import ScriptHost.Proofs.FinalizerLedger
import ScriptHost.Proofs.FinalizerLifetime
import ScriptHost.Proofs.FinalizerWatch
import ScriptHost.Proofs.Finalizers
import ScriptHost.Proofs.ForeignStorage
import ScriptHost.Proofs.GeneratedCalls
import ScriptHost.Proofs.GuardAgreement
import ScriptHost.Proofs.GuardedWindow
import ScriptHost.Proofs.HandleAccounts
import ScriptHost.Proofs.HandleBalance
import ScriptHost.Proofs.HandleLedger
import ScriptHost.Proofs.HandleLives
import ScriptHost.Proofs.HandleWrites
import ScriptHost.Proofs.HeapBook
import ScriptHost.Proofs.HeapPlaces
import ScriptHost.Proofs.HeapSoundness
import ScriptHost.Proofs.HostFunctions
import ScriptHost.Proofs.HostInvariant
import ScriptHost.Proofs.InstanceLifetime
import ScriptHost.Proofs.InstanceOwnership
import ScriptHost.Proofs.IntegerRoundTrip
import ScriptHost.Proofs.LawfulSlots
import ScriptHost.Proofs.Lifetime
import ScriptHost.Proofs.MethodNames
import ScriptHost.Proofs.NumberValues
import ScriptHost.Proofs.ObjectsInUse
import ScriptHost.Proofs.OperationAccounts
import ScriptHost.Proofs.OperationEquations
import ScriptHost.Proofs.OperationInvariant
import ScriptHost.Proofs.OperationLaws
import ScriptHost.Proofs.OutsideWindow
import ScriptHost.Proofs.Overhearing
import ScriptHost.Proofs.OwnHandles
import ScriptHost.Proofs.Ownership
import ScriptHost.Proofs.PanickingFunctions
import ScriptHost.Proofs.PendingAborts
import ScriptHost.Proofs.PinnedHandles
import ScriptHost.Proofs.Reachability
import ScriptHost.Proofs.Refusals
import ScriptHost.Proofs.RegisteredObjects
import ScriptHost.Proofs.RegistryRuns
import ScriptHost.Proofs.Resumption
import ScriptHost.Proofs.RoundedIntegers
import ScriptHost.Proofs.RunAgreement
import ScriptHost.Proofs.RunLaws
import ScriptHost.Proofs.ScriptInvariant
import ScriptHost.Proofs.ScriptNames
import ScriptHost.Proofs.ScriptSimulation
import ScriptHost.Proofs.SeparateMachines
import ScriptHost.Proofs.SharedLists
import ScriptHost.Proofs.SignatureArity
import ScriptHost.Proofs.SlotRoundTrip
import ScriptHost.Proofs.SlotWrites
import ScriptHost.Proofs.TextRoundTrip
import ScriptHost.Proofs.UnseenChanges
import ScriptHost.Proofs.WindowFrame
import ScriptHost.RecordingHost
import ScriptHost.References
import ScriptHost.Samples
import ScriptHost.Samples.Calculator
import ScriptHost.Samples.Counter
import ScriptHost.Samples.File
import ScriptHost.Samples.Vector
import ScriptHost.Scripted.Machine
import ScriptHost.Scripted.Run
import ScriptHost.Session
import ScriptHost.Signature
import ScriptHost.Slots
import ScriptHost.Text.Case
import ScriptHost.Text.CaseTable
import ScriptHost.Text.Lines
import ScriptHost.Text.Quoted
import ScriptHost.Text.Unprintable
import ScriptHost.Text.Utf8
import ScriptHost.VirtualMachine
import ScriptHost.WindowStep
