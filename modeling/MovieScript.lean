import MovieScript.Act.Activation
import MovieScript.Act.Basic
import MovieScript.Act.Call
import MovieScript.Act.Exchange
import MovieScript.Act.Tick
import MovieScript.Act.Variable
import MovieScript.Callable
import MovieScript.Classes.Bootstrap
import MovieScript.Classes.Builtin
import MovieScript.Classes.Display
import MovieScript.Classes.Invoking
import MovieScript.Classes.Primitive
import MovieScript.Classes.Receiver
import MovieScript.Classes.Sequence
import MovieScript.Configuration
import MovieScript.Decimal.Nearest
import MovieScript.Decimal.Reading
import MovieScript.Decimal.Shortest
import MovieScript.Definition
import MovieScript.Dictionary
import MovieScript.Document
import MovieScript.ElementName
import MovieScript.Fault
import MovieScript.Frame
import MovieScript.Heap.Arena
import MovieScript.Heap.Collection
import MovieScript.Heap.Handle
import MovieScript.Heap.MarkBits
import MovieScript.Host.Engine
import MovieScript.Host.Instruction
import MovieScript.Host.Program
import MovieScript.Host.Request
import MovieScript.Interval
import MovieScript.Json
import MovieScript.Machine.Conversion
import MovieScript.Machine.Member
import MovieScript.Machine.State
import MovieScript.Machine.Visibility
import MovieScript.MovieAddress
import MovieScript.Numeral
import MovieScript.Object
import MovieScript.Path
import MovieScript.Preload
import MovieScript.Proofs.ActCongruence
import MovieScript.Proofs.ActStability
import MovieScript.Proofs.BalancedEntries
import MovieScript.Proofs.CollectionFrame
import MovieScript.Proofs.DocumentExchange
import MovieScript.Proofs.DocumentForm
import MovieScript.Proofs.DocumentImport
import MovieScript.Proofs.DocumentNumbers
import MovieScript.Proofs.EditStability
import MovieScript.Proofs.EntryValue
import MovieScript.Proofs.ExactCollection
import MovieScript.Proofs.HandleLifetime
import MovieScript.Proofs.HeapRun
import MovieScript.Proofs.HostBalance
import MovieScript.Proofs.HostBarriers
import MovieScript.Proofs.HostCongruence
import MovieScript.Proofs.HostEntries
import MovieScript.Proofs.HostRuns
import MovieScript.Proofs.HostStability
import MovieScript.Proofs.IntervalHistory
import MovieScript.Proofs.IntervalSpacing
import MovieScript.Proofs.IssuedHandles
import MovieScript.Proofs.ObjectEdits
import MovieScript.Proofs.ObjectInvariants
import MovieScript.Proofs.ObjectsInFlight
import MovieScript.Proofs.ObservedRun
import MovieScript.Proofs.PermanentProperties
import MovieScript.Proofs.QuietEdits
import MovieScript.Proofs.Reachability
import MovieScript.Proofs.RelayedCalls
import MovieScript.Proofs.Slots
import MovieScript.Proofs.StackInstructions
import MovieScript.Proofs.Sweep
import MovieScript.Proofs.Tables
import MovieScript.Proofs.TickIsolation
import MovieScript.Proofs.TickTurns
import MovieScript.Proofs.UnmarkedPositions
import MovieScript.Scene
import MovieScript.Scope
import MovieScript.Table
import MovieScript.Text.Blank
import MovieScript.Text.Escaped
import MovieScript.Text.Hidden
import MovieScript.Value
import MovieScript.Proofs.PrototypeChains
import MovieScript.Proofs.NewMachine
import MovieScript.Proofs.AcyclicPrototypes
import MovieScript.Proofs.HostMoments
import MovieScript.Proofs.SharedVariables
import MovieScript.Proofs.DocumentExport
import MovieScript.Proofs.HostNesting
import MovieScript.Proofs.Holdings
import MovieScript.Proofs.MachineGrowth
import MovieScript.Proofs.UsableHoldings
import MovieScript.Proofs.ElementNames
import MovieScript.Proofs.MemberHolders
import MovieScript.Proofs.MemberQueries
import MovieScript.Proofs.AcceptedLinks
import MovieScript.Proofs.MemberWrites
import MovieScript.Proofs.DefinedProperties
import MovieScript.Proofs.ElementWrites
import MovieScript.Proofs.WrittenNames
import MovieScript.Proofs.PlainVariables
import MovieScript.Proofs.DottedVariables
import MovieScript.Proofs.RegisterLayout
import MovieScript.Proofs.BoundParameters
import MovieScript.Proofs.PreloadedValues
import MovieScript.Proofs.WellFormedFrames
import MovieScript.Proofs.IntervalNames
import MovieScript.Proofs.EnoughFuel
import MovieScript.Proofs.EquivalentCalls
import MovieScript.Proofs.ArenaBookkeeping
import MovieScript.Proofs.CollectionThreshold
import MovieScript.Proofs.TextCuts
import MovieScript.Proofs.ArrayTexts
import MovieScript.Proofs.Conversions
import MovieScript.Proofs.ConvertingConstructors
import MovieScript.Proofs.InstructionCursor
import MovieScript.Proofs.MovieAddresses
