import GuestTypes.Action
import GuestTypes.ClassBody
import GuestTypes.Configuration
import GuestTypes.Configuration.Document
import GuestTypes.Description
import GuestTypes.Factory
import GuestTypes.Fault
import GuestTypes.FileTree
import GuestTypes.Flags
import GuestTypes.GuestType
import GuestTypes.Heap
import GuestTypes.Host.Class
import GuestTypes.Host.Lineage
import GuestTypes.Host.Progress
import GuestTypes.Identity
import GuestTypes.Layout
import GuestTypes.Machine
import GuestTypes.Program
import GuestTypes.Proofs.Adequacy
import GuestTypes.Proofs.Ancestry
import GuestTypes.Proofs.Answers
import GuestTypes.Proofs.AttributedRuns
import GuestTypes.Proofs.Attribution
import GuestTypes.Proofs.AttributionRequests
import GuestTypes.Proofs.BaseOrder
import GuestTypes.Proofs.BatchRegistration
import GuestTypes.Proofs.Building
import GuestTypes.Proofs.Calls
import GuestTypes.Proofs.Capabilities
import GuestTypes.Proofs.ClassAssignment
import GuestTypes.Proofs.ClassNames
import GuestTypes.Proofs.Comparison
import GuestTypes.Proofs.Creation
import GuestTypes.Proofs.CreationOutcome
import GuestTypes.Proofs.DefinedLayouts
import GuestTypes.Proofs.Definition
import GuestTypes.Proofs.DefinitionOutcome
import GuestTypes.Proofs.Delivery
import GuestTypes.Proofs.DistinctNames
import GuestTypes.Proofs.Dumping
import GuestTypes.Proofs.EscalationEffect
import GuestTypes.Proofs.EscalationOutcome
import GuestTypes.Proofs.FactoryRequests
import GuestTypes.Proofs.FailedDefinition
import GuestTypes.Proofs.FieldOffsets
import GuestTypes.Proofs.FinalFailure
import GuestTypes.Proofs.ForeignCode
import GuestTypes.Proofs.Founding
import GuestTypes.Proofs.Growth
import GuestTypes.Proofs.GuardedRuns
import GuestTypes.Proofs.Guards
import GuestTypes.Proofs.Hosting
import GuestTypes.Proofs.IndexTable
import GuestTypes.Proofs.Inheritance
import GuestTypes.Proofs.InheritedFlags
import GuestTypes.Proofs.InheritedLayouts
import GuestTypes.Proofs.Initialisation
import GuestTypes.Proofs.InitialisationOutcome
import GuestTypes.Proofs.InitialisedOnce
import GuestTypes.Proofs.InitialisedSuperclasses
import GuestTypes.Proofs.InstanceFields
import GuestTypes.Proofs.InstanceLife
import GuestTypes.Proofs.Instances
import GuestTypes.Proofs.Interference
import GuestTypes.Proofs.Joining
import GuestTypes.Proofs.LayoutGrowth
import GuestTypes.Proofs.LayoutReuse
import GuestTypes.Proofs.Layouts
import GuestTypes.Proofs.Listings
import GuestTypes.Proofs.Loading
import GuestTypes.Proofs.Locking
import GuestTypes.Proofs.LookupAccounts
import GuestTypes.Proofs.LookupBooks
import GuestTypes.Proofs.LookupCounters
import GuestTypes.Proofs.LookupCourses
import GuestTypes.Proofs.LookupOrder
import GuestTypes.Proofs.NameIssue
import GuestTypes.Proofs.NameRequests
import GuestTypes.Proofs.OrderIndependence
import GuestTypes.Proofs.PatientRequests
import GuestTypes.Proofs.PlainRequests
import GuestTypes.Proofs.Preparation
import GuestTypes.Proofs.PrimaryClass
import GuestTypes.Proofs.Publishing
import GuestTypes.Proofs.Realisation
import GuestTypes.Proofs.RegistryAgreement
import GuestTypes.Proofs.Requests
import GuestTypes.Proofs.Resolution
import GuestTypes.Proofs.ResolutionOutcome
import GuestTypes.Proofs.RootedTypes
import GuestTypes.Proofs.RuledRegistry
import GuestTypes.Proofs.SharedLayouts
import GuestTypes.Proofs.SinglePublication
import GuestTypes.Proofs.Steps
import GuestTypes.Proofs.Subclassing
import GuestTypes.Proofs.Substitution
import GuestTypes.Proofs.Synthesis
import GuestTypes.Proofs.Transactions
import GuestTypes.Proofs.Trust
import GuestTypes.Proofs.Turns
import GuestTypes.Proofs.Typing
import GuestTypes.Proofs.TypingRequests
import GuestTypes.Proofs.UniqueNames
import GuestTypes.Proofs.Workshop
import GuestTypes.Proofs.World
import GuestTypes.Protocol.Bindings
import GuestTypes.Protocol.Creation
import GuestTypes.Protocol.Definition
import GuestTypes.Protocol.Initialisation
import GuestTypes.Protocol.Objects
import GuestTypes.Protocol.Resolution
import GuestTypes.Protocol.Synthesis
import GuestTypes.Record
import GuestTypes.Registry
import GuestTypes.Representation
import GuestTypes.Specification
import GuestTypes.Store
import GuestTypes.Synthesizer
import GuestTypes.Table
import GuestTypes.Text.Blank
import GuestTypes.Text.Dotted
import GuestTypes.Text.Printable
import GuestTypes.Text.Quoted
import GuestTypes.Text.Ranges
import GuestTypes.Text.Structured
import GuestTypes.Text.Substitution
import GuestTypes.Yaml.Cursor
import GuestTypes.Yaml.Node
import GuestTypes.Yaml.Scalar
import GuestTypes.Yaml.Token
