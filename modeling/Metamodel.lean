import Metamodel.Keyed
import Metamodel.Text.CharacterTables
import Metamodel.Text.LowerCase
import Metamodel.Text.Quoted
import Metamodel.Text.Number
import Metamodel.Name
import Metamodel.Reference
import Metamodel.Metadata
import Metamodel.Capability
import Metamodel.Interval
import Metamodel.Calendar
import Metamodel.Chronology
import Metamodel.Timestamp
import Metamodel.Json
import Metamodel.Rule
import Metamodel.TypeInfo
import Metamodel.FunctionInfo
import Metamodel.Literal
import Metamodel.RuleTable
import Metamodel.Model
import Metamodel.Model.Resolution
import Metamodel.Model.Literals
import Metamodel.Model.Export
import Metamodel.Declaration
import Metamodel.Draft
import Metamodel.Draft.Layout
import Metamodel.Draft.Allocation
import Metamodel.Draft.Assembly
import Metamodel.Draft.Fault
import Metamodel.StandardTypes
import Metamodel.Inspect
import Metamodel.Scenario.Expectation
import Metamodel.Scenario
import Metamodel.Proofs.Tables
import Metamodel.Proofs.WellFormed
import Metamodel.Proofs.Denotation
import Metamodel.Proofs.Arena
import Metamodel.Proofs.Findings
import Metamodel.Proofs.Faults
import Metamodel.Proofs.Buildable
import Metamodel.Proofs.Built
import Metamodel.Proofs.CollectionTypes
import Metamodel.Proofs.Binding
import Metamodel.Proofs.RuleRows
import Metamodel.Proofs.Dispatch
import Metamodel.Proofs.Newest
import Metamodel.Proofs.RuleIndexes
import Metamodel.Proofs.Merging
import Metamodel.Proofs.Registered
import Metamodel.Proofs.Together
import Metamodel.Proofs.Renaming
import Metamodel.Proofs.Layering
import Metamodel.Proofs.LayeredRules
import Metamodel.Proofs.Rephrasing
import Metamodel.Proofs.Declaring
import Metamodel.Proofs.ByName
import Metamodel.Proofs.AtOnce
import Metamodel.Proofs.Layers
import Metamodel.Proofs.Functions
import Metamodel.Proofs.Stock
import Metamodel.Proofs.FunctionRules
import Metamodel.Proofs.Defaults
import Metamodel.Proofs.DefaultResults
import Metamodel.Proofs.Conservation
import Metamodel.Proofs.Reordering
import Metamodel.Proofs.Definitions
import Metamodel.Proofs.ReorderedRules
import Metamodel.Proofs.Registering
import Metamodel.Proofs.Precedence
import Metamodel.Proofs.Closed
import Metamodel.Proofs.FunctionOverlay
import Metamodel.Proofs.Respelling
import Metamodel.Proofs.Calls
import Metamodel.Proofs.Extending
import Metamodel.Proofs.Copying
import Metamodel.Proofs.Redeclaring
import Metamodel.Proofs.Tagging
import Metamodel.Proofs.ArgumentKinds
import Metamodel.Proofs.ArgumentCounts
import Metamodel.Proofs.Exporting
import Metamodel.Proofs.WidestOperands
import Metamodel.Proofs.Dates
import Metamodel.Proofs.Chronologies
import Metamodel.Proofs.Amounts
import Metamodel.Proofs.Moving
import Metamodel.Proofs.MovingBack
import Metamodel.Proofs.Overwriting
import Metamodel.Proofs.Allocating
import Metamodel.Proofs.WrittenIntervals
import Metamodel.Proofs.Chains
import Metamodel.Proofs.Expecting
