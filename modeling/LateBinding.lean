import LateBinding.Binder
import LateBinding.Caches
import LateBinding.Copying
import LateBinding.Decimal.Shortest
import LateBinding.Fault
import LateBinding.Inspection
import LateBinding.Invoker.Basic
import LateBinding.Invoker.Guard
import LateBinding.Invoker.Key
import LateBinding.Invoker.OfMember
import LateBinding.Invoker.Run
import LateBinding.Lookup.Find
import LateBinding.Lookup.Flags
import LateBinding.Lookup.Query
import LateBinding.Member.Basic
import LateBinding.Member.Kind
import LateBinding.Memo
import LateBinding.Param
import LateBinding.Proofs.Caches
import LateBinding.Proofs.Except
import LateBinding.Proofs.Invoker.Access
import LateBinding.Proofs.Invoker.Accessors
import LateBinding.Proofs.Invoker.Bodiless
import LateBinding.Proofs.Invoker.Frame
import LateBinding.Proofs.Invoker.Jobs
import LateBinding.Proofs.Invoker.Keys
import LateBinding.Proofs.Invoker.Outdated
import LateBinding.Proofs.Invoker.Plain
import LateBinding.Proofs.Invoker.Provided
import LateBinding.Proofs.Invoker.ReadOnly
import LateBinding.Proofs.Invoker.ReadWrite
import LateBinding.Proofs.Invoker.Sorts
import LateBinding.Proofs.Invoker.Statics
import LateBinding.Proofs.Invoker.Topics
import LateBinding.Proofs.Lookup.ArgumentTypes
import LateBinding.Proofs.Lookup.Below
import LateBinding.Proofs.Lookup.Copying
import LateBinding.Proofs.Lookup.Exactly
import LateBinding.Proofs.Lookup.Fields
import LateBinding.Proofs.Lookup.Filtered
import LateBinding.Proofs.Lookup.Frame
import LateBinding.Proofs.Lookup.IgnoringCase
import LateBinding.Proofs.Lookup.Named
import LateBinding.Proofs.Lookup.Overload
import LateBinding.Proofs.Lookup.Reference
import LateBinding.Proofs.Memo.History
import LateBinding.Proofs.Memo.Noting
import LateBinding.Proofs.Registry.Accessors
import LateBinding.Proofs.Registry.Along
import LateBinding.Proofs.Registry.Bodiless
import LateBinding.Proofs.Registry.Chain
import LateBinding.Proofs.Registry.Consistent
import LateBinding.Proofs.Registry.Defaults
import LateBinding.Proofs.Registry.Layout
import LateBinding.Proofs.Registry.Owned
import LateBinding.Proofs.Registry.Plain
import LateBinding.Proofs.Registry.Populated
import LateBinding.Proofs.Registry.ReadOnly
import LateBinding.Proofs.Registry.Slots
import LateBinding.Proofs.Registry.Storage
import LateBinding.Proofs.Registry.Twins
import LateBinding.Proofs.Registry.Valid
import LateBinding.Proofs.Run.Accessors
import LateBinding.Proofs.Run.Answers
import LateBinding.Proofs.Run.Atomic
import LateBinding.Proofs.Run.Batches
import LateBinding.Proofs.Run.Beside
import LateBinding.Proofs.Run.Binder
import LateBinding.Proofs.Run.InPlace
import LateBinding.Proofs.Run.InStep
import LateBinding.Proofs.Run.Invokers
import LateBinding.Proofs.Run.Kept
import LateBinding.Proofs.Run.Lengths
import LateBinding.Proofs.Run.Looks
import LateBinding.Proofs.Run.Lookups
import LateBinding.Proofs.Run.PlainBinder
import LateBinding.Proofs.Run.PlainInvokers
import LateBinding.Proofs.Run.Quiet
import LateBinding.Proofs.Run.ReadOnly
import LateBinding.Proofs.Run.ReadOnlyBinder
import LateBinding.Proofs.Run.Remembered
import LateBinding.Proofs.Run.Scripts
import LateBinding.Proofs.Run.StandsFor
import LateBinding.Proofs.Run.WellTyped
import LateBinding.Proofs.Session.AccessorMethods
import LateBinding.Proofs.Session.Addressing
import LateBinding.Proofs.Session.Answering
import LateBinding.Proofs.Session.Archived
import LateBinding.Proofs.Session.ArgumentTypes
import LateBinding.Proofs.Session.Arguments
import LateBinding.Proofs.Session.Asked
import LateBinding.Proofs.Session.Atomicity
import LateBinding.Proofs.Session.BatchSetters
import LateBinding.Proofs.Session.Bodies
import LateBinding.Proofs.Session.Calls
import LateBinding.Proofs.Session.Constructors
import LateBinding.Proofs.Session.CopiedSlots
import LateBinding.Proofs.Session.Copiers
import LateBinding.Proofs.Session.CutOff
import LateBinding.Proofs.Session.Elements
import LateBinding.Proofs.Session.FieldAccess
import LateBinding.Proofs.Session.History
import LateBinding.Proofs.Session.Inquiries
import LateBinding.Proofs.Session.Operations
import LateBinding.Proofs.Session.Order
import LateBinding.Proofs.Session.Parties
import LateBinding.Proofs.Session.Provided
import LateBinding.Proofs.Session.Reached
import LateBinding.Proofs.Session.ReadOnly
import LateBinding.Proofs.Session.Registering
import LateBinding.Proofs.Session.Remembering
import LateBinding.Proofs.Session.Repeating
import LateBinding.Proofs.Session.Serving
import LateBinding.Proofs.Session.Sharing
import LateBinding.Proofs.Session.Storing
import LateBinding.Proofs.Session.Sweeping
import LateBinding.Proofs.Session.Unloading
import LateBinding.Proofs.Session.ValuesInTurn
import LateBinding.Proofs.Store.Charted
import LateBinding.Proofs.Store.Elements
import LateBinding.Proofs.Store.Filled
import LateBinding.Proofs.Store.Keeps
import LateBinding.Proofs.Store.Plan
import LateBinding.Proofs.Store.RowMajor
import LateBinding.Proofs.Table
import LateBinding.Proofs.Text.LowerCase
import LateBinding.Registry.Basic
import LateBinding.Registry.Descriptor
import LateBinding.Registry.Layout
import LateBinding.Run
import LateBinding.Script.Basic
import LateBinding.Script.Eval
import LateBinding.Session
import LateBinding.Store
import LateBinding.Table
import LateBinding.Text.Cased
import LateBinding.Text.CodeRange
import LateBinding.Text.LowerCase
import LateBinding.Text.Printable
import LateBinding.Text.Quoted
import LateBinding.TypeId
import LateBinding.TypeSpec
import LateBinding.Value.Array
import LateBinding.Value.Basic
