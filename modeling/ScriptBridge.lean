import ScriptBridge.Arguments
import ScriptBridge.Assignable
import ScriptBridge.Cache
import ScriptBridge.Config
import ScriptBridge.Container
import ScriptBridge.Container.Mapping
import ScriptBridge.Container.Sequence
import ScriptBridge.Declare
import ScriptBridge.Dispatch
import ScriptBridge.Dispatch.Invoke
import ScriptBridge.Dispatch.Lookup
import ScriptBridge.Document
import ScriptBridge.Document.Character
import ScriptBridge.Document.Cursor
import ScriptBridge.Document.Outline
import ScriptBridge.Document.Reading
import ScriptBridge.Document.Scalar
import ScriptBridge.Document.Tag
import ScriptBridge.Document.Timestamp
import ScriptBridge.Document.Token
import ScriptBridge.Document.Token.Block
import ScriptBridge.Document.Token.Label
import ScriptBridge.Document.Token.Lexer
import ScriptBridge.Document.Token.Plain
import ScriptBridge.Document.Token.Quoted
import ScriptBridge.Error
import ScriptBridge.Error.Template
import ScriptBridge.Eval
import ScriptBridge.Hint
import ScriptBridge.Hint.Expression
import ScriptBridge.Hint.Names
import ScriptBridge.Hint.Operator
import ScriptBridge.Hint.Token
import ScriptBridge.Hint.Value
import ScriptBridge.Hint.Written
import ScriptBridge.Host.Allocate
import ScriptBridge.Host.Attribute
import ScriptBridge.Host.Construct
import ScriptBridge.Host.Equality
import ScriptBridge.Host.Field
import ScriptBridge.Host.Format
import ScriptBridge.Host.Item
import ScriptBridge.Host.MapKey
import ScriptBridge.Host.New
import ScriptBridge.Host.Number
import ScriptBridge.Host.NumberOrder
import ScriptBridge.Host.Order
import ScriptBridge.Host.Sort
import ScriptBridge.Host.Special
import ScriptBridge.Host.Sum
import ScriptBridge.Host.Text
import ScriptBridge.Host.Wording
import ScriptBridge.Index
import ScriptBridge.Key
import ScriptBridge.Kind
import ScriptBridge.Kind.Members
import ScriptBridge.Kind.Names
import ScriptBridge.Kind.Special
import ScriptBridge.Lineage
import ScriptBridge.Members
import ScriptBridge.Metadata
import ScriptBridge.Native
import ScriptBridge.Native.Collection
import ScriptBridge.Native.Engine
import ScriptBridge.Native.Parameters
import ScriptBridge.Native.Text
import ScriptBridge.Number.Complex
import ScriptBridge.Number.Decimal
import ScriptBridge.Number.DecimalPlaces
import ScriptBridge.Number.Double
import ScriptBridge.Number.Fraction
import ScriptBridge.Number.Integer
import ScriptBridge.Number.Numeral
import ScriptBridge.Number.Places
import ScriptBridge.Number.Ratio
import ScriptBridge.Number.Residue
import ScriptBridge.Object
import ScriptBridge.OrderedMap
import ScriptBridge.Program
import ScriptBridge.Proofs.Accounting
import ScriptBridge.Proofs.ArrayWrites
import ScriptBridge.Proofs.Asked
import ScriptBridge.Proofs.Binding
import ScriptBridge.Proofs.BringUp
import ScriptBridge.Proofs.Cards
import ScriptBridge.Proofs.CaseForms
import ScriptBridge.Proofs.Coherence
import ScriptBridge.Proofs.Construction
import ScriptBridge.Proofs.Covariance
import ScriptBridge.Proofs.DeclaredFields
import ScriptBridge.Proofs.DeepWrites
import ScriptBridge.Proofs.Described
import ScriptBridge.Proofs.Discreet
import ScriptBridge.Proofs.Discreet.Attribute
import ScriptBridge.Proofs.Discreet.Container
import ScriptBridge.Proofs.Discreet.Equality
import ScriptBridge.Proofs.Discreet.Item
import ScriptBridge.Proofs.Discreet.Text
import ScriptBridge.Proofs.ErrorWrites
import ScriptBridge.Proofs.FailedWrites
import ScriptBridge.Proofs.FieldNames
import ScriptBridge.Proofs.FieldReads
import ScriptBridge.Proofs.Folding
import ScriptBridge.Proofs.Graphs
import ScriptBridge.Proofs.Growth
import ScriptBridge.Proofs.HintLeaves
import ScriptBridge.Proofs.Histories
import ScriptBridge.Proofs.Holding
import ScriptBridge.Proofs.Indexing
import ScriptBridge.Proofs.Inquiry
import ScriptBridge.Proofs.Items
import ScriptBridge.Proofs.Listings
import ScriptBridge.Proofs.Looking
import ScriptBridge.Proofs.MapEntries
import ScriptBridge.Proofs.MemberFunctions
import ScriptBridge.Proofs.Members
import ScriptBridge.Proofs.Memory
import ScriptBridge.Proofs.MethodNames
import ScriptBridge.Proofs.MissedKeys
import ScriptBridge.Proofs.Misses
import ScriptBridge.Proofs.NamedArguments
import ScriptBridge.Proofs.Nameless
import ScriptBridge.Proofs.NearestScope
import ScriptBridge.Proofs.Overload
import ScriptBridge.Proofs.Received
import ScriptBridge.Proofs.Refused
import ScriptBridge.Proofs.Regions
import ScriptBridge.Proofs.Rephrasing
import ScriptBridge.Proofs.Reporting
import ScriptBridge.Proofs.Run
import ScriptBridge.Proofs.Safe
import ScriptBridge.Proofs.SafeReads
import ScriptBridge.Proofs.Scalars
import ScriptBridge.Proofs.ScopeMark
import ScriptBridge.Proofs.ScopedCall
import ScriptBridge.Proofs.Sequences
import ScriptBridge.Proofs.Serving
import ScriptBridge.Proofs.Settings
import ScriptBridge.Proofs.Spelling
import ScriptBridge.Proofs.Still
import ScriptBridge.Proofs.StructCopies
import ScriptBridge.Proofs.StructHistory
import ScriptBridge.Proofs.StructMaking
import ScriptBridge.Proofs.Transparent
import ScriptBridge.Proofs.UpperCasing
import ScriptBridge.Proofs.Written
import ScriptBridge.Registry
import ScriptBridge.Resolver
import ScriptBridge.Run
import ScriptBridge.Scope
import ScriptBridge.Session.Access
import ScriptBridge.Session.Answer
import ScriptBridge.Session.Command
import ScriptBridge.Session.Container
import ScriptBridge.Session.Given
import ScriptBridge.Session.Question
import ScriptBridge.Session.Reply
import ScriptBridge.Session.Run
import ScriptBridge.Session.Service
import ScriptBridge.Session.Snapshot
import ScriptBridge.Signature
import ScriptBridge.Store
import ScriptBridge.Target
import ScriptBridge.Text.CaseFolding
import ScriptBridge.Text.CaseMap
import ScriptBridge.Text.DecimalDigit
import ScriptBridge.Text.DecimalLayout
import ScriptBridge.Text.Encoding
import ScriptBridge.Text.Layout
import ScriptBridge.Text.LowerCase
import ScriptBridge.Text.Pattern
import ScriptBridge.Text.Printable
import ScriptBridge.Text.Quoted
import ScriptBridge.Text.Space
import ScriptBridge.Text.UpperCase
import ScriptBridge.Text.WordCase
import ScriptBridge.Value
import ScriptBridge.World
import ScriptBridge.Wrapper
