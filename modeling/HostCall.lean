import HostCall.Callable
import HostCall.Cell
import HostCall.Configuration
import HostCall.Conversion
import HostCall.Descriptor
import HostCall.Disk
import HostCall.Error
import HostCall.Frame
import HostCall.HostType
import HostCall.Instances
import HostCall.Invoke
import HostCall.Kind
import HostCall.Library.Basic
import HostCall.Library.Boxed
import HostCall.Library.Builder
import HostCall.Library.Builtin
import HostCall.Library.Character
import HostCall.Library.Integer
import HostCall.Library.Math
import HostCall.Library.Samples
import HostCall.Library.Standard
import HostCall.Library.Text
import HostCall.Log.Event
import HostCall.Log.Instant
import HostCall.Log.Level
import HostCall.Log.Line
import HostCall.Log.Logbook
import HostCall.Log.Record
import HostCall.Marshal
import HostCall.Number.Binary
import HostCall.Number.Fixed
import HostCall.Number.Literal
import HostCall.Number.Shortest
import HostCall.Overload
import HostCall.Proofs.Adaptation
import HostCall.Proofs.BoxedText
import HostCall.Proofs.Coercion
import HostCall.Proofs.Commit
import HostCall.Proofs.DescriptorGrammar
import HostCall.Proofs.Footprint
import HostCall.Proofs.IntegerText
import HostCall.Proofs.Layout
import HostCall.Proofs.PlannedCall
import HostCall.Proofs.ReferenceGrammar
import HostCall.Proofs.Result
import HostCall.Proofs.Search
import HostCall.Proofs.Selection
import HostCall.Reflector
import HostCall.Registry
import HostCall.Resolver
import HostCall.Settings
import HostCall.Signature
import HostCall.Text.Basic
import HostCall.Text.Blank
import HostCall.Text.CaseMap
import HostCall.Text.Digit
import HostCall.Text.Letter
import HostCall.Text.Printable
import HostCall.Text.Quoted
import HostCall.Text.RangeTable
import HostCall.Text.Units
import HostCall.Text.Utf8
import HostCall.Toml.Document
import HostCall.Toml.Item
import HostCall.Toml.Lexeme
import HostCall.Universe
import HostCall.Value.Arithmetic
import HostCall.Value.ArrayText
import HostCall.Value.Basic
import HostCall.Value.Buffer
import HostCall.Value.Compare
import HostCall.Value.Convert
import HostCall.Value.Display
import HostCall.Value.Grid
import HostCall.Value.Json
import HostCall.Value.Scalar
import HostCall.Value.Sequence
import HostCall.Value.Template
import HostCall.Proofs.CheapestVariant
import HostCall.Proofs.ExactMatch
import HostCall.Proofs.Resolution
import HostCall.Proofs.HostCode
import HostCall.Proofs.Refusal
import HostCall.Proofs.ImportPath
import HostCall.Proofs.Spelling
import HostCall.Proofs.Decoration
import HostCall.Proofs.Records
import HostCall.Proofs.Assignability
import HostCall.Proofs.ExactConversion
import HostCall.Proofs.LibraryCall
import HostCall.Proofs.RenderedText
import HostCall.Proofs.Rebuild
import HostCall.Proofs.Narrowing
import HostCall.Proofs.DescriptorScan
import HostCall.Proofs.ClassName
import HostCall.Proofs.WrittenArray
import HostCall.Proofs.CharArray
import HostCall.Proofs.MostSpecific
import HostCall.Proofs.MemberLookup
import HostCall.Proofs.Surrogates
import HostCall.Proofs.Passage
import HostCall.Proofs.TextHash
import HostCall.Proofs.NumeralRoundTrip
import HostCall.Proofs.TextSearch
import HostCall.Proofs.NewLogger
import HostCall.Proofs.SharedLogger
import HostCall.Proofs.ChunkView
import HostCall.Proofs.BufferRun
import HostCall.Proofs.ForeignReceiver
import HostCall.Proofs.ResolutionFailure
import HostCall.Proofs.ArrayResolution
import HostCall.Proofs.ArityCheck
import HostCall.Proofs.Persistence
import HostCall.Proofs.Registration
