import RecordFilter.Example.Task
import RecordFilter.Processor.Pass
import RecordFilter.Processor.Query
import RecordFilter.Rule.Printer
import RecordFilter.Proofs.Processor.Page
import RecordFilter.Proofs.Json.Numeral
import RecordFilter.Proofs.Json.Quoting
import RecordFilter.Proofs.Entries
import RecordFilter.Proofs.Json.RoundTrip
import RecordFilter.Proofs.Json.Equality
import RecordFilter.Proofs.Rule.RoundTrip
import RecordFilter.Proofs.Rule.Evaluation
import RecordFilter.Proofs.Rule.Absence
import RecordFilter.Proofs.Rule.Numbers
import RecordFilter.Proofs.Rule.ShortCircuit
import RecordFilter.Proofs.Value.Equality
import RecordFilter.Proofs.Rule.Membership
import RecordFilter.Proofs.Rule.Chain
import RecordFilter.Proofs.Processor.Paging
import RecordFilter.Proofs.Schema.Known
import RecordFilter.Proofs.Record.Descent
import RecordFilter.Proofs.Query.Form
import RecordFilter.Proofs.Processor.Query
import RecordFilter.Proofs.Processor.Url
import RecordFilter.Proofs.Json.Grammar
import RecordFilter.Proofs.Json.Readable
import RecordFilter.Proofs.Json.Recognition
import RecordFilter.Proofs.Rule.Syntax
import RecordFilter.Proofs.Json.Decoding
import RecordFilter.Proofs.Json.WrittenNumber
import RecordFilter.Proofs.Schema.Names
import RecordFilter.Proofs.Number.Order
import RecordFilter.Proofs.Rule.Ordering
import RecordFilter.Proofs.Record.Walk
import RecordFilter.Proofs.Schema.Faults
import RecordFilter.Proofs.Schema.Constants
import RecordFilter.Proofs.Json.Zeros
import RecordFilter.Proofs.Processor.Sameness
import RecordFilter.Proofs.Rule.OwnValue
