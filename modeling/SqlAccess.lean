import SqlAccess.Text.Blank
import SqlAccess.Text.Digits
import SqlAccess.Text.Hex
import SqlAccess.Number.Binary
import SqlAccess.Number.Shortest
import SqlAccess.Number.BinaryText
import SqlAccess.Number.Decimal.Basic
import SqlAccess.Number.Decimal.OfBinary
import SqlAccess.Number.Decimal.Text
import SqlAccess.Calendar.Text
import SqlAccess.Uuid
import SqlAccess.Text.Quoted
import SqlAccess.Value.Coerce
import SqlAccess.SqlType
import SqlAccess.Result.Cursor
import SqlAccess.Parameter
import SqlAccess.Bean.Mapper
import SqlAccess.Credentials
import SqlAccess.PoolSettings
import SqlAccess.Statement.Inputs
import SqlAccess.Database.Query
import SqlAccess.Scripted.Source
import SqlAccess.Console
import SqlAccess.Statement.Script
import SqlAccess.MySql.Source
import SqlAccess.Proofs.Database.Operation
import SqlAccess.Proofs.Database.Lifecycle
import SqlAccess.Proofs.Scripted.Release
import SqlAccess.Proofs.Calendar.Shift
import SqlAccess.Proofs.Database.Failure
import SqlAccess.Proofs.MySql.RoundTrip
import SqlAccess.Proofs.MySql.TypedBinding
import SqlAccess.Proofs.Statement.Bound
import SqlAccess.Proofs.Statement.Alike
import SqlAccess.Proofs.Driver.Holdings
import SqlAccess.Proofs.Scripted.Interleaving
import SqlAccess.Proofs.Bean.Memory
import SqlAccess.Proofs.Statement.Entries
import SqlAccess.Proofs.Scripted.TypedBatch
import SqlAccess.Proofs.Scripted.PlainAndPrepared
import SqlAccess.Proofs.MySql.IntegerColumn
import SqlAccess.Proofs.Value.Fetch
import SqlAccess.Proofs.MySql.ChoiceColumn
import SqlAccess.Proofs.Calendar.ReadBack
import SqlAccess.Proofs.Value.ReadBack
import SqlAccess.Proofs.Scripted.Unavailable
import SqlAccess.Proofs.Database.Closing
import SqlAccess.Proofs.Scripted.CloseFailure
import SqlAccess.Proofs.Result.Mapping
import SqlAccess.Proofs.Scripted.ObjectQueries
import SqlAccess.Proofs.Database.Deferred
import SqlAccess.Proofs.MySql.Exchange
import SqlAccess.Proofs.MySql.Conversation
import SqlAccess.Proofs.Credentials
import SqlAccess.Proofs.Bean.Setters
import SqlAccess.Proofs.Scripted.Arity
import SqlAccess.Proofs.Number.IntegerPart
import SqlAccess.Proofs.Value.IntegerKinds
import SqlAccess.Proofs.Value.FloatingKinds
import SqlAccess.Proofs.Number.Numerals
import SqlAccess.Proofs.MySql.DecimalColumn
import SqlAccess.Proofs.MySql.SentDate
import SqlAccess.Proofs.Database.Batch
import SqlAccess.Proofs.Scripted.EmptyBatch
import SqlAccess.Proofs.Task.Polling
import SqlAccess.Proofs.MySql.TimeColumn
import SqlAccess.Proofs.MySql.Batch
import SqlAccess.Proofs.Bean.Requests
import SqlAccess.Proofs.Bean.Zeros
import SqlAccess.Proofs.Bean.ColumnOrder
import SqlAccess.Proofs.Result.Collecting
import SqlAccess.Proofs.Bean.Instances
import SqlAccess.Proofs.Value.Identifiers
import SqlAccess.Proofs.Value.Instants
import SqlAccess.Proofs.Calendar.LeapSecond
import SqlAccess.Proofs.MySql.LeapSecond
import SqlAccess.Proofs.PoolSettings
import SqlAccess.Proofs.Scripted.Literals
