import AccountStore.Account.Field
import AccountStore.Command.Run
import AccountStore.Main
import AccountStore.Script
import AccountStore.Json.Reader
import AccountStore.Statement.Text
import AccountStore.Proofs.Table.Row
import AccountStore.Proofs.Table.Change
import AccountStore.Proofs.Table.Sound
import AccountStore.Proofs.Account.Lawful
import AccountStore.Proofs.Operation.Change
import AccountStore.Proofs.Operation.Rows
import AccountStore.Proofs.Operation.Program
import AccountStore.Proofs.Operation.Exchange
import AccountStore.Proofs.Operation.Modification
import AccountStore.Proofs.Operation.Run
import AccountStore.Proofs.DeletedRows
import AccountStore.Proofs.History
import AccountStore.Proofs.Interleaving.World
import AccountStore.Proofs.Interleaving.Sequential
import AccountStore.Proofs.Interleaving.Modification
import AccountStore.Proofs.Interleaving.Creation
import AccountStore.Proofs.Operation.Comparison
import AccountStore.Proofs.DriverErrors
import AccountStore.Proofs.Statement.Placeholders
import AccountStore.Proofs.StatementText
import AccountStore.Proofs.Operation.Parts
import AccountStore.Proofs.Deadline
import AccountStore.Proofs.Redaction.Tables
import AccountStore.Proofs.Redaction.Calls
import AccountStore.Proofs.CommandSecrecy
import AccountStore.Proofs.Operation.Dialogue
import AccountStore.Proofs.StatementDiscipline
import AccountStore.Proofs.Account.Reading
import AccountStore.Proofs.Account.Revision
import AccountStore.Proofs.Operation.Request
import AccountStore.Proofs.Operation.Creation
import AccountStore.Proofs.Paging
import AccountStore.Proofs.ReadPaths
import AccountStore.Proofs.ValidRows
import AccountStore.Proofs.Outcome.Modification
import AccountStore.Proofs.Operation.OneTable
import AccountStore.Proofs.Independence
import AccountStore.Proofs.Schema.Index
import AccountStore.Proofs.Schema.Migration
import AccountStore.Proofs.Schema.Use
import AccountStore.Proofs.SchemaLifecycle
import AccountStore.Proofs.CommandContract
import AccountStore.Proofs.Outcome.Creation
import AccountStore.Proofs.RoundTrip.Creation
import AccountStore.Proofs.RoundTrip.Update
import AccountStore.Proofs.RoundTrip.WriteBack
import AccountStore.Proofs.Table.Edit
import AccountStore.Proofs.Operation.Rotation
import AccountStore.Proofs.CredentialRotation
import AccountStore.Proofs.Operation.Commutation
import AccountStore.Proofs.RefreshTokens
import AccountStore.Proofs.Account.Codec
import AccountStore.Proofs.ReadCodec
import AccountStore.Proofs.Listing
import AccountStore.Proofs.DeclaredLengths
import AccountStore.Proofs.Text.Bytes
import AccountStore.Proofs.Text.Digits
import AccountStore.Proofs.Sort
import AccountStore.Proofs.Filter.Map
import AccountStore.Proofs.Filter.Arguments
import AccountStore.Proofs.Calendar.Shown
import AccountStore.Proofs.Calendar.Written
import AccountStore.Proofs.Filter.CreationTime
import AccountStore.Proofs.Json.Fields
import AccountStore.Proofs.Json.Numeral
import AccountStore.Proofs.Json.Text
import AccountStore.Proofs.Json.Record
import AccountStore.Proofs.SerialisedForms
import AccountStore.Proofs.Text.Trim
import AccountStore.Proofs.Settings
import AccountStore.Proofs.Statement.Written
import AccountStore.Proofs.Operation.Failure
import AccountStore.Proofs.ColumnChecks
import AccountStore.Proofs.FieldNames
