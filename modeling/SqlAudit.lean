import SqlAudit.Alert.Answer
import SqlAudit.Alert.Channel
import SqlAudit.Alert.Recorder
import SqlAudit.Alert.Wire
import SqlAudit.Audit.Binding
import SqlAudit.Audit.Injection
import SqlAudit.Audit.Run
import SqlAudit.Audit.Structure
import SqlAudit.Caller
import SqlAudit.Catalog
import SqlAudit.Finding.Basic
import SqlAudit.Finding.Caution
import SqlAudit.Finding.Fault
import SqlAudit.Finding.Note
import SqlAudit.Finding.Remarks
import SqlAudit.Input.Field
import SqlAudit.Input.Rejection
import SqlAudit.Json.Cursor
import SqlAudit.Json.Encoding
import SqlAudit.Json.Number
import SqlAudit.Json.Reader
import SqlAudit.Json.Strict
import SqlAudit.Json.Text
import SqlAudit.Json.Writer
import SqlAudit.Mail.AddressList
import SqlAudit.Mail.Charset
import SqlAudit.Mail.EncodedWord
import SqlAudit.Mail.Mailbox
import SqlAudit.Mail.Word
import SqlAudit.Number.Binary64
import SqlAudit.Number.Numeral
import SqlAudit.Number.Shortest
import SqlAudit.Params
import SqlAudit.Pattern.Basic
import SqlAudit.Pattern.First
import SqlAudit.Pattern.Search
import SqlAudit.Preview
import SqlAudit.Query
import SqlAudit.Remedy
import SqlAudit.Render.Context
import SqlAudit.Render.Document
import SqlAudit.Render.Format
import SqlAudit.Render.Html
import SqlAudit.Render.Plain
import SqlAudit.Report
import SqlAudit.Service.Body
import SqlAudit.Service.Reply
import SqlAudit.Service.Request
import SqlAudit.Session
import SqlAudit.Settings
import SqlAudit.Statement
import SqlAudit.Text.Blank
import SqlAudit.Text.Cased
import SqlAudit.Text.Caseless
import SqlAudit.Text.Digit
import SqlAudit.Text.Half
import SqlAudit.Text.Hex
import SqlAudit.Text.Lower
import SqlAudit.Text.Mark
import SqlAudit.Text.Printable
import SqlAudit.Text.Quoted
import SqlAudit.Text.Ranges
import SqlAudit.Text.Search
import SqlAudit.Text.Upper
import SqlAudit.Text.Utf8
import SqlAudit.Text.Word
import SqlAudit.Timestamp
import SqlAudit.Url.Basic
import SqlAudit.Url.Composition
import SqlAudit.Url.Direction
import SqlAudit.Url.Ip
import SqlAudit.Url.Joining
import SqlAudit.Url.Label
import SqlAudit.Url.Percent
import SqlAudit.Url.Permitted
import SqlAudit.Url.Punycode
import SqlAudit.Validator
import SqlAudit.Value.Basic
import SqlAudit.Value.Document
import SqlAudit.Value.Literal
import SqlAudit.Value.Writing
import SqlAudit.Proofs.Pattern.Reads
import SqlAudit.Proofs.Statement.Placeholders
import SqlAudit.Proofs.Audit.Causes
import SqlAudit.Proofs.Audit.Attempt
import SqlAudit.Proofs.Statement.Literals
import SqlAudit.Proofs.Audit.Acceptance
import SqlAudit.Proofs.Audit.Invariance
import SqlAudit.Proofs.Audit.Locality
import SqlAudit.Proofs.Remedy.Fit
import SqlAudit.Proofs.Validator.Calls
import SqlAudit.Proofs.Render.Legibility
import SqlAudit.Proofs.Render.Markup
import SqlAudit.Proofs.Audit.Injected
import SqlAudit.Proofs.Text.Case
import SqlAudit.Proofs.Input.Fits
import SqlAudit.Proofs.Validator.Boundary
import SqlAudit.Proofs.Pattern.Case
import SqlAudit.Proofs.Audit.LetterCase
import SqlAudit.Proofs.Audit.Codes
import SqlAudit.Proofs.Text.Within
import SqlAudit.Proofs.Audit.Extension
import SqlAudit.Proofs.Session.Log
import SqlAudit.Proofs.Render.Document
import SqlAudit.Proofs.Validator.Alerts
import SqlAudit.Proofs.Pattern.Unique
import SqlAudit.Proofs.Audit.Insert
import SqlAudit.Proofs.Audit.Superglobals
import SqlAudit.Proofs.Remedy.Due
import SqlAudit.Proofs.Json.Names
import SqlAudit.Proofs.Service.Agreement
import SqlAudit.Proofs.Caller.Path
import SqlAudit.Proofs.Caller.Origin
import SqlAudit.Proofs.Render.Bound
import SqlAudit.Proofs.Validator.Bindings
import SqlAudit.Proofs.Audit.Quotes
import SqlAudit.Proofs.Number.Numeral
import SqlAudit.Proofs.Render.Members
import SqlAudit.Proofs.Settings
import SqlAudit.Proofs.Text.Words
import SqlAudit.Proofs.Audit.WholeWords
