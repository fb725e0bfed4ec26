import Notekeeper.Client
import Notekeeper.Client.Opening
import Notekeeper.Command.Basic
import Notekeeper.Command.Credentials
import Notekeeper.Command.Editing
import Notekeeper.Command.Notebooks
import Notekeeper.Command.Notes
import Notekeeper.Command.Records
import Notekeeper.Config
import Notekeeper.Config.Paths
import Notekeeper.Config.Source
import Notekeeper.Config.Toml
import Notekeeper.Config.Toml.Parser
import Notekeeper.Credential
import Notekeeper.Credential.List
import Notekeeper.EditBuffer
import Notekeeper.Editor
import Notekeeper.Editor.Program
import Notekeeper.Editor.Program.Arguments
import Notekeeper.Editor.Program.Copy
import Notekeeper.Editor.Program.Mode
import Notekeeper.Editor.Program.Place
import Notekeeper.Editor.Program.Remove
import Notekeeper.Editor.Program.Result
import Notekeeper.Editor.Program.Truncate
import Notekeeper.Editor.StreamEdit
import Notekeeper.Editor.StreamEdit.Escape
import Notekeeper.Editor.StreamEdit.Pattern
import Notekeeper.Editor.StreamEdit.PatternText
import Notekeeper.Editor.StreamEdit.Replacement
import Notekeeper.Editor.StreamEdit.Run
import Notekeeper.Editor.StreamEdit.Script
import Notekeeper.Error
import Notekeeper.Files
import Notekeeper.Fingerprint
import Notekeeper.Fingerprint.Blake3
import Notekeeper.Json.Basic
import Notekeeper.Json.Parser
import Notekeeper.Json.Printer
import Notekeeper.Json.Record
import Notekeeper.Markdown
import Notekeeper.Markdown.Block.Building
import Notekeeper.Markdown.Block.Definition
import Notekeeper.Markdown.Block.Opening
import Notekeeper.Markdown.Block.Parser
import Notekeeper.Markdown.Character
import Notekeeper.Markdown.Cursor
import Notekeeper.Markdown.Element
import Notekeeper.Markdown.FoldCase
import Notekeeper.Markdown.Html
import Notekeeper.Markdown.Inline.Autolink
import Notekeeper.Markdown.Inline.Emphasis
import Notekeeper.Markdown.Inline.Line
import Notekeeper.Markdown.Inline.Parser
import Notekeeper.Markdown.Link
import Notekeeper.Markdown.Node
import Notekeeper.Markdown.Place
import Notekeeper.Markdown.Reference
import Notekeeper.Markdown.Run
import Notekeeper.Markdown.Tag
import Notekeeper.Markup.Codec
import Notekeeper.Markup.Envelope
import Notekeeper.Markup.PlainText
import Notekeeper.Note
import Notekeeper.Note.Filter
import Notekeeper.Notebook
import Notekeeper.Notebook.Cache
import Notekeeper.Remote.Call
import Notekeeper.Remote.Scripted
import Notekeeper.Store.Buckets
import Notekeeper.Store.Entries
import Notekeeper.Store.Operation
import Notekeeper.Store.Schema
import Notekeeper.Store.Slot
import Notekeeper.Store.Tables
import Notekeeper.Store.Transaction
import Notekeeper.Store.Varint
import Notekeeper.Text.Blank
import Notekeeper.Text.Numeral
import Notekeeper.Text.Search
import Notekeeper.Text.Utf8
import Notekeeper.Time.Date
import Notekeeper.Time.Duration
import Notekeeper.Time.Rfc3339
import Notekeeper.Time.Timestamp
import Notekeeper.Proofs.Text.Numeral
import Notekeeper.Proofs.Text.Search
import Notekeeper.Proofs.Text.Utf8
import Notekeeper.Proofs.Json
import Notekeeper.Proofs.Time.Rfc3339
import Notekeeper.Proofs.Record
import Notekeeper.Proofs.Store.Backend
import Notekeeper.Proofs.Store.Transaction
import Notekeeper.Proofs.Command.Report
import Notekeeper.Proofs.Command.Records
import Notekeeper.Proofs.Command.Footprint
import Notekeeper.Proofs.Command.Edit
import Notekeeper.Proofs.History
import Notekeeper.Proofs.EditBuffer
import Notekeeper.Proofs.Recovery.Events
import Notekeeper.Proofs.Recovery.Resending
import Notekeeper.Proofs.Time.Elapsed
import Notekeeper.Proofs.Notebook.Refreshing
import Notekeeper.Proofs.Notebook.Changing
import Notekeeper.Proofs.Notebook.Staleness
import Notekeeper.Proofs.Credential.Changing
import Notekeeper.Proofs.Store.Mishap
import Notekeeper.Proofs.Credential.Removal
import Notekeeper.Proofs.Store.Schema
import Notekeeper.Proofs.Command.Conduct
import Notekeeper.Proofs.Editing.Loading
import Notekeeper.Proofs.Editing.Acting
import Notekeeper.Proofs.Markup.Envelope
import Notekeeper.Proofs.Markup.PlainText
import Notekeeper.Proofs.Markup.Forest
import Notekeeper.Proofs.Editing.Raw
import Notekeeper.Proofs.Store.Contents
import Notekeeper.Proofs.Command.ReadBack
import Notekeeper.Proofs.Searching.Ordinal
import Notekeeper.Proofs.Searching.Title
import Notekeeper.Proofs.Searching.Naming
import Notekeeper.Proofs.Searching.Changing
import Notekeeper.Proofs.Sharing.Crowd
import Notekeeper.Proofs.Sharing.Upgrading
import Notekeeper.Proofs.Sharing.Patching
import Notekeeper.Proofs.Sharing.Secrets
import Notekeeper.Proofs.Sharing.Choosing
import Notekeeper.Proofs.Credential.Positions
import Notekeeper.Proofs.Credential.Refining
import Notekeeper.Proofs.Command.Parts
import Notekeeper.Proofs.Command.Contract
import Notekeeper.Proofs.Command.Touching
import Notekeeper.Proofs.Damage.Garbled
import Notekeeper.Proofs.Damage.Legible
import Notekeeper.Proofs.Credential.Batch
import Notekeeper.Proofs.Editing.Typed
import Notekeeper.Proofs.Command.Calling
import Notekeeper.Proofs.Command.Missing
import Notekeeper.Proofs.Searching.Metadata
import Notekeeper.Proofs.Store.Varint
import Notekeeper.Proofs.Markup.Offsets
import Notekeeper.Proofs.Time.Calendar
import Notekeeper.Proofs.Notebook.Outdated
