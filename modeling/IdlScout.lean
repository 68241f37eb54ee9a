import IdlScout.Text.Basic
import IdlScout.Text.Blank
import IdlScout.Text.Word
import IdlScout.Text.Utf8
import IdlScout.Text.Numeral
import IdlScout.Idl.ScopedName
import IdlScout.Idl.Member
import IdlScout.Idl.Declaration
import IdlScout.Idl.Cleanup
import IdlScout.Idl.Layout
import IdlScout.Json.Token
import IdlScout.Json.Record
import IdlScout.Json.Printer
import IdlScout.Detection.Type
import IdlScout.Detection.Topic
import IdlScout.Section.Marker
import IdlScout.Section.Decoder
import IdlScout.Yaml.Scalar
import IdlScout.Yaml.Mapping
import IdlScout.Files.Path
import IdlScout.Files.RawPath
import IdlScout.Files.Tree
import IdlScout.World
import IdlScout.Emission.Target
import IdlScout.Emission.Emitter
import IdlScout.Discovery.Walk
import IdlScout.Discovery.Executable
import IdlScout.Discovery.MessageFile
import IdlScout.Streams.LineSource
import IdlScout.Streams.Round
import IdlScout.Streams.Mux
import IdlScout.Streams.Schedule
import IdlScout.Settings.Datum
import IdlScout.Toml.Lexeme
import IdlScout.Toml.Number
import IdlScout.Toml.Table
import IdlScout.Toml.Document
import IdlScout.Pattern.Property
import IdlScout.Pattern.Basic
import IdlScout.Pattern.Reader
import IdlScout.Settings.Basic
import IdlScout.Settings.Validity
import IdlScout.Settings.Reading
import IdlScout.Session.ChildCommand
import IdlScout.Child.Status
import IdlScout.Shell.Command
import IdlScout.Shell.Glob
import IdlScout.Shell.Arithmetic
import IdlScout.Shell.Token
import IdlScout.Shell.Reader
import IdlScout.Shell.Format
import IdlScout.Shell.State
import IdlScout.Shell.Expansion
import IdlScout.Shell.Program
import IdlScout.Shell.Builtin
import IdlScout.Shell.Machine
import IdlScout.Child.Writer
import IdlScout.Child.Feed
import IdlScout.Child.Custody
import IdlScout.Child.Process
import IdlScout.Child.Live
import IdlScout.Child.Kind
import IdlScout.Session.Context
import IdlScout.Text.NameMap
import IdlScout.Text.Quoted
import IdlScout.Session.Basic
import IdlScout.Session.Run
import IdlScout.CommandLine.TimeLimit
import IdlScout.CommandLine.Option
import IdlScout.CommandLine.Reader
import IdlScout.CommandLine.LogFilter
import IdlScout.CommandLine.Program
import IdlScout.Main
import IdlScout.Proofs.Streams.Step
import IdlScout.Proofs.Streams.Delivery
import IdlScout.Proofs.Section.Pairing
import IdlScout.Proofs.Text.Trim
import IdlScout.Proofs.Text.Cut
import IdlScout.Proofs.Idl.Reading
import IdlScout.Proofs.Idl.Spelling
import IdlScout.Proofs.Idl.Printing
import IdlScout.Proofs.Idl.Reprint
import IdlScout.Proofs.Streams.Cancellation
import IdlScout.Proofs.Act
import IdlScout.Proofs.Text.NameMap
import IdlScout.Proofs.Emission.Notices
import IdlScout.Proofs.Session.Replay
import IdlScout.Proofs.Files.Leads
import IdlScout.Proofs.Files.Names
import IdlScout.Proofs.Files.Growth
import IdlScout.Proofs.Emission.SplitFolder
import IdlScout.Proofs.Emission.SplitFiles
import IdlScout.Proofs.Idl.Cleanup
import IdlScout.Proofs.Streams.LineSource
import IdlScout.Proofs.Section.Capture
import IdlScout.Proofs.Child.FeedStep
import IdlScout.Proofs.Streams.Supply
import IdlScout.Proofs.Child.Forwarding
import IdlScout.Proofs.Session.Ledger
import IdlScout.Proofs.Session.Supervision
import IdlScout.Proofs.Streams.Schedule
import IdlScout.Proofs.Child.Running
import IdlScout.Proofs.Child.FeedSchedule
import IdlScout.Proofs.Session.Following
import IdlScout.Proofs.Section.Framing
import IdlScout.Proofs.Session.Stopping
import IdlScout.Proofs.Json.StringUnit
import IdlScout.Proofs.Json.Grammar
import IdlScout.Proofs.Json.Lexing
import IdlScout.Proofs.Json.Printing
import IdlScout.Proofs.Json.Skimming
import IdlScout.Proofs.Json.Recognition
import IdlScout.Proofs.Json.Reload
import IdlScout.Proofs.Json.Carrying
import IdlScout.Proofs.Detection.Reload
import IdlScout.Proofs.Detection.Record
import IdlScout.Proofs.Files.Extension
import IdlScout.Proofs.Files.Respelling
import IdlScout.Proofs.Emission.Opening
import IdlScout.Proofs.Emission.Claims
import IdlScout.Proofs.Emission.Sparing
import IdlScout.Proofs.Emission.Preservation
import IdlScout.Proofs.Streams.HandOut
import IdlScout.Proofs.Child.Ending
import IdlScout.Proofs.Child.Interruption
import IdlScout.Proofs.Idl.Arrays
import IdlScout.Proofs.Idl.Passage
import IdlScout.Proofs.Idl.Retention
import IdlScout.Proofs.Idl.Inlining
import IdlScout.Proofs.Idl.Renaming
import IdlScout.Proofs.Idl.MemberType
import IdlScout.Proofs.Idl.References
import IdlScout.Proofs.Idl.Quotation
import IdlScout.Proofs.Idl.Verdict
import IdlScout.Proofs.Text.Firsts
import IdlScout.Proofs.Idl.Inclusion
import IdlScout.Proofs.Idl.Declarator
import IdlScout.Proofs.Idl.Bounds
import IdlScout.Proofs.Text.ByteOrder
import IdlScout.Proofs.Json.TextMap
import IdlScout.Proofs.Emission.TopicMap
import IdlScout.Proofs.Session.ChildOptions
import IdlScout.Proofs.Idl.InclusionPaths
import IdlScout.Proofs.Idl.InclusionLine
import IdlScout.Proofs.Idl.Margins
import IdlScout.Proofs.Emission.SplitInclusions
import IdlScout.Proofs.Child.Writing
import IdlScout.Proofs.Child.FeedWriting
import IdlScout.Proofs.Files.Components
import IdlScout.Proofs.Files.Lookup
import IdlScout.Proofs.Files.Alike
import IdlScout.Proofs.Files.RawPath
import IdlScout.Proofs.Discovery.Walk
import IdlScout.Proofs.Discovery.MessageFiles
import IdlScout.Proofs.Discovery.MessageNames
import IdlScout.Proofs.Discovery.Executable
import IdlScout.Proofs.Settings.Merging
import IdlScout.Proofs.Text.Numeral
import IdlScout.Proofs.Settings.Acceptance
import IdlScout.Proofs.Session.Exchanges
import IdlScout.Proofs.Files.SetAside
import IdlScout.Proofs.Emission.TextPaths
import IdlScout.Proofs.Emission.TopicsFile
import IdlScout.Proofs.CommandLine.TopicsFile
import IdlScout.Proofs.CommandLine.TimeLimit
import IdlScout.Proofs.Detection.Form
