import PageScript.Act
import PageScript.Address
import PageScript.Agent.Basic
import PageScript.Agent.Prompts
import PageScript.Argument
import PageScript.Browser.Command
import PageScript.Browser.Locator
import PageScript.Browser.Session
import PageScript.CommandLine.Help
import PageScript.CommandLine.Leftover
import PageScript.CommandLine.Reader
import PageScript.CommandLine.Token
import PageScript.Failure
import PageScript.File.Path
import PageScript.File.Tree
import PageScript.Json.Basic
import PageScript.Json.Printer
import PageScript.Json.Reader
import PageScript.Json.Token
import PageScript.Main
import PageScript.Model.Client
import PageScript.Model.Exchange
import PageScript.Model.Plan
import PageScript.Model.Reply
import PageScript.Model.Verdict
import PageScript.Number.Binary
import PageScript.Number.Fixed
import PageScript.Number.Layout
import PageScript.Number.Reader
import PageScript.Number.Shortest
import PageScript.Options
import PageScript.Page.Observation
import PageScript.Page.Operation
import PageScript.Page.Perception
import PageScript.Page.Time
import PageScript.Phase
import PageScript.Preferences
import PageScript.Proofs.Act
import PageScript.Proofs.Address
import PageScript.Proofs.Agent.Absence
import PageScript.Proofs.Agent.Conduct
import PageScript.Proofs.Agent.Judgement
import PageScript.Proofs.Agent.Steps
import PageScript.Proofs.Browser.Attempt
import PageScript.Proofs.Browser.FirstFailure
import PageScript.Proofs.Browser.Lifetime
import PageScript.Proofs.Browser.Trail
import PageScript.Proofs.CommandLine.Ending
import PageScript.Proofs.CommandLine.Rejection
import PageScript.Proofs.CommandLine.Scan
import PageScript.Proofs.CommandLine.Text
import PageScript.Proofs.Except
import PageScript.Proofs.File.Directories
import PageScript.Proofs.File.History
import PageScript.Proofs.File.PlainPath
import PageScript.Proofs.File.Save
import PageScript.Proofs.Json.Ascii
import PageScript.Proofs.Json.Block
import PageScript.Proofs.Json.Lexemes
import PageScript.Proofs.Json.Lines
import PageScript.Proofs.Json.Numeral
import PageScript.Proofs.Json.Printing
import PageScript.Proofs.Json.Spelling
import PageScript.Proofs.Json.TextLiteral
import PageScript.Proofs.Json.Word
import PageScript.Proofs.Lockstep
import PageScript.Proofs.MadeOf
import PageScript.Proofs.Model.Envelope
import PageScript.Proofs.Model.FirstBlock
import PageScript.Proofs.Model.PlanGrammar
import PageScript.Proofs.Model.Reply
import PageScript.Proofs.Model.Retries
import PageScript.Proofs.Model.SoundReply
import PageScript.Proofs.Model.Unfence
import PageScript.Proofs.Model.VerdictGrammar
import PageScript.Proofs.Number.Defined
import PageScript.Proofs.Number.Exact
import PageScript.Proofs.Number.Spelling
import PageScript.Proofs.Page.Content
import PageScript.Proofs.Page.Effect
import PageScript.Proofs.Page.Handing
import PageScript.Proofs.Page.Prompt
import PageScript.Proofs.Page.Tolerance
import PageScript.Proofs.Page.Trail
import PageScript.Proofs.Page.View
import PageScript.Proofs.Preferences.Grammar
import PageScript.Proofs.Preferences.Oversize
import PageScript.Proofs.Preferences.Refusal
import PageScript.Proofs.Report.Escape
import PageScript.Proofs.Report.Marks
import PageScript.Proofs.Report.Notice
import PageScript.Proofs.Report.Reading
import PageScript.Proofs.Report.Record
import PageScript.Proofs.Report.Showing
import PageScript.Proofs.Report.Tenure
import PageScript.Proofs.Run.Closing
import PageScript.Proofs.Run.Conduct
import PageScript.Proofs.Run.Delivery
import PageScript.Proofs.Run.Launching
import PageScript.Proofs.Run.Publication
import PageScript.Proofs.Run.Refusal
import PageScript.Proofs.Run.Secondary
import PageScript.Proofs.Run.Stages
import PageScript.Proofs.Run.Verdict
import PageScript.Proofs.Schema.Stability
import PageScript.Proofs.Text.Lowercase
import PageScript.Proofs.Text.Trim
import PageScript.Proofs.Text.Words
import PageScript.Proofs.Value.Coercion
import PageScript.Proofs.Value.Printed
import PageScript.Proofs.Walk.Answer
import PageScript.Proofs.Walk.Archive
import PageScript.Proofs.Walk.Concatenation
import PageScript.Proofs.Walk.Course
import PageScript.Proofs.Walk.Failing
import PageScript.Proofs.Walk.Log
import PageScript.Proofs.Walk.LongestPrefix
import PageScript.Proofs.Walk.Notices
import PageScript.Proofs.Walk.Pairing
import PageScript.Proofs.Walk.Phases
import PageScript.Proofs.Walk.Repetition
import PageScript.Rehearsal
import PageScript.Report.Basic
import PageScript.Report.Notice
import PageScript.Report.Page
import PageScript.Report.Publish
import PageScript.Report.Summary
import PageScript.Run
import PageScript.Schema.Check
import PageScript.Schema.Problem
import PageScript.Text.Blank
import PageScript.Text.DecimalDigit
import PageScript.Text.Lowercase
import PageScript.Text.Printable
import PageScript.Text.Quoted
import PageScript.Value.Basic
import PageScript.Value.Coercion
import PageScript.Walk.Answer
import PageScript.Walk.Basic
import PageScript.Walk.Dispatch
import PageScript.Walk.State
