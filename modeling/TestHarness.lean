import TestHarness.CommandLine
import TestHarness.Inspect
import TestHarness.Machine
import TestHarness.Proofs.Tally
import TestHarness.Proofs.Report
import TestHarness.Proofs.Listing
import TestHarness.Proofs.Pass.Turns
import TestHarness.Proofs.Pass.Outcome
import TestHarness.Proofs.Pass.Requests
import TestHarness.Proofs.Words.Grammar
import TestHarness.Proofs.Pass.Diagnostics
import TestHarness.Proofs.Pass.ExitCode
import TestHarness.Proofs.CommandLine.Finish
import TestHarness.Proofs.Pass.Errors
import TestHarness.Proofs.Pass.Influence
import TestHarness.Proofs.Pass.Repetition
import TestHarness.Proofs.Pass.Order
import TestHarness.Proofs.Words.Quoting
import TestHarness.Proofs.Words.Joining
import TestHarness.Proofs.Words.Unfinished
import TestHarness.Proofs.Words.Octets
import TestHarness.Proofs.Text.Division
import TestHarness.Proofs.Text.Literal
import TestHarness.Proofs.Text.Ascii
import TestHarness.Proofs.Text.Decoding
import TestHarness.Proofs.Path
import TestHarness.Proofs.Inspect
import TestHarness.Proofs.Pass.Spelling
import TestHarness.Proofs.Pass.Alike
import TestHarness.Proofs.Pass.Paint
import TestHarness.Proofs.CommandLine.Protocol
import TestHarness.Proofs.Report.Reading
import TestHarness.Proofs.Pass.LineBreaks
import TestHarness.Proofs.Pass.Refusals
import TestHarness.Proofs.Path.Entry
import TestHarness.Proofs.Tally.Equality
import TestHarness.Proofs.Pass.Entries
import TestHarness.Proofs.Path.Names
import TestHarness.Proofs.Path.Normal
import TestHarness.Proofs.Text.Subparts
import TestHarness.Proofs.Pass.EntryText
