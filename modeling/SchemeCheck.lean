import SchemeCheck.Record.Plan
import SchemeCheck.CommandLine.Call
import SchemeCheck.Session.Item
import SchemeCheck.Main
import SchemeCheck.Session.Arguments
import SchemeCheck.Session.Ini
import SchemeCheck.Session.KnownOptions
import SchemeCheck.Session.Layout
import SchemeCheck.Session.Start
import SchemeCheck.Proofs.Text.Rewriting
import SchemeCheck.Proofs.Report
import SchemeCheck.Proofs.Scheme.Reading
import SchemeCheck.Proofs.Verbatim
import SchemeCheck.Proofs.Verdict
import SchemeCheck.Proofs.FileSystem.Frame
import SchemeCheck.Proofs.Fixture.Confinement
import SchemeCheck.Proofs.Scheme.Exchange
import SchemeCheck.Proofs.Scheme.Uniform
import SchemeCheck.Proofs.Scheme.Resolution
import SchemeCheck.Proofs.Staging
import SchemeCheck.Proofs.LineEnds
import SchemeCheck.Proofs.Attachment
import SchemeCheck.Proofs.Scheme.Interleaving
import SchemeCheck.Proofs.Scheme.Remarks
import SchemeCheck.Proofs.Record.Plan
import SchemeCheck.Proofs.Scheme.Grammar
import SchemeCheck.Proofs.Fixture.Contents
import SchemeCheck.Proofs.Encoding.Utf8
import SchemeCheck.Proofs.Execution.Building
import SchemeCheck.Proofs.Echo
import SchemeCheck.Proofs.Scheme.Overflow
import SchemeCheck.Proofs.CommandLine.ExitCode
import SchemeCheck.Proofs.Scheme.Atomicity
import SchemeCheck.Proofs.FileSystem.Agreement
import SchemeCheck.Proofs.Fixture.Lexical
import SchemeCheck.Proofs.Fixture.Agreement
import SchemeCheck.Proofs.Isolation
import SchemeCheck.Proofs.Session.Anchoring
import SchemeCheck.Proofs.FileSystem.Storing
import SchemeCheck.Proofs.Fixture.Order
import SchemeCheck.Proofs.Scheme.Segmentation
import SchemeCheck.Proofs.Encoding.Lossless
import SchemeCheck.Proofs.Execution.Lossless
import SchemeCheck.Proofs.Execution.LastWord
import SchemeCheck.Proofs.Execution.Directory
import SchemeCheck.Proofs.Diff.Hunks
import SchemeCheck.Proofs.Diff.Patch
import SchemeCheck.Proofs.Diff.Message
import SchemeCheck.Proofs.Scheme.Payload
import SchemeCheck.Proofs.Scheme.History
