import EventMessages.Build.Pipeline
import EventMessages.Build.Report
import EventMessages.Build.Step
import EventMessages.CommandLine.Build
import EventMessages.CommandLine.Grammar
import EventMessages.CommandLine.Translate
import EventMessages.CommandLine.Verdict
import EventMessages.Digest
import EventMessages.Digest.Sha256
import EventMessages.Failure
import EventMessages.FileSystem.Access
import EventMessages.FileSystem.Basic
import EventMessages.FileSystem.Fault
import EventMessages.Header.Constant
import EventMessages.Header.ConstantsFile
import EventMessages.Header.Define
import EventMessages.Main
import EventMessages.Path
import EventMessages.Project
import EventMessages.ProjectFile
import EventMessages.Proofs.Build.Attempts
import EventMessages.Proofs.Build.Branches
import EventMessages.Proofs.Build.Calls
import EventMessages.Proofs.Build.Commuting
import EventMessages.Proofs.Build.CompiledHeader
import EventMessages.Proofs.Build.Gate
import EventMessages.Proofs.Build.History
import EventMessages.Proofs.Build.Idempotence
import EventMessages.Proofs.Build.Incremental
import EventMessages.Proofs.Build.Influence
import EventMessages.Proofs.Build.Memory
import EventMessages.Proofs.Build.Outcome
import EventMessages.Proofs.Build.Places
import EventMessages.Proofs.Build.StaleHeader
import EventMessages.Proofs.CommandLine.Reporting
import EventMessages.Proofs.CommandLine.Retranslation
import EventMessages.Proofs.CommandLine.Surroundings
import EventMessages.Proofs.Digest
import EventMessages.Proofs.Digest.Standard
import EventMessages.Proofs.Digest.Streaming
import EventMessages.Proofs.FileSystem.Contents
import EventMessages.Proofs.FileSystem.Opening
import EventMessages.Proofs.FileSystem.Parent
import EventMessages.Proofs.FileSystem.Reading
import EventMessages.Proofs.FileSystem.Way
import EventMessages.Proofs.Frame
import EventMessages.Proofs.Header.Define
import EventMessages.Proofs.Header.Laziness
import EventMessages.Proofs.Header.Lines
import EventMessages.Proofs.Header.ReadBack
import EventMessages.Proofs.Header.Transcript
import EventMessages.Proofs.Path
import EventMessages.Proofs.Project
import EventMessages.Proofs.ProjectFile
import EventMessages.Proofs.ProjectFile.Shape
import EventMessages.Proofs.ProjectFile.Written
import EventMessages.Proofs.Stamp
import EventMessages.Proofs.Text.Lines
import EventMessages.Proofs.Text.Malformed
import EventMessages.Proofs.Text.Occurrence
import EventMessages.Proofs.Text.Pattern
import EventMessages.Proofs.Text.Utf8
import EventMessages.Proofs.Translation
import EventMessages.Proofs.Yaml.Filling
import EventMessages.Proofs.Yaml.Node
import EventMessages.Proofs.Yaml.Quoted
import EventMessages.Proofs.Yaml.Section
import EventMessages.Proofs.Yaml.TokenStream
import EventMessages.Settings
import EventMessages.Stamp
import EventMessages.Text.Blank
import EventMessages.Text.Cased
import EventMessages.Text.Decimal
import EventMessages.Text.Lines
import EventMessages.Text.LowerCase
import EventMessages.Text.Occurrence
import EventMessages.Text.Printable
import EventMessages.Text.Quoted
import EventMessages.Text.Utf8
import EventMessages.Tool.Program
import EventMessages.Tool.Run
import EventMessages.Translation
import EventMessages.Yaml.Document
import EventMessages.Yaml.Fault
import EventMessages.Yaml.Filling
import EventMessages.Yaml.Node
import EventMessages.Yaml.Number
import EventMessages.Yaml.Scalar.Block
import EventMessages.Yaml.Scalar.Plain
import EventMessages.Yaml.Scalar.Quoted
import EventMessages.Yaml.Source
import EventMessages.Yaml.Tag
import EventMessages.Yaml.Token
import EventMessages.Yaml.TokenStream
