import EnvAudit.EnvFile.Reader
import EnvAudit.EnvFile.Fix
import EnvAudit.EnvFile.Example
import EnvAudit.EnvFile.Files
import EnvAudit.Secret.Finding
import EnvAudit.Signature.Bundled
import EnvAudit.Signature.Reader
import EnvAudit.History.Scan
import EnvAudit.History.GitLog
import EnvAudit.Schema.Reader
import EnvAudit.Schema.Check
import EnvAudit.Schema.Files
import EnvAudit.Settings.Store
import EnvAudit.Hook.Lifecycle
import EnvAudit.Hook.Protect
import EnvAudit.Command.Line
import EnvAudit.Main
import EnvAudit.Proofs.Text.Strip
import EnvAudit.Proofs.Text.Split
import EnvAudit.Proofs.Walk
import EnvAudit.Proofs.EnvFile.Grammar
import EnvAudit.Proofs.EnvFile.Reading
import EnvAudit.Proofs.EnvFile.FixedLine
import EnvAudit.Proofs.EnvFile.FixedValue
import EnvAudit.Proofs.Text.Classes
import EnvAudit.Proofs.EnvFile.FixMeaning
import EnvAudit.Proofs.History.Findings
import EnvAudit.Proofs.History.Printed
import EnvAudit.Proofs.EnvFile.Settled
import EnvAudit.Proofs.EnvFile.Written
import EnvAudit.Proofs.EnvFile.WrittenBack
import EnvAudit.Proofs.EnvFile.ExampleMeaning
import EnvAudit.Proofs.Pattern.Language
import EnvAudit.Proofs.EnvFile.ExampleSecrets
import EnvAudit.Proofs.EnvFile.ExampleShown
import EnvAudit.Proofs.Pattern.Occurrence
import EnvAudit.Proofs.Signature.Rank
import EnvAudit.Proofs.Signature.Context
import EnvAudit.Proofs.History.AddedText
import EnvAudit.Proofs.Text.Utf8
import EnvAudit.Proofs.World.Session
import EnvAudit.Proofs.History.Truncated
import EnvAudit.Proofs.Text.Decimal
import EnvAudit.Proofs.Json.Token
import EnvAudit.Proofs.Json.Value
import EnvAudit.Proofs.Json.RoundTrip
import EnvAudit.Proofs.Json.Grammar
import EnvAudit.Proofs.Json.Reading
import EnvAudit.Proofs.Json.Accepted
import EnvAudit.Proofs.World.FileTree
import EnvAudit.Proofs.Settings.UserFile
import EnvAudit.Proofs.Settings.Coercion
import EnvAudit.Proofs.Settings.Overrides
import EnvAudit.Proofs.Settings.Layers
import EnvAudit.Proofs.Settings.Types
import EnvAudit.Proofs.Settings.Saved
import EnvAudit.Proofs.Settings.Corrupted
import EnvAudit.Proofs.Settings.Calls
import EnvAudit.Proofs.Text.Kept
import EnvAudit.Proofs.EnvFile.Backup
import EnvAudit.Proofs.Document.Value
import EnvAudit.Proofs.Schema.Violations
import EnvAudit.Proofs.Schema.Broken
import EnvAudit.Proofs.Schema.Shape
import EnvAudit.Proofs.Schema.Parts
import EnvAudit.Proofs.Schema.Accepted
import EnvAudit.Proofs.Signature.Loading
import EnvAudit.Proofs.Command.Output
import EnvAudit.Proofs.Hook.Gate
import EnvAudit.Proofs.Command.Line
import EnvAudit.Proofs.Text.PrintedPath
import EnvAudit.Proofs.Hook.StagedPaths
import EnvAudit.Proofs.Text.Mark
import EnvAudit.Proofs.Hook.Commands
import EnvAudit.Proofs.Hook.Lifecycle
import EnvAudit.Proofs.Command.CheckSecrets
import EnvAudit.Proofs.Command.Masked
import EnvAudit.Proofs.Command.ScanHistory
import EnvAudit.Proofs.Secret.Detection
import EnvAudit.Proofs.EnvFile.EditScript
import EnvAudit.Proofs.Text.ReadBack
import EnvAudit.Proofs.Text.Terminators
import EnvAudit.Proofs.EnvFile.Parts
import EnvAudit.Proofs.EnvFile.FixedAgain
import EnvAudit.Proofs.History.Running
import EnvAudit.Proofs.History.Origin
import EnvAudit.Proofs.History.Sections
import EnvAudit.Proofs.Command.GenerateExample
import EnvAudit.Proofs.Log.Configured
