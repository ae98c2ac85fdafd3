import SafeDelete.Hook.Callback
import SafeDelete.Main
import SafeDelete.Proofs.Deletion.Joining
import SafeDelete.Proofs.Deletion.Survivors
import SafeDelete.Proofs.Shell.Cutting
import SafeDelete.Proofs.Shell.Quoting
import SafeDelete.Proofs.Shell.Trimming
import SafeDelete.Regex.Property
import SafeDelete.Text.CharName
import SafeDelete.Proofs.Files.Path
import SafeDelete.Proofs.Files.Lookup
import SafeDelete.Proofs.Files.Reach
import SafeDelete.Proofs.Files.Growth
import SafeDelete.Proofs.Trash.FreeName
import SafeDelete.Proofs.Trash.Stages
import SafeDelete.Proofs.Trash.Relocation
import SafeDelete.Proofs.Files.Writing
import SafeDelete.Proofs.Trash.Record
import SafeDelete.Proofs.Trash.Failure
import SafeDelete.Proofs.Files.Normal
import SafeDelete.Proofs.Trash.Delivery
import SafeDelete.Proofs.Trash.Naming
import SafeDelete.Proofs.Trash.PureMove
import SafeDelete.Proofs.Text.Percent
import SafeDelete.Proofs.Trash.Pairing
import SafeDelete.Proofs.Config.Load
import SafeDelete.Proofs.Hook.FailSoft
import SafeDelete.Proofs.Hook.DryRun
import SafeDelete.Proofs.Hook.Denial
import SafeDelete.Proofs.Trash.Arguments
import SafeDelete.Proofs.Trash.Attempts
import SafeDelete.Proofs.Files.Directories
import SafeDelete.Proofs.Host.Logs
import SafeDelete.Proofs.Files.Regular
import SafeDelete.Proofs.Host.Log
import SafeDelete.Proofs.Policy.Agreement
import SafeDelete.Proofs.Policy.Prefixed
import SafeDelete.Proofs.Deletion.Spelling
import SafeDelete.Proofs.Deletion.Insertion
import SafeDelete.Proofs.Hook.Frame
import SafeDelete.Proofs.Hook.Expansion
import SafeDelete.Proofs.Config.Warnings
import SafeDelete.Proofs.Config.Precedence
import SafeDelete.Proofs.Trash.Reading
