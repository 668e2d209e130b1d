import SiteBoot.Main
import SiteBoot.Startup.Rehearsal
import SiteBoot.Proofs.Startup.Calls
import SiteBoot.Proofs.Startup.Schedule
import SiteBoot.Proofs.Startup.Snapshot
import SiteBoot.Proofs.Startup.Visits
import SiteBoot.Proofs.Startup.History
import SiteBoot.Proofs.Startup.Initialized
import SiteBoot.Proofs.Startup.Launch
import SiteBoot.Proofs.EnvFile.Scanning
import SiteBoot.Proofs.EnvFile.Template
import SiteBoot.Proofs.EnvFile.Overlay
import SiteBoot.Proofs.EnvFile.Source
import SiteBoot.Proofs.Toml.Grammar
import SiteBoot.Proofs.Settings.Layers
import SiteBoot.Proofs.Startup.Log
import SiteBoot.Proofs.Program.ExitCode
import SiteBoot.Proofs.EnvFile.Word
import SiteBoot.Proofs.EnvFile.Comment
import SiteBoot.Proofs.EnvFile.Concatenation
import SiteBoot.Proofs.EnvFile.SingleQuotes
import SiteBoot.Proofs.EnvFile.Unmarked
import SiteBoot.Proofs.EnvFile.LineByLine
import SiteBoot.Proofs.EnvFile.FinalNewline
import SiteBoot.Proofs.EnvFile.Guarded
import SiteBoot.Proofs.EnvFile.Agreement
import SiteBoot.Proofs.EnvFile.Hiding
import SiteBoot.Proofs.EnvFile.Idempotence
import SiteBoot.Proofs.EnvFile.Noise
import SiteBoot.Proofs.Task.Output
import SiteBoot.Proofs.CommandLine.Rendering
import SiteBoot.Proofs.EnvFile.LineEndings
import SiteBoot.Proofs.LogFilter.Directives
import SiteBoot.Proofs.Command.Line
