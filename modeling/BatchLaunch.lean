import BatchLaunch.Main
import BatchLaunch.Proofs.CommandLine.Meaning
import BatchLaunch.Proofs.CommandLine.Modes
import BatchLaunch.Proofs.Config.Described
import BatchLaunch.Proofs.Config.FirstFlaw
import BatchLaunch.Proofs.Config.Reading
import BatchLaunch.Proofs.Config.Selection
import BatchLaunch.Proofs.DryRun.Reading
import BatchLaunch.Proofs.Job.Command
import BatchLaunch.Proofs.Job.Spelling
import BatchLaunch.Proofs.Launch.Checked
import BatchLaunch.Proofs.Launch.Leftovers
import BatchLaunch.Proofs.Launch.Messages
import BatchLaunch.Proofs.Run.Frame
import BatchLaunch.Proofs.Run.Parts
import BatchLaunch.Proofs.Run.Status
import BatchLaunch.Proofs.Session.Logs
import BatchLaunch.Proofs.ShellText.Command
