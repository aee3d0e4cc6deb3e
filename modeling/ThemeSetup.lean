import ThemeSetup.Main
import ThemeSetup.Proofs.CommandLine.Words
import ThemeSetup.Proofs.Failure
import ThemeSetup.Proofs.HostRoot.Ending
import ThemeSetup.Proofs.HostRoot.Named
import ThemeSetup.Proofs.Install.DryRun
import ThemeSetup.Proofs.Install.Ensure
import ThemeSetup.Proofs.Install.FailedCopy
import ThemeSetup.Proofs.Install.Inputs
import ThemeSetup.Proofs.Install.Reinstall
import ThemeSetup.Proofs.Install.Replace
import ThemeSetup.Proofs.Install.Verdict
import ThemeSetup.Proofs.Launch
import ThemeSetup.Proofs.Package.Arguments
import ThemeSetup.Proofs.Response.Children
import ThemeSetup.Proofs.Tool.Envelope
import ThemeSetup.Proofs.Tool.Gate
import ThemeSetup.Proofs.Tool.Modes
import ThemeSetup.Proofs.Tool.Packing
import ThemeSetup.Proofs.Tool.PassedOn
import ThemeSetup.Proofs.Tool.Plan
import ThemeSetup.Proofs.Tool.Printed
import ThemeSetup.Proofs.Tool.Quiet
import ThemeSetup.Proofs.Tool.Story
import ThemeSetup.Proofs.Tool.Warnings
