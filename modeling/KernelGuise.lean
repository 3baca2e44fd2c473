import KernelGuise.Main
import KernelGuise.Script.Kernel
import KernelGuise.Script.Libc
import KernelGuise.Proofs.Course
import KernelGuise.Proofs.Dialogue
import KernelGuise.Proofs.ReportedName
import KernelGuise.Proofs.ShownName
import KernelGuise.Proofs.HostName
import KernelGuise.Proofs.HostCourse
import KernelGuise.Proofs.Chronicle
import KernelGuise.Proofs.WholeProgram
import KernelGuise.Proofs.Quoting
import KernelGuise.Proofs.LabelComparison
import KernelGuise.Proofs.Noninterference
import KernelGuise.Proofs.Logging
import KernelGuise.Proofs.Ensuring
import KernelGuise.Proofs.CommandLine
import KernelGuise.Proofs.LastSetting
import KernelGuise.Proofs.FailureLine
import KernelGuise.Proofs.StoredNames
import KernelGuise.Proofs.DecidingDirective
