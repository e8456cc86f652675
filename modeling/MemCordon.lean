import MemCordon.Agent.ActivationHistory
import MemCordon.Agent.AckRecovery
import MemCordon.Agent.FilterPolicy
import MemCordon.Agent.PrivateRuntime
import MemCordon.Agent.ReleaseEvidence
import MemCordon.Agent.RootRecoveryLaw
import MemCordon.Agent.WriterLaneLaw
import MemCordon.Core.FailureDigest
import MemCordon.Core.Quantities
import MemCordon.Core.Report
import MemCordon.Core.RestartRuns
import MemCordon.Core.WindowsCommandLine
import MemCordon.Core.WindowsPe
import MemCordon.Platform.FailedAttempt
import MemCordon.Platform.LinuxPrecedence
import MemCordon.Platform.MacosInventory
import MemCordon.Platform.TokenBuffer
import MemCordon.Platform.WindowsPrecedence
import MemCordon.Foundations.Decimal
