import Lx.Cli.FreePortServiceErrors
import Lx.Cli.JsonDocuments
import Lx.Linux.ReleaseSoundness
import Lx.Linux.ProcessRace
import Lx.Linux.JournalHandover
import Lx.Linux.KillTarget
import Lx.Linux.InetDiagDump
import Lx.Linux.DumpIsolation
import Lx.Tui.Session
import Lx.Application.DashboardPanels
import Lx.Application.ProcessFilters
import Lx.Lib.Interleaving
import Lx.Lib.Reuse
import Lx.Cli.CpuAttribution
import Lx.Cli.Redaction
import Lx.Application.OwnerExits
import Lx.Application.PortInspection
import Lx.Application.InspectService
import Lx.Linux.JournalTimestamps
import Lx.Linux.ProcFsRecords
import Lx.Cli.LogLines
import Lx.Linux.DatagramBounds
import Lx.Linux.DumpConsistency
import Lx.Linux.SocketOwnership
import Lx.Application.FindService
import Lx.Application.RecentLogs
import Lx.Linux.JournalReaders
import Lx.Linux.HostCpuUsage
import Lx.Linux.MemoryInfo
import Lx.Application.DashboardWorker
import Lx.Tui.WorkerThread
import Lx.Linux.ServiceManager
import Lx.Cli.CliMutations
import Lx.Cli.QuietOutput
import Lx.Cli.SecretArguments
import Lx.Cli.ExitCodes
import Lx.Cli.DocumentContents
import Lx.Linux.PortListing
import Lx.Linux.WaitForExit
import Lx.Linux.ProcessListing
