import Retimer.Prog
import Retimer.TwoRuns
import Retimer.Bytes
import Retimer.Build
import Retimer.Sys
import Retimer.TableCrc
import Retimer.Scan
import Retimer.Crc32
import Retimer.SerialCrc
import Retimer.CrcSpec
import Retimer.Composite
import Retimer.CompositeLayout
import Retimer.CompositeSound
import Retimer.CrcRegions
import Retimer.CompositeEncode
import Retimer.CompositeCorrupt
import Retimer.Staging
import Retimer.FwUpdate
import Retimer.UpdateMain
import Retimer.ArgumentChecks
import Retimer.HashService
import Retimer.Fpga
import Retimer.Requests
import Retimer.StagingSpec
import Retimer.UpdateRun
import Retimer.Triggers
import Retimer.TempFile
import Retimer.ReadBack
import Retimer.Attempts
import Retimer.PageCopy
import Retimer.PartialTransfers
import Retimer.StagingPaths
import Retimer.SilentTimeout
import Retimer.Retry
import Retimer.Reports
import Retimer.OperationRun
import Retimer.Outcomes
import Retimer.Diagnostics
import Retimer.Isolation
import Retimer.FirstError
import Retimer.BlankReads
import Retimer.Packaging
import Retimer.ExitStatus
import Retimer.ReadEngine
import Retimer.StatusCodes
import Retimer.ReadAttempts
import Retimer.PublishedHash
import Retimer.DigestText
import Retimer.HashExits
import Retimer.Responses
import Retimer.HistoryFree
import Retimer.Sharing
import Retimer.RetimerApp
import Retimer.SkuFormat
import Retimer.Keyed
import Retimer.RtManager
import Retimer.Inventory
import Retimer.Descriptors
import Retimer.Fields
import Retimer.CompositeFormat
import Retimer.Hidden
import Retimer.Flash
import Retimer.Budget
import Retimer.BoundedWork
import Retimer.Installation
import Retimer.WorkingService
import Retimer.Footprint
import Retimer.Handlers
import Retimer.RetimerBus
import Retimer.SetOrigin
import Retimer.Notices
import Retimer.SkuMirror
import Retimer.HashBus
import Retimer.HashClients
import Retimer.MainDescriptors
import Retimer.EventLog
