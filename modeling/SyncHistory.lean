import SyncHistory.Main
import SyncHistory.Memory.Session
import SyncHistory.Proofs.Cursor
import SyncHistory.Proofs.Hydration
import SyncHistory.Proofs.Paging
import SyncHistory.Proofs.Refinement
import SyncHistory.Proofs.ListingRows
import SyncHistory.Proofs.AttemptInfo
import SyncHistory.Proofs.CheckedConfigurations
import SyncHistory.Proofs.BadRequest
import SyncHistory.Proofs.StoredConnectors
import SyncHistory.Proofs.QueryCount
import SyncHistory.Proofs.ReadOnly
import SyncHistory.Proofs.RunningSyncs
import SyncHistory.Proofs.LatestSyncs
import SyncHistory.Proofs.Mirror
import SyncHistory.Proofs.Placeholders
import SyncHistory.Proofs.SyncProgress
import SyncHistory.Proofs.Letters
import SyncHistory.Proofs.FirstFault
import SyncHistory.Batch
import SyncHistory.Proofs.Batch
import SyncHistory.Proofs.AttemptRows
import SyncHistory.Proofs.AttachedAttempts
import SyncHistory.Proofs.LogTail
import SyncHistory.Proofs.StreamModes
import SyncHistory.Proofs.FilterPartition
import SyncHistory.Proofs.CursorLimit
import SyncHistory.Proofs.Secrets
import SyncHistory.Proofs.Calendar
import SyncHistory.Proofs.UuidText
import SyncHistory.Proofs.InstantText
import SyncHistory.Proofs.JsonText
import SyncHistory.Proofs.RecordFormats
