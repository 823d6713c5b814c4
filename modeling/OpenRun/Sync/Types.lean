import OpenRun.Go.Time

/-!
# The records of the sync subsystem

The data model of `types.SyncEntry` and of the apply and reload responses that a sync job
reads and writes. A sync entry is an operator-controlled `SyncMetadata` block and a
`SyncJobStatus` that only the orchestrator rewrites; the status carries the coarse state
(`"Enabled"`, `"Failing"`, `"Disabled"`), the consecutive failure count and the snapshot of
the last apply response, whose `filteredApps` is the app set that the next skipped run
reloads.

Only the fields that the modelled functions read or write are kept. The apply response's
create, update and skipped results and the reload result's skipped results are passed
through unread and are left out, as are the fields of an approve result.
-/

set_option autoImplicit false

namespace OpenRun.Sync

open Go

/-- `types.AppPathDomain`: an app is named by its path and domain. -/
structure AppPathDomain where
  path : String
  domain : String
deriving DecidableEq, Repr

/-- `types.ApproveResult`, kept as the app it is about. -/
structure ApproveResult where
  appPathDomain : AppPathDomain
deriving DecidableEq, Repr

/-- `types.AppReloadResult`: what one `ReloadApp` call reports. -/
structure AppReloadResult where
  reloadResults : List AppPathDomain
  approveResult : Option ApproveResult
  promoteResults : List AppPathDomain
deriving DecidableEq, Repr

/-- `types.AppApplyResponse`: what `Apply` reports, and the snapshot a status keeps. -/
structure AppApplyResponse where
  dryRun : Bool := false
  commitId : String := ""
  skippedApply : Bool := false
  approveResults : List ApproveResult := []
  promoteResults : List AppPathDomain := []
  reloadResults : List AppPathDomain := []
  filteredApps : List AppPathDomain := []
deriving DecidableEq, Repr

/-- `types.AppEntry`, with the fields a sync job hands to `ReloadApp`. -/
structure AppEntry where
  appPathDomain : AppPathDomain
  /-- `Metadata.VersionMetadata.GitBranch` -/
  gitBranch : String
  /-- `Settings.GitAuthName` -/
  gitAuthName : String
deriving DecidableEq, Repr

/-- `types.SyncMetadata`: the operator-controlled policy of a sync entry. -/
structure SyncMetadata where
  approve : Bool := false
  promote : Bool := false
  reload : String := ""
  gitBranch : String := ""
  gitAuth : String := ""
  clobber : Bool := false
  forceReload : Bool := false
  webhookUrl : String := ""
  webhookSecret : String := ""
  scheduleFrequency : GoInt := 0
deriving DecidableEq, Repr

/-- `types.SyncJobStatus`: what the last run of an entry left behind. -/
structure SyncJobStatus where
  lastExecutionTime : Time := Time.zero
  isApply : Bool := false
  state : String := ""
  error : String := ""
  commitId : String := ""
  failureCount : GoInt := 0
  applyResponse : AppApplyResponse := {}
deriving DecidableEq, Repr

/-- `types.SyncEntry`. -/
structure SyncEntry where
  id : String
  path : String
  isScheduled : Bool
  userId : String
  metadata : SyncMetadata
  status : SyncJobStatus := {}
deriving DecidableEq, Repr

/-- The part of `types.SystemConfig` the sync subsystem reads. -/
structure SystemConfig where
  maxSyncFailureCount : GoInt
  defaultScheduleMins : GoInt
deriving DecidableEq, Repr

/-- `types.AppReloadOptionMatched`: a skipped apply reloads the apps of the last run. -/
def appReloadOptionMatched : String := "matched"

/-- `types.SyncCreateResponse`. -/
structure SyncCreateResponse where
  dryRun : Bool
  id : String
  webhookUrl : String
  webhookSecret : String
  scheduleFrequency : GoInt
  syncJobStatus : SyncJobStatus
deriving DecidableEq, Repr

/-- `types.SyncDeleteResponse`. -/
structure SyncDeleteResponse where
  dryRun : Bool
  id : String
deriving DecidableEq, Repr

end OpenRun.Sync
