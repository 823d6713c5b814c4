import OpenRun.Go.Time
import OpenRun.Sync.Types
import OpenRun.Sync.Store
import OpenRun.Sync.Job
import OpenRun.Sync.Api
import OpenRun.Sync.Log
import OpenRun.Sync.Phases
import OpenRun.Sync.Transition
import OpenRun.Sync.Persistence
import OpenRun.Sync.Success
import OpenRun.Sync.Scheduler
import OpenRun.Sync.SkipPath
import OpenRun.Sync.Idempotence
import OpenRun.Sync.ApplyResponse
import OpenRun.Sync.System
import OpenRun.Sync.Breaker
import OpenRun.RepoCache.Basic
import OpenRun.RepoCache.Ops
import OpenRun.RepoCache.Invariant
import OpenRun.RepoCache.UnusedPath
import OpenRun.Go.Strings
import OpenRun.Container.Command
import OpenRun.Container.Listing
import OpenRun.Container.Names
import OpenRun.Container.BuildLock
import OpenRun.Container.Run
import OpenRun.Dev.AppDev
import OpenRun.App.Handler
import OpenRun.App.Audit
