import KahunaOperator.Lib.Run
import KahunaOperator.Lib.Cover
import KahunaOperator.Lib.Cut
import KahunaOperator.Lib.Versioned
import KahunaOperator.Lib.Scan
import KahunaOperator.Lib.Guarded
import KahunaOperator.Lib.Balance
import KahunaOperator.Lib.Walk
import KahunaOperator.Lib.ShellWords
import KahunaOperator.Lib.Bash
import KahunaOperator.Lib.Mount
import KahunaOperator.Lib.Rounding
import KahunaOperator.Api
import KahunaOperator.Naming
import KahunaOperator.Objects
import KahunaOperator.Client
import KahunaOperator.Membership
import KahunaOperator.Placement
import KahunaOperator.Share
import KahunaOperator.Plan
import KahunaOperator.Roster
import KahunaOperator.Autoscaler
import KahunaOperator.Sampler
import KahunaOperator.StatefulSet
import KahunaOperator.Status
import KahunaOperator.Agreed
import KahunaOperator.PodOrder
import KahunaOperator.Windows
import KahunaOperator.ConstantLoad
import KahunaOperator.MoreLoad
import KahunaOperator.Entrypoint
import KahunaOperator.MemberTable
import KahunaOperator.Arguments
import KahunaOperator.Overrides
import KahunaOperator.Trace
import KahunaOperator.Quoting
import KahunaOperator.Reconcile
import KahunaOperator.Scale
import KahunaOperator.Versions
import KahunaOperator.Cap
import KahunaOperator.StaleRead
import KahunaOperator.Decision
import KahunaOperator.OneSize
import KahunaOperator.BoundEdit
import KahunaOperator.NoPlacement
import KahunaOperator.Removal
import KahunaOperator.Conditions
import KahunaOperator.Traffic
import KahunaOperator.Founding
import KahunaOperator.Latch
import KahunaOperator.Recreate
import KahunaOperator.Sizing
import KahunaOperator.Backup
import KahunaOperator.Chain
import KahunaOperator.Retry
import KahunaOperator.BackupGate
import KahunaOperator.CurrentImage
import KahunaOperator.Progress
import KahunaOperator.ImageTag
import KahunaOperator.BackupClaim
import KahunaOperator.Keystore
import KahunaOperator.BackupPass
import KahunaOperator.Template
import KahunaOperator.Timing
import KahunaOperator.RunBackup
import KahunaOperator.InFlight
import KahunaOperator.Scheduled
import KahunaOperator.ScriptProgram
import KahunaOperator.ScriptRun
import KahunaOperator.Converge
import KahunaOperator.Rollout
import KahunaOperator.StatusAgain
import KahunaOperator.Quiet
import KahunaOperator.Http
import KahunaOperator.Volumes
import KahunaOperator.Deploy
import KahunaOperator.Lib.Api
import KahunaOperator.Provision
import KahunaOperator.Ownership
import KahunaOperator.Parallel
