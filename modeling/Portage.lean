import Portage.Action.FreshEvidence
import Portage.Classify.Ordinals
import Portage.Classify.Specific
import Portage.ClusterObjects.MapsOnce
import Portage.ClusterObjects.Order
import Portage.Controller.CatchUp
import Portage.Controller.ClaimSources
import Portage.Controller.Completion
import Portage.Controller.CutoverErrors
import Portage.Controller.CutoverOrder
import Portage.Controller.DestCount
import Portage.Controller.DryRun
import Portage.Controller.Leftovers
import Portage.Controller.Quiesce
import Portage.Controller.ReplicateOrder
import Portage.Controller.ReservedNames
import Portage.Controller.RetryText
import Portage.Controller.SnapshotNames
import Portage.Controller.SourceClients
import Portage.Controller.SteadySpecs
import Portage.Movers.VolSync.FirstSnapshot
import Portage.Movers.VolSync.Identity
import Portage.Movers.VolSync.Paused
import Portage.ObjectStore.Keys
import Portage.Policy.Interleaving
import Portage.Restore.RunInvariant
import Portage.Transform.HealAgreement
import Portage.Workloads.ApplyOrder
import Portage.Workloads.HealNames
import Portage.Workloads.Rehydrate
