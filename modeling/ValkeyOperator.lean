import ValkeyOperator.Runs
import ValkeyOperator.MergePatch
import ValkeyOperator.TextScan
import ValkeyOperator.Selection
import ValkeyOperator.Filling
import ValkeyOperator.ClusterObject
import ValkeyOperator.ClusterText
import ValkeyOperator.Bootstrap
import ValkeyOperator.Topology
import ValkeyOperator.StaleNodes
import ValkeyOperator.Health
import ValkeyOperator.ShardStats
import ValkeyOperator.Acl
import ValkeyOperator.AclTable
import ValkeyOperator.ClusterSafe
import ValkeyOperator.Recovery
import ValkeyOperator.RecoveryRuns
import ValkeyOperator.CrashTimer
import ValkeyOperator.ValkeyConf
import ValkeyOperator.AclText
import ValkeyOperator.Repair
import ValkeyOperator.TopologySet
import ValkeyOperator.NodesText
import ValkeyOperator.Orders
import ValkeyOperator.Picking
import ValkeyOperator.FlagNames
import ValkeyOperator.NodeState
import ValkeyOperator.SlotStats
import ValkeyOperator.NodeReady
import ValkeyOperator.FieldReaders
import ValkeyOperator.RepairViews
import ValkeyOperator.Balance
import ValkeyOperator.TopologyEffect
import ValkeyOperator.Failover
import ValkeyOperator.Election
import ValkeyOperator.NodeReaders
import ValkeyOperator.Scoring
import ValkeyOperator.Drain
import ValkeyOperator.Reconcile
import ValkeyOperator.StatusReport
import ValkeyOperator.InfoArrival
import ValkeyOperator.Commands
import ValkeyOperator.PodLabels
import ValkeyOperator.Carried
import ValkeyOperator.Resets
import ValkeyOperator.Cooldown
import ValkeyOperator.GossipTimer
import ValkeyOperator.StatusFlow
import ValkeyOperator.Nominal
import ValkeyOperator.ConditionHistory
import ValkeyOperator.FieldLookup
import ValkeyOperator.SlotBuffer
import ValkeyOperator.Handover
import ValkeyOperator.Gate
import ValkeyOperator.SecretWatch
import ValkeyOperator.Jobs
import ValkeyOperator.Rollout
import ValkeyOperator.Unready
import ValkeyOperator.NoAccounts
import ValkeyOperator.OperatorAccount
import ValkeyOperator.SlotReport
import ValkeyOperator.BootstrapScript
import ValkeyOperator.Placement
