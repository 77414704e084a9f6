import WorkloadAgent.ServiceCommunication
import WorkloadAgent.Discovery.FanOut
import WorkloadAgent.Discovery.Rounds
import WorkloadAgent.Discovery.Delivery
import WorkloadAgent.Oracle.Inbound
import WorkloadAgent.Oracle.Service
import WorkloadAgent.Oracle.Cancellation
import WorkloadAgent.Oracle.Launch
import WorkloadAgent.Oracle.History
import WorkloadAgent.Oracle.Daemon
import WorkloadAgent.WorkloadManager.Override
import WorkloadAgent.WorkloadManager.OverrideCalls
import WorkloadAgent.WorkloadManager.OverrideGroups
import WorkloadAgent.WorkloadManager.OverrideFormat
import WorkloadAgent.WorkloadManager.Shipper
import WorkloadAgent.WorkloadManager.ShipperJoin
import WorkloadAgent.WorkloadManager.Ticks
import WorkloadAgent.WorkloadManager.ShipperProgress
import WorkloadAgent.WorkloadManager.Shipments
