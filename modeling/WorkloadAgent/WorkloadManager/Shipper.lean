import WorkloadAgent.WorkloadManager.Override

/-! Shipping the override metrics to Data Warehouse: createWriteInsightRequest and
SendDataInsight build one WriteInsightAndGetResponse call per WorkloadMetrics;
sendMetricsToDataWarehouse runs each in its own goroutine and joins them with a
WaitGroup; CollectAndSendMetricsToDataWarehouse repeats collect-and-send on every tick
until ctx is done. The service's response and error are only logged, so a call is
modelled by its start and its return. -/
namespace WorkloadAgent.WorkloadManager

/-- `cpb.CloudProperties`, the fields the shipper reads. -/
structure CloudProperties where
  projectId : String
  instanceId : String
  instanceName : String
  region : String
  deriving DecidableEq, Repr

/-- A protobuf getter on a possibly nil `*cpb.CloudProperties`: the empty string on nil. -/
def cloudGet (field : CloudProperties → String) (cp : Option CloudProperties) : String :=
  (cp.map field).getD ""

def getProjectId (cp : Option CloudProperties) : String := cloudGet (·.projectId) cp
def getInstanceId (cp : Option CloudProperties) : String := cloudGet (·.instanceId) cp
def getInstanceName (cp : Option CloudProperties) : String := cloudGet (·.instanceName) cp
def getRegion (cp : Option CloudProperties) : String := cloudGet (·.region) cp

/-- `dwpb.TorsoValidation_WorkloadType`, the values the shipper uses. -/
inductive TorsoWorkloadType where
  | workloadTypeUnspecified
  | oracle
  | mysql
  | redis
  deriving DecidableEq, Repr

/-- The `workloadTypeMap` literal of createWriteInsightRequest. -/
def workloadTypeMap : List (String × TorsoWorkloadType) :=
  [("ORACLE", .oracle), ("MYSQL", .mysql), ("REDIS", .redis),
    ("UNKNOWN", .workloadTypeUnspecified)]

/-- `dwpb.WriteInsightRequest`: the Insight's instance id and its TorsoValidation. -/
structure WriteInsightRequest where
  instanceId : String
  workloadType : TorsoWorkloadType
  validationDetails : StrMap
  projectId : String
  instanceName : String
  agentVersion : String
  deriving DecidableEq, Repr

/-- createWriteInsightRequest; `agentVersion` is `configuration.AgentVersion`. -/
def createWriteInsightRequest (agentVersion : String) (wm : WorkloadMetrics)
    (cp : Option CloudProperties) : WriteInsightRequest where
  instanceId := getInstanceId cp
  workloadType := (workloadTypeMap.lookup wm.workloadType).getD .workloadTypeUnspecified
  validationDetails := wm.metrics
  projectId := getProjectId cp
  instanceName := getInstanceName cp
  agentVersion := agentVersion

/-- The arguments of a WriteInsightAndGetResponse call: project, location and request. -/
structure InsightCall where
  project : String
  location : String
  request : WriteInsightRequest
  deriving DecidableEq, Repr

/-- The call SendDataInsight makes for `wm`. -/
def sendDataInsight (agentVersion : String) (wm : WorkloadMetrics) (cp : Option CloudProperties) :
    InsightCall :=
  ⟨getProjectId cp, getRegion cp, createWriteInsightRequest agentVersion wm cp⟩

/-- `sendMetricsParams` without the service client, which only answers calls. -/
structure SendMetricsParams where
  wm : List WorkloadMetrics
  cp : Option CloudProperties
  deriving DecidableEq, Repr

inductive MainPc where
  /-- The range loop, before `wg.Add(1)` for element `i`. -/
  | range (i : Nat)
  /-- Between `wg.Add(1)` and the `go` statement for element `i`, whose value is `wm`. -/
  | go (i : Nat) (wm : WorkloadMetrics)
  | wait
  | returned
  deriving DecidableEq, Repr

inductive WorkerPc where
  /-- Spawned, SendDataInsight not yet called. -/
  | ready
  /-- Inside WriteInsightAndGetResponse. -/
  | calling
  /-- SendDataInsight has returned; the deferred `wg.Done()` is next. -/
  | sent
  | exited
  /-- `wg.Done()` found the counter at zero: "sync: negative WaitGroup counter". -/
  | panicked
  deriving DecidableEq, Repr

/-- A goroutine `go func(wm WorkloadMetrics) {…}(wm)`, with the value it was passed. -/
structure Worker where
  wm : WorkloadMetrics
  pc : WorkerPc
  deriving DecidableEq, Repr

structure Ship where
  pc : MainPc
  /-- The WaitGroup's counter. -/
  counter : Nat
  /-- The spawned goroutines, in spawn order. -/
  workers : List Worker
  deriving DecidableEq, Repr

def Ship.init : Ship := ⟨.range 0, 0, []⟩

inductive ShipLabel where
  | add
  | spawn (j : Nat) (wm : WorkloadMetrics)
  | rangeEnd
  /-- Goroutine `j` starts its WriteInsightAndGetResponse call. -/
  | call (j : Nat) (c : InsightCall)
  /-- That call returns to goroutine `j`. -/
  | reply (j : Nat)
  | done (j : Nat)
  | negativeCounter (j : Nat)
  /-- `wg.Wait()` returns, and with it sendMetricsToDataWarehouse. -/
  | waited
  deriving DecidableEq, Repr

/-- One step of sendMetricsToDataWarehouse's own goroutine; `none` while `wg.Wait()`
blocks and once it has returned. -/
def sendMetricsStep (params : SendMetricsParams) (s : Ship) : Option (ShipLabel × Ship) :=
  match s.pc with
  | .range i =>
    match params.wm[i]? with
    | some wm => some (.add, { s with pc := .go i wm, counter := s.counter + 1 })
    | none => some (.rangeEnd, { s with pc := .wait })
  | .go i wm =>
    some (.spawn s.workers.length wm,
      { s with pc := .range (i + 1), workers := s.workers ++ [⟨wm, .ready⟩] })
  | .wait => if s.counter = 0 then some (.waited, { s with pc := .returned }) else none
  | .returned => none

/-- One step of goroutine `j`, given the WaitGroup's counter: SendDataInsight's call, its
return, then the deferred `wg.Done()`. Returns the label, the counter and the new pc. -/
def workerStep (agentVersion : String) (cp : Option CloudProperties) (j counter : Nat)
    (w : Worker) : Option (ShipLabel × Nat × WorkerPc) :=
  match w.pc with
  | .ready => some (.call j (sendDataInsight agentVersion w.wm cp), counter, .calling)
  | .calling => some (.reply j, counter, .sent)
  | .sent =>
    if counter = 0 then some (.negativeCounter j, counter, .panicked)
    else some (.done j, counter - 1, .exited)
  | .exited => none
  | .panicked => none

inductive ShipStep (agentVersion : String) (params : SendMetricsParams) : Ship → ShipLabel → Ship → Prop
  | main {s s' : Ship} {l : ShipLabel} :
      sendMetricsStep params s = some (l, s') → ShipStep agentVersion params s l s'
  | worker {s : Ship} {j : Nat} {w : Worker} {l : ShipLabel} {counter : Nat} {pc : WorkerPc} :
      s.workers[j]? = some w → workerStep agentVersion params.cp j s.counter w = some (l, counter, pc) →
      ShipStep agentVersion params s l
        { s with counter := counter, workers := s.workers.set j { w with pc := pc } }

abbrev ShipRun (agentVersion : String) (params : SendMetricsParams) :
    Ship → List ShipLabel → Ship → Prop :=
  Steps (ShipStep agentVersion params)

/-- The WriteInsightAndGetResponse calls of a trace, with the goroutine that made each. -/
def calls : List ShipLabel → List (Nat × InsightCall)
  | [] => []
  | .call j c :: tr => (j, c) :: calls tr
  | _ :: tr => calls tr

/-- readAndLogMetricOverrideYAML on what the reader returns: it only logs the lines. -/
def readAndLogMetricOverrideYAML (file : Except String (List String)) : Bool :=
  match file with
  | .error _ => false
  | .ok _ => true

/-- `configuration.AgentVersion` and `s.Config.GetCloudProperties()`. -/
structure CollectEnv where
  agentVersion : String
  cp : Option CloudProperties

inductive CollectPc where
  | entry
  /-- The top of the tick loop: collectOverrideMetrics. -/
  | collect
  /-- sendMetricsToDataWarehouse running on `params`. -/
  | ship (params : SendMetricsParams) (s : Ship)
  | select
  | returned

structure Collector where
  pc : CollectPc
  /-- The iteration of the tick loop, from zero. -/
  tick : Nat
  ctxDone : Bool

def Collector.init : Collector := ⟨.entry, 0, false⟩

inductive CollectLabel where
  /-- A step of the sendMetricsToDataWarehouse call of iteration `t`. -/
  | ship (t : Nat) (l : ShipLabel)
  | collected (t : Nat) (wm : List WorkloadMetrics)
  | cancel
  | tau

/-- One step of CollectAndSendMetricsToDataWarehouse. Each read of the override file may
see different contents, and the select may take a tick even once ctx is done. -/
inductive CollectStep (env : CollectEnv) : Collector → CollectLabel → Collector → Prop
  | entry {c : Collector} (file : Except String (List String)) : c.pc = .entry →
      CollectStep env c .tau
        { c with pc := if readAndLogMetricOverrideYAML file then .collect else .returned }
  | collect {c : Collector} {wm : List WorkloadMetrics} (file : Except String (List String)) :
      c.pc = .collect → collectOverrideMetrics file = some wm →
      CollectStep env c (.collected c.tick wm) { c with pc := .ship ⟨wm, env.cp⟩ .init }
  | ship {c : Collector} {params : SendMetricsParams} {s s' : Ship} {l : ShipLabel} :
      c.pc = .ship params s → ShipStep env.agentVersion params s l s' →
      CollectStep env c (.ship c.tick l) { c with pc := .ship params s' }
  | shipped {c : Collector} {params : SendMetricsParams} {s : Ship} :
      c.pc = .ship params s → s.pc = .returned → CollectStep env c .tau { c with pc := .select }
  | tick {c : Collector} : c.pc = .select →
      CollectStep env c .tau { c with pc := .collect, tick := c.tick + 1 }
  | stop {c : Collector} : c.pc = .select → c.ctxDone = true →
      CollectStep env c .tau { c with pc := .returned }
  | cancel (c : Collector) : CollectStep env c .cancel { c with ctxDone := true }

abbrev CollectRun (env : CollectEnv) : Collector → List CollectLabel → Collector → Prop :=
  Steps (CollectStep env)

/-- The labels of iteration `t`'s sendMetricsToDataWarehouse call, in order. -/
def shipTrace (t : Nat) : List CollectLabel → List ShipLabel
  | [] => []
  | .ship t' l :: tr => if t' = t then l :: shipTrace t tr else shipTrace t tr
  | _ :: tr => shipTrace t tr

end WorkloadAgent.WorkloadManager
