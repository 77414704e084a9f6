import WorkloadAgent.Oracle.Inbound

/-! The Oracle workload service as a system of goroutines (internal/daemon/oracle/oracle.go):
Start, the inbound-message goroutine it spawns, the OracleDiscovery and
OracleMetricCollection routines it launches, and the outside world, which sends on
`CommonCh` and cancels ctx. A run is any interleaving of their steps. Timers are not a
clock here: a `time.Sleep` is one more loop iteration, and a ticker may fire whenever
its `select` is reached. -/
namespace WorkloadAgent.Oracle

structure OracleDiscovery where
  enabled : Option Bool
  /-- `update_frequency` as `AsDuration` reads it, in nanoseconds; 0 when unset. -/
  updateFrequency : Int

structure OracleMetrics where
  enabled : Option Bool
  collectionFrequency : Int

structure OracleConfiguration where
  enabled : Option Bool
  oracleDiscovery : Option OracleDiscovery
  oracleMetrics : Option OracleMetrics

/-- What a run of Start cannot change: `s.Config.GetOracleConfiguration()`, `none` when the
configuration has no Oracle section, and `runtime.GOOS`. -/
structure Env where
  config : Option OracleConfiguration
  goos : String

inductive Routine where
  | oracleDiscovery
  | oracleMetricCollection
  deriving DecidableEq, Repr

namespace Env

/-- The tri-state `oracle_configuration.enabled`. -/
def enabled (env : Env) : Option Bool := env.config.bind (·.enabled)

/-- `GetOracleDiscovery().GetEnabled()`, false along any unset field. -/
def discoveryEnabled (env : Env) : Bool :=
  ((env.config.bind (·.oracleDiscovery)).bind (·.enabled)).getD false

def metricsEnabled (env : Env) : Bool :=
  ((env.config.bind (·.oracleMetrics)).bind (·.enabled)).getD false

def updateFrequency (env : Env) : Int :=
  ((env.config.bind (·.oracleDiscovery)).map (·.updateFrequency)).getD 0

def collectionFrequency (env : Env) : Int :=
  ((env.config.bind (·.oracleMetrics)).map (·.collectionFrequency)).getD 0

def routineEnabled (env : Env) : Routine → Bool
  | .oracleDiscovery => env.discoveryEnabled
  | .oracleMetricCollection => env.metricsEnabled

end Env

/-- The observable actions of a run. -/
inductive Label where
  /-- A sender's send on `CommonCh` goes through. -/
  | deliver (m : Message)
  | cancel
  /-- Start spawns the goroutine that loops on checkServiceCommunication. -/
  | spawn
  /-- The inbound goroutine receives `m` from `CommonCh`. -/
  | consume (m : Message)
  /-- Start calls `StartRoutine` for a routine. -/
  | launch (r : Routine)
  /-- runDiscovery calls `ds.Discover` on these processes. -/
  | discover (ps : List ProcessWrapper)
  /-- runMetricCollection sends one tick's health and default metrics. -/
  | collect
  | tau
  deriving DecidableEq, Repr

/-- What the scheduler or the outside world decides at a step: the `select` takes
`<-ctx.Done()`, or it takes its other case (a message, a tick) and an external call
succeeds, or an external call returns an error. -/
inductive Choice where
  | ctxDone
  | proceed
  | fail
  deriving DecidableEq, Repr

inductive StartPc where
  | entry
  | gate
  | waitWorkload
  | platform
  | launchDiscovery
  | launchMetrics
  | waitDone
  | returned
  | panicked
  deriving DecidableEq, Repr

inductive InboundPc where
  | notSpawned
  | check
  | select
  deriving DecidableEq, Repr

inductive DiscoveryPc where
  | notLaunched
  | entry
  | snapshot
  | waitProcesses
  | discover (ps : List ProcessWrapper)
  | tick
  | returned
  | panicked
  deriving DecidableEq, Repr

inductive MetricsPc where
  | notLaunched
  | entry
  | newCollector
  | tick
  | returned
  | panicked
  deriving DecidableEq, Repr

structure Sys where
  svc : Service
  commonCh : Chan Message
  ctxDone : Bool
  start : StartPc
  inbound : InboundPc
  discovery : DiscoveryPc
  metrics : MetricsPc

/-- A fresh service: the daemon builds `oracle.Service` with a nil snapshot and the latch
down; `CommonCh` is empty and ctx live. -/
def Sys.init (cap : Nat) (h : 0 < cap) : Sys where
  svc := ⟨false, none⟩
  commonCh := Chan.make cap h
  ctxDone := false
  start := .entry
  inbound := .notSpawned
  discovery := .notLaunched
  metrics := .notLaunched

/-- Lines 67-77: the tri-state field sends Start to the wait loop, on, or back. -/
def gateNext : Option Bool → StartPc
  | none => .waitWorkload
  | some true => .platform
  | some false => .returned

/-- One step of Start, from its pc, the latch and ctx; `none` when it is blocked or has
ended. Reading `.Enabled` through a nil Oracle section panics. -/
def startStep (env : Env) (present ctxDone : Bool) : StartPc → Option (Label × StartPc)
  | .entry => some (.spawn, .gate)
  | .gate =>
    match env.config with
    | none => some (.tau, .panicked)
    | some c => some (.tau, gateNext c.enabled)
  | .waitWorkload => some (.tau, if present then .platform else .waitWorkload)
  | .platform => some (.tau, if env.goos = "linux" then .launchDiscovery else .returned)
  | .launchDiscovery =>
    some (if env.discoveryEnabled then .launch .oracleDiscovery else .tau, .launchMetrics)
  | .launchMetrics =>
    some (if env.metricsEnabled then .launch .oracleMetricCollection else .tau, .waitDone)
  | .waitDone => if ctxDone then some (.tau, .returned) else none
  | .returned => none
  | .panicked => none

/-- Start's step as the system sees it: spawning and launching start the other goroutines. -/
def Sys.afterStart (s : Sys) (l : Label) (pc : StartPc) : Sys :=
  match l with
  | .spawn => { s with start := pc, inbound := .check }
  | .launch .oracleDiscovery => { s with start := pc, discovery := .entry }
  | .launch .oracleMetricCollection => { s with start := pc, metrics := .entry }
  | _ => { s with start := pc }

@[simp] theorem Sys.afterStart_start (s : Sys) (l : Label) (pc : StartPc) :
    (s.afterStart l pc).start = pc := by
  unfold Sys.afterStart; split <;> rfl

@[simp] theorem Sys.afterStart_svc (s : Sys) (l : Label) (pc : StartPc) :
    (s.afterStart l pc).svc = s.svc := by
  unfold Sys.afterStart; split <;> rfl

@[simp] theorem Sys.afterStart_commonCh (s : Sys) (l : Label) (pc : StartPc) :
    (s.afterStart l pc).commonCh = s.commonCh := by
  unfold Sys.afterStart; split <;> rfl

/-- One step of the goroutine `for { s.checkServiceCommunication(ctx) }`: the ctx check,
then the select. A call that finds ctx done returns at once into the next iteration. -/
def inboundStep (s : Sys) (c : Choice) : Option (Label × Sys) :=
  match s.inbound, c with
  | .notSpawned, _ => none
  | .check, _ => some (.tau, if s.ctxDone then s else { s with inbound := .select })
  | .select, .ctxDone => if s.ctxDone then some (.tau, { s with inbound := .check }) else none
  | .select, .proceed =>
    match s.commonCh.recv? with
    | some (m, ch) =>
      some (.consume m, { s with
        svc := (checkServiceCommunication false (.received m) s.svc).1
        commonCh := ch
        inbound := .check })
    | none => none
  | .select, .fail => none

/-- One step of runDiscovery, from the snapshot field it reads under the mutex. -/
def discoveryStep (env : Env) (processes : Option (List ProcessWrapper)) (ctxDone : Bool)
    (c : Choice) : DiscoveryPc → Option (Label × DiscoveryPc)
  | .notLaunched => none
  | .entry => some (.tau, if 0 < env.updateFrequency then .snapshot else .panicked)
  | .snapshot =>
    some (.tau, match processes with
      | none => .waitProcesses
      | some ps => .discover ps)
  | .waitProcesses =>
    some (.tau, if ctxDone then .returned else match processes with
      | none => .waitProcesses
      | some ps => .discover ps)
  | .discover ps => some (.discover ps, if c = .fail then .returned else .tick)
  | .tick =>
    match c with
    | .ctxDone => if ctxDone then some (.tau, .returned) else none
    | .proceed => some (.tau, .snapshot)
    | .fail => none
  | .returned => none
  | .panicked => none

/-- One step of runMetricCollection. -/
def metricsStep (env : Env) (ctxDone : Bool) (c : Choice) : MetricsPc → Option (Label × MetricsPc)
  | .notLaunched => none
  | .entry => some (.tau, if 0 < env.collectionFrequency then .newCollector else .panicked)
  | .newCollector => some (.tau, if c = .fail then .returned else .tick)
  | .tick =>
    match c with
    | .ctxDone => if ctxDone then some (.tau, .returned) else none
    | .proceed => some (.collect, .tick)
    | .fail => none
  | .returned => none
  | .panicked => none

inductive Step (env : Env) : Sys → Label → Sys → Prop
  | deliver {s : Sys} {m : Message} {ch : Chan Message} :
      s.commonCh.trySend m = some ch → Step env s (.deliver m) { s with commonCh := ch }
  | cancel (s : Sys) : Step env s .cancel { s with ctxDone := true }
  | start {s : Sys} {l : Label} {pc : StartPc} :
      startStep env s.svc.isProcessPresent s.ctxDone s.start = some (l, pc) →
      Step env s l (s.afterStart l pc)
  | inbound {s s' : Sys} {l : Label} (c : Choice) : inboundStep s c = some (l, s') → Step env s l s'
  | discovery {s : Sys} {l : Label} {pc : DiscoveryPc} (c : Choice) :
      discoveryStep env s.svc.processes s.ctxDone c s.discovery = some (l, pc) →
      Step env s l { s with discovery := pc }
  | metrics {s : Sys} {l : Label} {pc : MetricsPc} (c : Choice) :
      metricsStep env s.ctxDone c s.metrics = some (l, pc) → Step env s l { s with metrics := pc }

/-- Runs, with their labels in order. -/
abbrev Run (env : Env) : Sys → List Label → Sys → Prop := Steps (Step env)

end WorkloadAgent.Oracle
