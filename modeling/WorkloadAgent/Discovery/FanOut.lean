import WorkloadAgent.ServiceCommunication

/-! The process-discovery fan-out (CommonDiscovery, internal/servicecommunication/discovery):
each round lists the host's processes and tries a non-blocking send of the snapshot on
every subscriber channel, counting the full ones; a failed listing ends the fan-out.
Subscribers receive from their channels at any time in between. -/
namespace WorkloadAgent.Discovery

/-- commonDiscoveryLoop, on what `listAllProcesses` returns. -/
def commonDiscoveryLoop (listing : Except String (List ProcessWrapper)) :
    Except String DiscoveryResult :=
  match listing with
  | .error e => .error e
  | .ok processes =>
    if processes.length < 1 then .error "no processes found" else .ok ⟨some processes⟩

/-- What the configuration and the caller fix: whether `a` is a
`[]chan<- *servicecommunication.Message`, and `common_discovery.collection_frequency`
in nanoseconds (`none` when unset). -/
structure FanOutEnv where
  argsOk : Bool
  collectionFrequency : Option Int

/-- The ticker period: three hours unless configured. -/
def FanOutEnv.frequency (env : FanOutEnv) : Int :=
  env.collectionFrequency.getD (3 * 3600 * 1000000000)

inductive FanOutPc where
  | entry
  | listing
  /-- The `range chs` loop at index `i`, with `fullChs` so far. -/
  | sending (msg : Message) (i fullChs : Nat)
  | waiting
  | returned
  | panicked
  deriving DecidableEq, Repr

inductive Label where
  /-- A round's listing succeeded; `msg` is the message it sends. -/
  | round (msg : Message)
  /-- The listing failed or found no process, and CommonDiscovery returns. -/
  | listFailed
  /-- The non-blocking send of `msg` on channel `j`; `sent` is false for `default`. -/
  | attempt (j : Nat) (msg : Message) (sent : Bool)
  /-- The range loop ends having counted `fullChs` full channels. -/
  | roundEnd (fullChs : Nat)
  /-- Subscriber `j` receives `msg`. -/
  | recv (j : Nat) (msg : Message)
  | cancel
  | tau
  deriving DecidableEq, Repr

structure FanOut where
  chans : List (Chan Message)
  ctxDone : Bool
  pc : FanOutPc

/-- One step of CommonDiscovery. `listing` is what a listing at this step returns and
`takeDone` whether the final select takes `<-ctx.Done()` rather than a tick. -/
def commonDiscoveryStep (env : FanOutEnv) (listing : Except String (List ProcessWrapper))
    (takeDone ctxDone : Bool) (chans : List (Chan Message)) :
    FanOutPc → Option (Label × List (Chan Message) × FanOutPc)
  | .entry =>
    some (.tau, chans,
      if !env.argsOk then .returned else if 0 < env.frequency then .listing else .panicked)
  | .listing =>
    match commonDiscoveryLoop listing with
    | .error _ => some (.listFailed, chans, .returned)
    | .ok dr => some (.round ⟨.discovery, dr⟩, chans, .sending ⟨.discovery, dr⟩ 0 0)
  | .sending msg i fullChs =>
    match chans[i]? with
    | none => some (.roundEnd fullChs, chans, .waiting)
    | some ch =>
      match ch.trySend msg with
      | some ch' => some (.attempt i msg true, chans.set i ch', .sending msg (i + 1) fullChs)
      | none => some (.attempt i msg false, chans, .sending msg (i + 1) (fullChs + 1))
  | .waiting =>
    if takeDone then (if ctxDone then some (.tau, chans, .returned) else none)
    else some (.tau, chans, .listing)
  | .returned => none
  | .panicked => none

inductive Step (env : FanOutEnv) : FanOut → Label → FanOut → Prop
  | fanOut {s : FanOut} {l : Label} {chans : List (Chan Message)} {pc : FanOutPc}
      (listing : Except String (List ProcessWrapper)) (takeDone : Bool) :
      commonDiscoveryStep env listing takeDone s.ctxDone s.chans s.pc = some (l, chans, pc) →
      Step env s l { s with chans := chans, pc := pc }
  | recv {s : FanOut} {j : Nat} {ch ch' : Chan Message} {m : Message} :
      s.chans[j]? = some ch → ch.recv? = some (m, ch') →
      Step env s (.recv j m) { s with chans := s.chans.set j ch' }
  | cancel (s : FanOut) : Step env s .cancel { s with ctxDone := true }

abbrev Run (env : FanOutEnv) : FanOut → List Label → FanOut → Prop := Steps (Step env)

/-- The messages sent on channel `j`, in order. -/
def sentTo (j : Nat) : List Label → List Message
  | [] => []
  | .attempt j' m true :: tr => if j' = j then m :: sentTo j tr else sentTo j tr
  | _ :: tr => sentTo j tr

/-- The messages subscriber `j` received, in order. -/
def receivedBy (j : Nat) : List Label → List Message
  | [] => []
  | .recv j' m :: tr => if j' = j then m :: receivedBy j tr else receivedBy j tr
  | _ :: tr => receivedBy j tr

/-- The send attempts of a trace: channel, message, and whether it went through. -/
def attempts : List Label → List (Nat × Message × Bool)
  | [] => []
  | .attempt j m b :: tr => (j, m, b) :: attempts tr
  | _ :: tr => attempts tr

def Label.IsRound : Label → Prop
  | .round _ => True
  | _ => False

end WorkloadAgent.Discovery
