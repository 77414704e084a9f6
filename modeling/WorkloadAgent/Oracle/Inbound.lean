import WorkloadAgent.ServiceCommunication

/-! The Oracle service's inbound-message loop (`checkServiceCommunication`,
internal/daemon/oracle/oracle.go): it keeps the last discovery snapshot and latches
`isProcessPresent` once an Oracle process is listed. -/
namespace WorkloadAgent.Oracle

def oraProcessPrefixes : List String := ["ora_pmon_", "db_pmon_"]

/-- The fields of `oracle.Service` that the inbound-message loop writes. -/
structure Service where
  isProcessPresent : Bool
  processes : Option (List ProcessWrapper)
  deriving DecidableEq, Repr

/-- The `range` loop over a message's processes, which sets the flag and breaks at
the first process whose `Name()` succeeds with an Oracle prefix. -/
def scanProcesses (present : Bool) : List ProcessWrapper → Bool
  | [] => present
  | p :: ps =>
    match p.name with
    | some name => if hasAnyPrefix name oraProcessPrefixes then true else scanProcesses present ps
    | none => scanProcesses present ps

/-- The `switch msg.Origin` of checkServiceCommunication. -/
def Service.receive (s : Service) (msg : Message) : Service :=
  match msg.origin with
  | .discovery =>
    let s := { s with processes := msg.discoveryResult.processes }
    { s with isProcessPresent :=
        scanProcesses s.isProcessPresent (msg.discoveryResult.processes.getD []) }
  | .dwActivation => s
  | .other _ => s

/-- The case a `select` statement takes. -/
inductive Selected where
  | ctxDone
  | received (msg : Message)

/-- One call of checkServiceCommunication. `ctxErr` is `ctx.Err() != nil` at the
call and `sel` the case the select then takes; the second component is the message
the call consumed from `CommonCh`. -/
def checkServiceCommunication (ctxErr : Bool) (sel : Selected) (s : Service) :
    Service × Option Message :=
  if ctxErr then (s, none)
  else
    match sel with
    | .ctxDone => (s, none)
    | .received msg => (s.receive msg, some msg)

/-- Successive calls of checkServiceCommunication, as the goroutine Start spawns makes
them: the final state and the messages consumed, in arrival order. -/
def runCalls (s : Service) : List (Bool × Selected) → Service × List Message
  | [] => (s, [])
  | (ctxErr, sel) :: calls =>
    let r := checkServiceCommunication ctxErr sel s
    let rest := runCalls r.1 calls
    (rest.1, r.2.toList ++ rest.2)

/-- `name` starts with one of the Oracle process prefixes. -/
def IsOraName (name : String) : Prop :=
  "ora_pmon_".data <+: name.data ∨ "db_pmon_".data <+: name.data

/-- A Discovery message listing a process whose `Name()` succeeds with an Oracle name. -/
def ListsOraProcess (m : Message) : Prop :=
  m.origin = .discovery ∧
    ∃ p ∈ m.discoveryResult.processes.getD [], ∃ name, p.name = some name ∧ IsOraName name

/-- The processes of the last Discovery message of `msgs`, or `init` if it has none. -/
def lastDiscoveryProcesses (init : Option (List ProcessWrapper)) (msgs : List Message) :
    Option (List ProcessWrapper) :=
  match (msgs.filter (·.origin = .discovery)).getLast? with
  | some m => m.discoveryResult.processes
  | none => init

theorem hasAnyPrefix_oraProcessPrefixes (name : String) :
    hasAnyPrefix name oraProcessPrefixes = true ↔ IsOraName name := by
  simp [hasAnyPrefix_iff, oraProcessPrefixes, IsOraName]

theorem scanProcesses_eq (present : Bool) (ps : List ProcessWrapper) :
    scanProcesses present ps = true ↔
      present = true ∨ ∃ p ∈ ps, ∃ name, p.name = some name ∧ IsOraName name := by
  induction ps with
  | nil => simp [scanProcesses]
  | cons p ps ih =>
    rcases hp : p.name with _ | name
    · simp [scanProcesses, hp, ih]
    · by_cases hora : IsOraName name
      · simp [scanProcesses, hp, (hasAnyPrefix_oraProcessPrefixes name).mpr hora, hora]
      · have hno : hasAnyPrefix name oraProcessPrefixes = false := by
          simpa [← hasAnyPrefix_oraProcessPrefixes] using hora
        simp [scanProcesses, hp, hno, hora, ih]

theorem receive_isProcessPresent (s : Service) (m : Message) :
    (s.receive m).isProcessPresent = true ↔ s.isProcessPresent = true ∨ ListsOraProcess m := by
  unfold Service.receive ListsOraProcess
  split <;> simp_all [scanProcesses_eq]

theorem receive_processes (s : Service) (m : Message) :
    (s.receive m).processes =
      if m.origin = .discovery then m.discoveryResult.processes else s.processes := by
  unfold Service.receive
  split <;> simp_all

theorem receive_of_origin_ne (s : Service) {m : Message} (h : m.origin ≠ .discovery) :
    s.receive m = s := by
  unfold Service.receive
  split <;> simp_all

theorem lastDiscoveryProcesses_cons (init : Option (List ProcessWrapper)) (m : Message)
    (msgs : List Message) :
    lastDiscoveryProcesses init (m :: msgs) =
      lastDiscoveryProcesses
        (if m.origin = .discovery then m.discoveryResult.processes else init) msgs := by
  unfold lastDiscoveryProcesses
  by_cases hm : m.origin = .discovery
  · rw [List.filter_cons_of_pos (by simpa using hm), List.getLast?_cons, if_pos hm]
    cases (msgs.filter (·.origin = .discovery)).getLast? <;> rfl
  · simp [List.filter_cons, hm]

theorem runCalls_cons (s : Service) (ctxErr : Bool) (sel : Selected)
    (calls : List (Bool × Selected)) :
    runCalls s ((ctxErr, sel) :: calls) =
      let r := checkServiceCommunication ctxErr sel s
      ((runCalls r.1 calls).1, r.2.toList ++ (runCalls r.1 calls).2) := rfl

theorem checkServiceCommunication_cases (ctxErr : Bool) (sel : Selected) (s : Service) :
    (∃ m, checkServiceCommunication ctxErr sel s = (s.receive m, some m)) ∨
      checkServiceCommunication ctxErr sel s = (s, none) := by
  unfold checkServiceCommunication
  split
  · exact .inr rfl
  · split
    · exact .inr rfl
    · exact .inl ⟨_, rfl⟩

theorem runCalls_state (s : Service) (calls : List (Bool × Selected)) :
    ((runCalls s calls).1.isProcessPresent = true ↔
        s.isProcessPresent = true ∨ ∃ m ∈ (runCalls s calls).2, ListsOraProcess m) ∧
      (runCalls s calls).1.processes = lastDiscoveryProcesses s.processes (runCalls s calls).2 := by
  induction calls generalizing s with
  | nil => simp [runCalls, lastDiscoveryProcesses]
  | cons call calls ih =>
    obtain ⟨ctxErr, sel⟩ := call
    rw [runCalls_cons]
    rcases checkServiceCommunication_cases ctxErr sel s with ⟨m, hm⟩ | hm <;> rw [hm] <;> dsimp only
    · obtain ⟨ihp, ihs⟩ := ih (s.receive m)
      refine ⟨?_, ?_⟩
      · simp only [Option.toList_some, List.singleton_append, List.mem_cons, ihp,
          receive_isProcessPresent]
        constructor
        · rintro ((h | h) | ⟨m', hm', h'⟩)
          exacts [.inl h, .inr ⟨m, .inl rfl, h⟩, .inr ⟨m', .inr hm', h'⟩]
        · rintro (h | ⟨m', rfl | hm', h'⟩)
          exacts [.inl (.inl h), .inl (.inr h'), .inr ⟨m', hm', h'⟩]
      · rw [ihs, receive_processes, Option.toList_some, List.singleton_append,
          lastDiscoveryProcesses_cons]
    · simpa using ih s

theorem checkServiceCommunication_of_ctxErr (sel : Selected) (s : Service) :
    checkServiceCommunication true sel s = (s, none) := rfl

end WorkloadAgent.Oracle
