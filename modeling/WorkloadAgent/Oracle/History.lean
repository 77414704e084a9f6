import WorkloadAgent.Oracle.Launch

/-! The Oracle service over any interleaving, seen from its inbound loop. CommonCh hands
the inbound goroutine the delivered messages in order, none lost or repeated, and the
service's fields are what the sequential calls of checkServiceCommunication make of the
messages consumed. Every run of the system thus refines the history of `runCalls`. -/
namespace WorkloadAgent.Oracle

/-- The messages senders delivered on CommonCh, in order. -/
def delivered : List Label → List Message
  | [] => []
  | .deliver m :: tr => m :: delivered tr
  | _ :: tr => delivered tr

/-- The messages the inbound goroutine consumed, in order. -/
def consumed : List Label → List Message
  | [] => []
  | .consume m :: tr => m :: consumed tr
  | _ :: tr => consumed tr

@[simp] theorem delivered_append (tr tr' : List Label) :
    delivered (tr ++ tr') = delivered tr ++ delivered tr' := by
  induction tr with
  | nil => rfl
  | cons l tr ih => cases l <;> simp [delivered, ih]

@[simp] theorem consumed_append (tr tr' : List Label) :
    consumed (tr ++ tr') = consumed tr ++ consumed tr' := by
  induction tr with
  | nil => rfl
  | cons l tr ih => cases l <;> simp [consumed, ih]

theorem mem_consumed {m : Message} {tr : List Label} : m ∈ consumed tr ↔ .consume m ∈ tr := by
  induction tr with
  | nil => simp [consumed]
  | cons l tr ih => cases l <;> simp [consumed, ih, eq_comm]

/-- The calls of checkServiceCommunication that consume `msgs`, one each. -/
def receiving (msgs : List Message) : List (Bool × Selected) :=
  msgs.map fun m => (false, .received m)

theorem runCalls_receiving (s : Service) (msgs : List Message) :
    runCalls s (receiving msgs) = (msgs.foldl Service.receive s, msgs) := by
  induction msgs generalizing s with
  | nil => rfl
  | cons m msgs ih =>
    simp only [receiving, List.map_cons] at ih ⊢
    rw [runCalls_cons]
    simp [checkServiceCommunication, ih]

theorem inboundStep_cases {s s' : Sys} {c : Choice} {l : Label}
    (h : inboundStep s c = some (l, s')) :
    (l = .tau ∧ s'.svc = s.svc ∧ s'.commonCh = s.commonCh) ∨
    (∃ m ch, s.commonCh.recv? = some (m, ch) ∧ l = .consume m ∧ s'.svc = s.svc.receive m ∧
      s'.commonCh = ch) := by
  unfold inboundStep at h
  split at h
  · cases h
  · simp only [Option.some.injEq, Prod.mk.injEq] at h
    obtain ⟨rfl, rfl⟩ := h
    exact .inl ⟨rfl, by split <;> rfl, by split <;> rfl⟩
  · split at h
    · simp only [Option.some.injEq, Prod.mk.injEq] at h
      obtain ⟨rfl, rfl⟩ := h
      exact .inl ⟨rfl, rfl, rfl⟩
    · cases h
  · split at h
    · simp only [Option.some.injEq, Prod.mk.injEq] at h
      obtain ⟨rfl, rfl⟩ := h
      exact .inr ⟨_, _, ‹_›, rfl, rfl, rfl⟩
    · cases h
  · cases h

theorem inboundStep_frame {s s' : Sys} {c : Choice} {l : Label}
    (h : inboundStep s c = some (l, s')) : s'.start = s.start ∧ s'.discovery = s.discovery := by
  unfold inboundStep at h
  repeat' split at h
  all_goals cases h <;> exact ⟨rfl, rfl⟩

theorem Sys.afterStart_discovery_of_discover {s : Sys} {l : Label} {pc : StartPc}
    {ps : List ProcessWrapper} (h : (s.afterStart l pc).discovery = .discover ps) :
    s.discovery = .discover ps := by
  unfold Sys.afterStart at h
  split at h <;> first | exact h | cases h

/-- The invariant: CommonCh holds what was delivered and not yet consumed, in order, and
the service's fields are the history of the consumed messages. -/
structure Serialized (tr : List Label) (s : Sys) : Prop where
  fifo : consumed tr ++ s.commonCh.buf = delivered tr
  svc : s.svc = (consumed tr).foldl Service.receive ⟨false, none⟩

variable {env : Env} {tr : List Label} {s s' : Sys} {l : Label}

theorem Serialized.frame (hi : Serialized tr s) (hl : delivered [l] = [] ∧ consumed [l] = [])
    (hsvc : s'.svc = s.svc) (hch : s'.commonCh = s.commonCh) : Serialized (tr ++ [l]) s' where
  fifo := by simpa [hl, hch] using hi.fifo
  svc := by simpa [hl, hsvc] using hi.svc

theorem Serialized.step (hi : Serialized tr s) (h : Step env s l s') :
    Serialized (tr ++ [l]) s' := by
  cases h with
  | deliver h =>
    refine ⟨?_, by simpa [delivered, consumed] using hi.svc⟩
    simp [delivered, consumed, Chan.trySend_buf h, ← hi.fifo]
  | cancel => exact hi.frame ⟨rfl, rfl⟩ rfl rfl
  | start h =>
    refine hi.frame ?_ (Sys.afterStart_svc _ _ _) (Sys.afterStart_commonCh _ _ _)
    rcases startStep_label h with rfl | rfl | ⟨r, rfl⟩ <;> exact ⟨rfl, rfl⟩
  | inbound c h =>
    rcases inboundStep_cases h with ⟨rfl, hsvc, hch⟩ | ⟨m, ch, hr, rfl, hsvc, hch⟩
    · exact hi.frame ⟨rfl, rfl⟩ hsvc hch
    · refine ⟨?_, by simp [consumed, hsvc, hi.svc]⟩
      have hbuf := (Chan.recv?_eq_some hr).1
      simp [delivered, consumed, hch, ← hi.fifo, hbuf]
  | discovery c h =>
    refine hi.frame ?_ rfl rfl
    rcases (discoveryStep_cases h).2.2 with rfl | ⟨ps, rfl, -⟩ <;> exact ⟨rfl, rfl⟩
  | metrics c h =>
    refine hi.frame ?_ rfl rfl
    rcases (metricsStep_cases h).2 with rfl | rfl <;> exact ⟨rfl, rfl⟩

theorem Run.serialized {cap : Nat} {hcap : 0 < cap} (run : Run env (Sys.init cap hcap) tr s) :
    Serialized tr s := by
  induction run with
  | refl => exact ⟨by simp [consumed, delivered, Sys.init, Chan.make], rfl⟩
  | step _ hstep ih => exact ih.step hstep

/-- Over every interleaving of Start, its inbound goroutine, the routines it launches,
the senders and cancellation: the inbound goroutine consumes the delivered messages in
order, none lost or repeated, the rest waiting in CommonCh; and the service's fields are
exactly what checkServiceCommunication's calls make of the consumed messages in turn. So
`isProcessPresent` holds iff a consumed message listed an Oracle process, and `processes`
is the list of the last consumed Discovery message (nil before any). -/
theorem service_follows_consumed_messages (env : Env) (cap : Nat) (hcap : 0 < cap)
    (tr : List Label) (s : Sys) (run : Run env (Sys.init cap hcap) tr s) :
    consumed tr ++ s.commonCh.buf = delivered tr ∧
    runCalls ⟨false, none⟩ (receiving (consumed tr)) = (s.svc, consumed tr) ∧
    (s.svc.isProcessPresent = true ↔ ∃ m ∈ consumed tr, ListsOraProcess m) ∧
    s.svc.processes = lastDiscoveryProcesses none (consumed tr) := by
  have hi := run.serialized
  have hcalls : runCalls ⟨false, none⟩ (receiving (consumed tr)) = (s.svc, consumed tr) := by
    rw [runCalls_receiving, hi.svc]
  obtain ⟨hpresent, hprocs⟩ := runCalls_state ⟨false, none⟩ (receiving (consumed tr))
  rw [hcalls] at hpresent hprocs
  exact ⟨hi.fifo, hcalls, by simpa using hpresent, hprocs⟩

/-- A delivered message listing an Oracle process, then consumed by the inbound
goroutine. -/
theorem service_follows_consumed_messages_pmon :
    let env : Env := ⟨some ⟨none, none, none⟩, "linux"⟩
    let m : Message := ⟨.discovery, ⟨some [⟨1, some "ora_pmon_X"⟩]⟩⟩
    let tr : List Label := [.spawn, .deliver m, .tau, .consume m]
    0 < 1 ∧ ∃ s, Run env (Sys.init 1 Nat.one_pos) tr s ∧
      consumed tr ++ s.commonCh.buf = delivered tr ∧
      (s.svc.isProcessPresent = true ↔ ∃ m ∈ consumed tr, ListsOraProcess m) := by
  intro env m tr
  have run : Run env (Sys.init 1 Nat.one_pos) ([] ++ [.spawn] ++ [.deliver m] ++ [.tau] ++
      [.consume m]) _ :=
    .step (.step (.step (.step (.refl _) (.start rfl)) (.deliver rfl)) (.inbound .proceed rfl))
      (.inbound .proceed rfl)
  obtain ⟨hfifo, -, hpresent, -⟩ :=
    service_follows_consumed_messages env 1 Nat.one_pos _ _ run
  exact ⟨Nat.one_pos, _, run, hfifo, hpresent⟩

theorem foldl_receive_processes (msgs : List Message) :
    (msgs.foldl Service.receive ⟨false, none⟩).processes = lastDiscoveryProcesses none msgs := by
  have h := (runCalls_state ⟨false, none⟩ (receiving msgs)).2
  rwa [runCalls_receiving] at h

/-- `ps` was read from `processes` at the end of `read`: after runDiscovery was launched,
with no Discover call since, and it was then the list of the last Discovery message
consumed. -/
def ReadSnapshot (tr : List Label) (ps : List ProcessWrapper) : Prop :=
  ∃ read mid, tr = read ++ mid ∧ .launch .oracleDiscovery ∈ read ∧
    (∀ ps', .discover ps' ∉ mid) ∧ lastDiscoveryProcesses none (consumed read) = some ps

/-- runDiscovery's pending Discover call is on a snapshot it read. -/
def SnapshotPending (tr : List Label) (s : Sys) : Prop :=
  ∀ ps, s.discovery = .discover ps → ReadSnapshot tr ps

theorem ReadSnapshot.extend {ps : List ProcessWrapper} (h : ReadSnapshot tr ps)
    (hl : ∀ ps', l ≠ .discover ps') : ReadSnapshot (tr ++ [l]) ps := by
  obtain ⟨read, mid, rfl, hlaunch, hmid, hlast⟩ := h
  refine ⟨read, mid ++ [l], by simp, hlaunch, fun ps' hm => ?_, hlast⟩
  rcases List.mem_append.mp hm with hm | hm
  · exact hmid ps' hm
  · exact hl ps' (List.mem_singleton.mp hm).symm

theorem SnapshotPending.frame (hp : SnapshotPending tr s) (hl : ∀ ps', l ≠ .discover ps')
    (hd : ∀ ps, s'.discovery = .discover ps → s.discovery = .discover ps) :
    SnapshotPending (tr ++ [l]) s' :=
  fun ps h => (hp ps (hd ps h)).extend hl

theorem SnapshotPending.step (hp : SnapshotPending tr s) (hser : Serialized tr s)
    (hinv : Inv env tr s) (h : Step env s l s') :
    (∀ ps, l = .discover ps → ReadSnapshot tr ps) ∧ SnapshotPending (tr ++ [l]) s' := by
  cases h with
  | deliver _ => exact ⟨fun _ => nofun, hp.frame (fun _ => nofun) fun _ => id⟩
  | cancel => exact ⟨fun _ => nofun, hp.frame (fun _ => nofun) fun _ => id⟩
  | start h =>
    have hl : ∀ ps', l ≠ .discover ps' := by
      rcases startStep_label h with rfl | rfl | ⟨r, rfl⟩ <;> exact fun _ => nofun
    exact ⟨fun ps h => absurd h (hl ps),
      hp.frame hl fun _ => Sys.afterStart_discovery_of_discover⟩
  | inbound c h =>
    have hl : ∀ ps', l ≠ .discover ps' := by
      rcases inboundStep_cases h with ⟨rfl, -⟩ | ⟨m, ch, -, rfl, -⟩ <;> exact fun _ => nofun
    exact ⟨fun ps h => absurd h (hl ps), hp.frame hl fun _ h' => (inboundStep_frame h).2 ▸ h'⟩
  | metrics c h =>
    have hl : ∀ ps', l ≠ .discover ps' := by
      rcases (metricsStep_cases h).2 with rfl | rfl <;> exact fun _ => nofun
    exact ⟨fun ps h => absurd h (hl ps), hp.frame hl fun _ => id⟩
  | discovery c h =>
    obtain ⟨hlaunched, hnext, hl⟩ := discoveryStep_cases h
    rcases hl with rfl | ⟨ps, rfl, hpc⟩
    · -- a read of `processes`: the list of the last Discovery message consumed so far
      refine ⟨fun _ => nofun, fun ps hpc' => ⟨tr, [.tau], rfl, hinv.discoveryLaunched hlaunched,
        by simp, ?_⟩⟩
      rw [← foldl_receive_processes, ← hser.svc]
      exact hnext ps hpc'
    · -- the Discover call, after which runDiscovery returns or waits for its ticker
      refine ⟨fun _ h' => by cases h'; exact hp ps hpc, fun ps' hpc' => ?_⟩
      rw [hpc] at h
      simp only [discoveryStep, Option.some.injEq, Prod.mk.injEq] at h
      rw [← h.2] at hpc'
      split_ifs at hpc'

theorem Run.snapshotPending {cap : Nat} {hcap : 0 < cap}
    (run : Run env (Sys.init cap hcap) tr s) : SnapshotPending tr s := by
  induction run with
  | refl => exact fun _ => nofun
  | step run hstep ih => exact (ih.step (Run.serialized run) (Run.inv run).1 hstep).2

/-- Over every interleaving, each ds.Discover call of runDiscovery is given the process list
of the last Discovery message the inbound goroutine had consumed when runDiscovery read the
`processes` field: a read made after the routine was launched and after its previous
Discover call. So a call never gets a snapshot older than the one current at its own read,
nor one not yet consumed. -/
theorem discover_reads_last_consumed_snapshot (env : Env) (cap : Nat) (hcap : 0 < cap)
    (tr : List Label) (s : Sys) (run : Run env (Sys.init cap hcap) tr s) (pre : List Label)
    (ps : List ProcessWrapper) (post : List Label) (h : tr = pre ++ .discover ps :: post) :
    ∃ read mid, pre = read ++ mid ∧ .launch .oracleDiscovery ∈ read ∧
      (∀ ps', .discover ps' ∉ mid) ∧ lastDiscoveryProcesses none (consumed read) = some ps := by
  obtain ⟨t, t', hrun, hstep⟩ := run.split h
  exact ((Run.snapshotPending hrun).step (Run.serialized hrun) (Run.inv hrun).1 hstep).1 ps rfl

/-- `enabled` true: Start launches runDiscovery, the inbound goroutine consumes an Oracle
snapshot, and runDiscovery reads it and calls Discover on it. -/
theorem discover_reads_last_consumed_snapshot_pmon :
    let env : Env := ⟨some ⟨some true, some ⟨some true, 3600⟩, none⟩, "linux"⟩
    let ps : List ProcessWrapper := [⟨1, some "ora_pmon_X"⟩]
    let m : Message := ⟨.discovery, ⟨some ps⟩⟩
    let pre : List Label := [.deliver m, .spawn, .tau, .tau, .launch .oracleDiscovery, .tau,
      .consume m, .tau, .tau]
    0 < 1 ∧ ∃ s, Run env (Sys.init 1 Nat.one_pos) (pre ++ [.discover ps]) s ∧
      ∃ read mid, pre = read ++ mid ∧ lastDiscoveryProcesses none (consumed read) = some ps := by
  intro env ps m pre
  have run : Run env (Sys.init 1 Nat.one_pos) ([] ++ [.deliver m] ++ [.spawn] ++ [.tau] ++
      [.tau] ++ [.launch .oracleDiscovery] ++ [.tau] ++ [.consume m] ++ [.tau] ++ [.tau] ++
      [.discover ps]) _ :=
    .step (.step (.step (.step (.step (.step (.step (.step (.step (.step (.refl _)
      (.deliver rfl)) (.start rfl)) (.start rfl)) (.start rfl)) (.start rfl))
      (.inbound .proceed rfl)) (.inbound .proceed rfl)) (.discovery .proceed rfl))
      (.discovery .proceed rfl)) (.discovery .proceed rfl)
  obtain ⟨read, mid, hpre, -, -, hlast⟩ :=
    discover_reads_last_consumed_snapshot env 1 Nat.one_pos _ _ run pre ps [] rfl
  exact ⟨Nat.one_pos, _, run, read, mid, hpre, hlast⟩

end WorkloadAgent.Oracle
