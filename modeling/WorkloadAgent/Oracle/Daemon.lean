import WorkloadAgent.Oracle.History

/-! The Oracle service as daemon.go's startdaemonHandler starts it:
`&oracle.Service{Config: d.config, CloudProps: d.cloudProps}`, with CommonCh left nil.
Nothing can send on a nil channel and a receive from it never proceeds, so the service runs
without a single delivery. Nothing is consumed, the latch never rises, and a routine is
launched only when `oracle_configuration.enabled` is explicitly true: with it unset, Start
waits for a workload that nothing can report. -/
namespace WorkloadAgent.Oracle

/-- A step of the service startdaemonHandler starts: a step of Start, of its goroutines or
of cancellation, never a delivery on CommonCh, which is nil. -/
inductive DaemonStep (env : Env) : Sys → Label → Sys → Prop
  | step {s s' : Sys} {l : Label} : Step env s l s' → (∀ m, l ≠ .deliver m) → DaemonStep env s l s'

abbrev DaemonRun (env : Env) : Sys → List Label → Sys → Prop := Steps (DaemonStep env)

/-- The service as startdaemonHandler builds it. Its CommonCh is nil: an empty channel that
nothing sends on receives alike. -/
def daemonService : Sys := Sys.init 1 Nat.one_pos

/-- Where Start can be while no workload is reported and `enabled` is unset: before or at
the gate, in the wait-for-workload loop, or panicked on a missing Oracle section. -/
def WaitingForWorkload : StartPc → Prop
  | .entry | .gate | .waitWorkload | .panicked => True
  | _ => False

instance : DecidablePred WaitingForWorkload := fun pc =>
  decidable_of_iff (pc ∈ [.entry, .gate, .waitWorkload, .panicked])
    (by cases pc <;> simp [WaitingForWorkload])

variable {env : Env} {tr : List Label} {s₀ s : Sys}

theorem DaemonRun.toRun (run : DaemonRun env s₀ tr s) : Run env s₀ tr s ∧ delivered tr = [] := by
  induction run with
  | refl => exact ⟨.refl _, rfl⟩
  | @step _ _ _ l _ h ih =>
    obtain ⟨hs, hl⟩ := h
    refine ⟨ih.1.step hs, ?_⟩
    cases l <;> simp_all [delivered]

theorem DaemonRun.idle (run : DaemonRun env daemonService tr s) :
    consumed tr = [] ∧ s.svc = ⟨false, none⟩ := by
  obtain ⟨hrun, hdel⟩ := run.toRun
  have hi := hrun.serialized
  have hc : consumed tr = [] := (List.append_eq_nil.mp (hi.fifo.trans hdel)).1
  exact ⟨hc, by rw [hi.svc, hc]; rfl⟩

theorem startStep_waiting (hen : env.enabled = none) {ctxDone : Bool} {pc pc' : StartPc}
    {l : Label} (hpc : WaitingForWorkload pc) (h : startStep env false ctxDone pc = some (l, pc')) :
    WaitingForWorkload pc' := by
  cases pc <;> simp only [WaitingForWorkload] at hpc <;> simp only [startStep] at h
  case entry => cases h; trivial
  case gate =>
    cases hc : env.config with
    | none => simp [hc] at h; rw [← h.2]; trivial
    | some c =>
      have : c.enabled = none := by simpa [Env.enabled, hc] using hen
      simp [hc, this, gateNext] at h; rw [← h.2]; trivial
  case waitWorkload => simp at h; rw [← h.2]; trivial
  case panicked => cases h

theorem DaemonRun.waiting (hen : env.enabled = none) (run : DaemonRun env daemonService tr s) :
    WaitingForWorkload s.start := by
  induction run with
  | refl => trivial
  | step run h ih =>
    obtain ⟨hs, -⟩ := h
    have hsvc := (DaemonRun.idle run).2
    cases hs with
    | deliver _ | cancel | discovery _ _ | metrics _ _ => exact ih
    | start h =>
      rw [Sys.afterStart_start]
      rw [hsvc] at h
      exact startStep_waiting hen ih h
    | inbound _ h => rw [(inboundStep_frame h).1]; exact ih

/-- The Oracle service as the daemon starts it, over every interleaving of Start, its
goroutines and cancellation: the inbound goroutine never receives anything, the latch stays
down and `processes` nil, and a routine is launched only with `oracle_configuration.enabled`
explicitly true. Otherwise nothing is discovered or collected over the whole run; with it
unset, Start never gets past its wait-for-workload loop, so it never returns (unless it
panicked at the gate on a missing Oracle section). -/
theorem daemon_oracle_waits_unless_enabled (env : Env) (tr : List Label) (s : Sys)
    (run : DaemonRun env daemonService tr s) :
    consumed tr = [] ∧ s.svc = ⟨false, none⟩ ∧
    (∀ r, .launch r ∈ tr → env.enabled = some true) ∧
    (env.enabled ≠ some true → (∀ ps, .discover ps ∉ tr) ∧ .collect ∉ tr) ∧
    (env.enabled = none → WaitingForWorkload s.start) := by
  obtain ⟨hc, hsvc⟩ := run.idle
  obtain ⟨-, hlabels⟩ := run.toRun.1.inv
  have launched : ∀ r, .launch r ∈ tr → env.enabled = some true := fun r hm => by
    obtain ⟨pre, post, htr⟩ := List.append_of_mem hm
    obtain ⟨-, -, hgate, -⟩ := hlabels pre _ post htr
    refine hgate.resolve_right fun ⟨_, m, hm', _⟩ => ?_
    have : m ∈ consumed tr := mem_consumed.mpr (by simp [htr, hm'])
    simp [hc] at this
  refine ⟨hc, hsvc, launched, fun hoff => ⟨fun ps hm => ?_, fun hm => ?_⟩,
    fun hen => run.waiting hen⟩
  · obtain ⟨pre, post, htr⟩ := List.append_of_mem hm
    have hl : .launch .oracleDiscovery ∈ pre := (hlabels pre (.discover ps) post htr).1
    exact hoff (launched _ (htr ▸ List.mem_append_left _ hl))
  · obtain ⟨pre, post, htr⟩ := List.append_of_mem hm
    have hl : .launch .oracleMetricCollection ∈ pre := hlabels pre .collect post htr
    exact hoff (launched _ (htr ▸ List.mem_append_left _ hl))

/-- Discovery and metrics switched on, `enabled` unset: after the spawn, the gate and a
turn of the wait loop, Start is still waiting, with nothing launched. -/
theorem daemon_oracle_waits_unless_enabled_unset :
    let env : Env := ⟨some ⟨none, some ⟨some true, 3600⟩, some ⟨some true, 60⟩⟩, "linux"⟩
    ∃ tr s, DaemonRun env daemonService tr s ∧ tr.length = 3 ∧ s.svc = ⟨false, none⟩ ∧
      WaitingForWorkload s.start := by
  intro env
  have run : DaemonRun env daemonService ([] ++ [.spawn] ++ [.tau] ++ [.tau]) _ :=
    .step (.step (.step (.refl _) (.step (.start rfl) nofun)) (.step (.start rfl) nofun))
      (.step (.start rfl) nofun)
  obtain ⟨-, hsvc, -, -, hwait⟩ := daemon_oracle_waits_unless_enabled env _ _ run
  exact ⟨_, _, run, rfl, hsvc, hwait rfl⟩

end WorkloadAgent.Oracle
