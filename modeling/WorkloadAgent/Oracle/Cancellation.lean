import WorkloadAgent.Oracle.Service

/-! Cancellation. Start's wait-for-workload loop (`for !s.isProcessPresent`) reads no
ctx, and the goroutine `for { s.checkServiceCommunication(ctx) }` has no exit. So once
ctx is done with `enabled` unset and no Oracle process consumed, Start sleeps forever and
the inbound goroutine spins on calls that return at once, over every run. The wait loop
of runDiscovery, by contrast, checks ctx. -/
namespace WorkloadAgent.Oracle

/-- Where a run goes once ctx is cancelled before Start passes its wait loop. -/
structure Stuck (s : Sys) : Prop where
  cancelled : s.ctxDone = true
  latchDown : s.svc.isProcessPresent = false
  notSelecting : s.inbound ≠ .select
  waiting : s.start = .entry ∨ s.start = .gate ∨ s.start = .waitWorkload
  noDiscovery : s.discovery = .notLaunched
  noMetrics : s.metrics = .notLaunched

variable {env : Env} {c : OracleConfiguration}

theorem inboundStep_of_cancelled {s s' : Sys} {ch : Choice} {l : Label}
    (hs : Stuck s) (h : inboundStep s ch = some (l, s')) : l = .tau ∧ s' = s := by
  unfold inboundStep at h
  split at h
  · cases h
  · simp only [hs.cancelled, ↓reduceIte, Option.some.injEq, Prod.mk.injEq] at h
    exact ⟨h.1.symm, h.2.symm⟩
  all_goals exact absurd ‹s.inbound = .select› hs.notSelecting

theorem Stuck.step (hc : env.config = some c) (hen : c.enabled = none) {s s' : Sys} {l : Label}
    (hs : Stuck s) (h : Step env s l s') : Stuck s' := by
  cases h with
  | deliver _ => exact { hs with }
  | cancel => exact { hs with cancelled := rfl }
  | start h =>
    rcases hs.waiting with hpc | hpc | hpc <;>
      simp only [hpc, hs.latchDown, hs.cancelled, startStep, hc, hen, gateNext,
        Bool.false_eq_true, ↓reduceIte, Option.some.injEq, Prod.mk.injEq] at h <;>
      obtain ⟨rfl, rfl⟩ := h
    · exact { hs with
        notSelecting := by simp [Sys.afterStart]
        waiting := by simp [Sys.afterStart] }
    · exact { hs with waiting := by simp [Sys.afterStart] }
    · exact { hs with waiting := by simp [Sys.afterStart] }
  | inbound ch h => exact (inboundStep_of_cancelled hs h).2 ▸ hs
  | discovery ch h => simp [hs.noDiscovery, discoveryStep] at h
  | metrics ch h => simp [hs.noMetrics, metricsStep] at h

theorem Stuck.run (hc : env.config = some c) (hen : c.enabled = none) {s s' : Sys}
    {tr : List Label} (run : Run env s tr s') (hs : Stuck s) : Stuck s' := by
  induction run with
  | refl => exact hs
  | step _ hstep ih => exact ih.step hc hen hstep

/-- With `enabled` unset, a service whose ctx is cancelled before it starts never lets
Start leave its wait loop, whatever is sent on `CommonCh` afterwards, and every iteration
of the inbound goroutine is a no-op that leads to the next one. -/
theorem cancelled_start_never_returns (env : Env) (c : OracleConfiguration)
    (hc : env.config = some c) (hen : c.enabled = none) (cap : Nat) (hcap : 0 < cap)
    (tr : List Label) (s : Sys) (run : Run env { Sys.init cap hcap with ctxDone := true } tr s) :
    (s.start = .entry ∨ s.start = .gate ∨ s.start = .waitWorkload) ∧
      ∀ ch l s', inboundStep s ch = some (l, s') → l = .tau ∧ s' = s := by
  have hs : Stuck s := Stuck.run hc hen run
    ⟨rfl, rfl, by simp [Sys.init], .inl rfl, rfl, rfl⟩
  exact ⟨hs.waiting, fun _ _ _ h => inboundStep_of_cancelled hs h⟩

/-- The failing input: an Oracle section with `enabled` unset and ctx cancelled first. Start
spawns the inbound goroutine and enters its wait loop, an Oracle snapshot is then
delivered, and it stays in CommonCh: the inbound goroutine only spins and Start only
sleeps. -/
theorem cancelled_start_never_returns_unset :
    let env : Env := ⟨some ⟨none, some ⟨some true, 1⟩, some ⟨some true, 1⟩⟩, "linux"⟩
    let m : Message := ⟨.discovery, ⟨some [⟨1, some "ora_pmon_X"⟩]⟩⟩
    ∃ s, Run env { Sys.init 1 Nat.one_pos with ctxDone := true }
        ([] ++ [.spawn] ++ [.tau] ++ [.deliver m] ++ [.tau] ++ [.tau]) s ∧
      s.inbound = .check ∧ s.commonCh.buf = [m] ∧ s.start = .waitWorkload ∧
      ∀ ch l s', inboundStep s ch = some (l, s') → l = .tau ∧ s' = s := by
  intro env m
  have run : Run env { Sys.init 1 Nat.one_pos with ctxDone := true }
      ([] ++ [.spawn] ++ [.tau] ++ [.deliver m] ++ [.tau] ++ [.tau]) _ :=
    .step (.step (.step (.step (.step (.refl _) (.start rfl)) (.start rfl)) (.deliver rfl))
      (.inbound .proceed rfl)) (.start rfl)
  obtain ⟨-, hspin⟩ :=
    cancelled_start_never_returns env _ rfl rfl 1 Nat.one_pos _ _ run
  exact ⟨_, run, rfl, rfl, rfl, hspin⟩

end WorkloadAgent.Oracle
