import WorkloadAgent.WorkloadManager.OverrideCalls
import WorkloadAgent.WorkloadManager.Ticks

/-! sendMetricsToDataWarehouse returns under every interleaving, given that each
WriteInsightAndGetResponse call returns. Every step uses up one of a bounded stock of steps
(five per element and two more), and no reachable state but the returned one is stuck:
while `wg.Wait()` blocks, the counter is positive, so some goroutine is not done and can
move. Lifted into the tick loop of CollectAndSendMetricsToDataWarehouse, this lets the loop
return from every reachable state once ctx is done, without starting another iteration. -/
namespace WorkloadAgent.WorkloadManager

/-- The steps goroutine `w` has left. -/
def WorkerPc.remaining : WorkerPc → Nat
  | .ready => 3
  | .calling => 2
  | .sent => 1
  | .exited => 0
  | .panicked => 0

/-- The steps sendMetricsToDataWarehouse's own goroutine has left among `n` elements, with
the three of each goroutine it has still to spawn. -/
def MainPc.remaining (n : Nat) : MainPc → Nat
  | .range i => 5 * (n - i) + 2
  | .go i _ => 5 * (n - i) + 1
  | .wait => 1
  | .returned => 0

/-- The steps the spawned goroutines have left. -/
def remainingOf : List Worker → Nat
  | [] => 0
  | w :: ws => w.pc.remaining + remainingOf ws

def Ship.remaining (n : Nat) (s : Ship) : Nat := s.pc.remaining n + remainingOf s.workers

@[simp] theorem remainingOf_append (ws ws' : List Worker) :
    remainingOf (ws ++ ws') = remainingOf ws + remainingOf ws' := by
  induction ws with
  | nil => simp [remainingOf]
  | cons w ws ih => simp [remainingOf, ih]; omega

theorem remainingOf_set (a : Worker) {w : Worker} :
    ∀ (ws : List Worker) (j : Nat), ws[j]? = some w →
      remainingOf (ws.set j a) + w.pc.remaining = remainingOf ws + a.pc.remaining
  | [], _, h => by simp at h
  | x :: ws, 0, h => by simp at h; subst h; simp [remainingOf]; omega
  | x :: ws, j + 1, h => by
    have := remainingOf_set a ws j (by simpa using h)
    simp only [List.set_cons_succ, remainingOf]
    omega

variable {agentVersion : String} {params : SendMetricsParams} {tr : List ShipLabel}
  {s s' : Ship} {l : ShipLabel}

theorem ShipInv.remaining_step (hi : ShipInv agentVersion params tr s)
    (h : ShipStep agentVersion params s l s') :
    s'.remaining params.wm.length + 1 = s.remaining params.wm.length := by
  cases h with
  | main h =>
    have hmain := hi.main
    rcases sendMetricsStep_cases h with ⟨i, wm, hpc, hwm, rfl, rfl⟩ | ⟨i, hpc, hwm, rfl, rfl⟩ |
      ⟨i, wm, hpc, rfl, rfl⟩ | ⟨hpc, hc, rfl, rfl⟩ <;>
      simp only [MainOK, hpc] at hmain <;> simp only [Ship.remaining, MainPc.remaining, hpc]
    · omega
    · have := List.getElem?_eq_none_iff.mp hwm; omega
    · have := (List.getElem?_eq_some_iff.mp hmain.2).1
      simp only [remainingOf_append, remainingOf, WorkerPc.remaining]
      omega
    · omega
  | @worker j w _ counter pc hj h =>
    have hsum := remainingOf_set { w with pc := pc } s.workers j hj
    have hdrop : pc.remaining + 1 = w.pc.remaining := by
      rcases workerStep_cases h with ⟨hw, -, -, rfl⟩ | ⟨hw, -, -, rfl⟩ | ⟨hw, -, -, -, rfl⟩ |
        ⟨hw, -, -, -, rfl⟩ <;> simp [hw, WorkerPc.remaining]
    simp only [Ship.remaining] at hsum ⊢
    omega

theorem workerStep_some (agentVersion : String) (cp : Option CloudProperties) (j counter : Nat)
    {w : Worker} (hlive : w.pc ≠ .exited) (hpanic : w.pc ≠ .panicked) :
    ∃ l counter' pc, workerStep agentVersion cp j counter w = some (l, counter', pc) := by
  cases hw : w.pc with
  | ready | calling => simp [workerStep, hw]
  | sent => by_cases hc : counter = 0 <;> simp [workerStep, hw, hc]
  | exited => exact absurd hw hlive
  | panicked => exact absurd hw hpanic

theorem ShipInv.progress (hi : ShipInv agentVersion params tr s) (hret : s.pc ≠ .returned) :
    ∃ l s', ShipStep agentVersion params s l s' := by
  by_cases hmain : ∃ r, sendMetricsStep params s = some r
  · obtain ⟨⟨l, s'⟩, h⟩ := hmain
    exact ⟨l, s', .main h⟩
  have hwait : s.pc = .wait ∧ s.counter ≠ 0 := by
    cases hpc : s.pc with
    | range i => cases hwm : params.wm[i]? <;> simp [sendMetricsStep, hpc, hwm] at hmain
    | go i wm => simp [sendMetricsStep, hpc] at hmain
    | wait => exact ⟨rfl, fun hc => hmain (by simp [sendMetricsStep, hpc, hc])⟩
    | returned => exact absurd hpc hret
  have hpos : 0 < s.workers.countP (·.pc != .exited) := by
    have := hi.counter
    simp only [hwait.1, MainPc.adding] at this
    omega
  obtain ⟨w, hw, hlive⟩ := List.countP_pos_iff.mp hpos
  obtain ⟨j, hj⟩ := List.mem_iff_getElem?.mp hw
  obtain ⟨l, counter, pc, h⟩ :=
    workerStep_some agentVersion params.cp j s.counter (by simpa using hlive) (hi.noPanic w hw)
  exact ⟨l, _, .worker hj h⟩

theorem ShipRun.length_add_remaining (run : ShipRun agentVersion params Ship.init tr s) :
    tr.length + s.remaining params.wm.length = 5 * params.wm.length + 2 := by
  induction run with
  | refl => simp [Ship.remaining, Ship.init, MainPc.remaining, remainingOf]
  | step run hstep ih =>
    have := (ShipRun.inv run).remaining_step hstep
    simp only [List.length_append, List.length_singleton]
    omega

theorem ShipRun.completes (run : ShipRun agentVersion params Ship.init tr s) :
    ∃ tr' s', ShipRun agentVersion params s tr' s' ∧ s'.pc = .returned := by
  generalize hm : s.remaining params.wm.length = m
  induction m using Nat.strong_induction_on generalizing tr s with
  | _ m ih =>
    by_cases hret : s.pc = .returned
    · exact ⟨[], s, .refl s, hret⟩
    obtain ⟨l, s', h⟩ := run.inv.progress hret
    have hdec := run.inv.remaining_step h
    obtain ⟨tr', s'', run', hret'⟩ := ih _ (by omega) (run.step h) rfl
    exact ⟨l :: tr', s'', Steps.cons h run', hret'⟩

/-- sendMetricsToDataWarehouse returns under every interleaving, as long as each call
returns: every run from the start takes at most five steps per element and two more, no
reachable state but the returned one is stuck, and from every reachable state some run
reaches `wg.Wait()` returned. -/
theorem sendMetricsToDataWarehouse_returns (agentVersion : String) (params : SendMetricsParams)
    (tr : List ShipLabel) (s : Ship) (run : ShipRun agentVersion params Ship.init tr s) :
    tr.length ≤ 5 * params.wm.length + 2 ∧
    (s.pc ≠ .returned → ∃ l s', ShipStep agentVersion params s l s') ∧
    ∃ tr' s', ShipRun agentVersion params s tr' s' ∧ s'.pc = .returned :=
  ⟨by have := run.length_add_remaining; omega, run.inv.progress, run.completes⟩

/-- Two elements, both goroutines spawned and the second one calling. -/
theorem sendMetricsToDataWarehouse_returns_two :
    let w₀ : WorkloadMetrics := ⟨"ORACLE", StrMap.empty⟩
    let w₁ : WorkloadMetrics := ⟨"REDIS", StrMap.empty⟩
    let params : SendMetricsParams := ⟨[w₀, w₁], none⟩
    ∃ tr s, ShipRun "1" params Ship.init tr s ∧ s.pc = .wait ∧
      ∃ tr' s', ShipRun "1" params s tr' s' ∧ s'.pc = .returned := by
  intro w₀ w₁ params
  have run : ShipRun "1" params Ship.init ([] ++ [.add] ++ [.spawn 0 w₀] ++ [.add] ++
      [.spawn 1 w₁] ++ [.rangeEnd] ++ [.call 1 (sendDataInsight "1" w₁ none)]) _ :=
    .step (.step (.step (.step (.step (.step (.refl _) (.main rfl)) (.main rfl)) (.main rfl))
      (.main rfl)) (.main rfl)) (@ShipStep.worker _ _ _ 1 _ _ _ _ rfl rfl)
  exact ⟨_, _, run, rfl, (sendMetricsToDataWarehouse_returns "1" params _ _ run).2.2⟩

theorem CollectRun.ship_run {env : CollectEnv} {params : SendMetricsParams} {s s' : Ship}
    {str : List ShipLabel} (run : ShipRun env.agentVersion params s str s') {c : Collector}
    (hpc : c.pc = .ship params s) :
    CollectRun env c (str.map (.ship c.tick)) { c with pc := .ship params s' } := by
  induction run with
  | refl => rw [← hpc]; exact .refl c
  | step _ hstep ih => rw [List.map_append]; exact .step ih (.ship rfl hstep)

theorem CollectRun.finish_ship {env : CollectEnv} {c : Collector} {params : SendMetricsParams}
    {s : Ship} {str : List ShipLabel} (hc : c.ctxDone = true) (hpc : c.pc = .ship params s)
    (hship : ShipRun env.agentVersion params Ship.init str s) :
    ∃ tr' c', CollectRun env c tr' c' ∧ c'.pc = .returned ∧ c'.tick = c.tick := by
  obtain ⟨str', s', srun, hret⟩ := hship.completes
  exact ⟨_, _, .step (.step (CollectRun.ship_run srun hpc) (.shipped rfl hret)) (.stop rfl hc),
    rfl, rfl⟩

theorem CollectRun.finish_collect {env : CollectEnv} {c : Collector} (hc : c.ctxDone = true)
    (hpc : c.pc = .collect) (file : Except String (List String)) :
    ∃ wm tr' c', collectOverrideMetrics file = some wm ∧
      CollectRun env c (.collected c.tick wm :: tr') c' ∧ c'.pc = .returned ∧ c'.tick = c.tick := by
  obtain ⟨wm, hwm⟩ : ∃ wm, collectOverrideMetrics file = some wm := by
    cases file with
    | error => exact ⟨[], rfl⟩
    | ok lines => exact ⟨_, collectOverrideMetrics_eq_fold lines⟩
  obtain ⟨tr', c', run', hret, htick⟩ :=
    CollectRun.finish_ship (c := { c with pc := .ship ⟨wm, env.cp⟩ .init }) hc rfl (.refl _)
  exact ⟨wm, tr', c', hwm, Steps.cons (.collect file hpc hwm) run', hret, htick⟩

theorem CollectRun.finish_entry {env : CollectEnv} {c : Collector} (hc : c.ctxDone = true)
    (hpc : c.pc = .entry) (file : Except String (List String)) :
    ∃ tr' c', CollectRun env c tr' c' ∧ c'.pc = .returned ∧ c'.tick = c.tick ∧
      (readAndLogMetricOverrideYAML file = true →
        ∃ wm, collectOverrideMetrics file = some wm ∧ .collected c.tick wm ∈ tr') := by
  have hentry : CollectStep env c .tau _ := .entry file hpc
  cases hread : readAndLogMetricOverrideYAML file
  · exact ⟨_, _, .step (.refl c) hentry, by simp [hread], rfl, nofun⟩
  · obtain ⟨wm, tr', c', hwm, run', hret, htick⟩ :=
      CollectRun.finish_collect (c := { c with pc := .collect }) hc rfl file
    exact ⟨_, c', Steps.cons (by simpa [hread] using hentry) run', hret, htick,
      fun _ => ⟨wm, hwm, by simp⟩⟩

/-- Once ctx is done, CollectAndSendMetricsToDataWarehouse can return from every reachable
state without starting another iteration: the goroutines of the current send finish, and
the select then takes ctx.Done. A read still to come may give any file: every read at the
top of the loop yields metrics whose send completes, and a file first read at entry is
collected and sent when it is readable. -/
theorem collectAndSendMetricsToDataWarehouse_returns_after_cancel (env : CollectEnv)
    (tr : List CollectLabel) (c : Collector) (run : CollectRun env Collector.init tr c)
    (hc : c.ctxDone = true) :
    (∃ tr' c', CollectRun env c tr' c' ∧ c'.pc = .returned ∧ c'.tick = c.tick) ∧
    (c.pc = .entry → ∀ file, ∃ tr' c', CollectRun env c tr' c' ∧ c'.pc = .returned ∧
      c'.tick = c.tick ∧ (readAndLogMetricOverrideYAML file = true →
        ∃ wm, collectOverrideMetrics file = some wm ∧ .collected c.tick wm ∈ tr')) ∧
    (c.pc = .collect → ∀ file, ∃ wm tr' c', collectOverrideMetrics file = some wm ∧
      CollectRun env c (.collected c.tick wm :: tr') c' ∧ c'.pc = .returned ∧
      c'.tick = c.tick) := by
  refine ⟨?_, CollectRun.finish_entry hc, CollectRun.finish_collect hc⟩
  cases hpc : c.pc with
  | entry =>
    obtain ⟨tr', c', run', hret, htick, -⟩ := @CollectRun.finish_entry env c hc hpc (.ok [])
    exact ⟨tr', c', run', hret, htick⟩
  | collect =>
    obtain ⟨_, tr', c', -, run', hret, htick⟩ :=
      @CollectRun.finish_collect env c hc hpc (.ok [])
    exact ⟨_, c', run', hret, htick⟩
  | ship params s =>
    have hnow := (CollectRun.inv run).now
    simp only [CollectAt, hpc] at hnow
    exact CollectRun.finish_ship hc hpc hnow
  | select => exact ⟨[.tau], _, .step (.refl c) (.stop hpc hc), rfl, rfl⟩
  | returned => exact ⟨[], c, .refl c, hpc, rfl⟩

/-- Cancelled in the middle of a send of two elements: the first goroutine is calling and
the second is not yet spawned. -/
theorem collectAndSendMetricsToDataWarehouse_returns_after_cancel_sending :
    let env : CollectEnv := ⟨"1", none⟩
    let wm : List WorkloadMetrics := [⟨"ORACLE", StrMap.empty⟩, ⟨"REDIS", StrMap.empty⟩]
    ∃ tr c, CollectRun env Collector.init tr c ∧ c.ctxDone = true ∧ .collected 0 wm ∈ tr ∧
      (∃ s, c.pc = .ship ⟨wm, env.cp⟩ s ∧ s.pc = .range 1) ∧
      ∃ tr' c', CollectRun env c tr' c' ∧ c'.pc = .returned ∧ c'.tick = c.tick := by
  intro env wm
  have hwm : collectOverrideMetrics (.ok ["workload_type: ORACLE", "workload_type: REDIS"]) =
      some wm := by decide
  have run : CollectRun env Collector.init ([] ++ [.tau] ++ [.collected 0 wm] ++ [.ship 0 .add] ++
      [.ship 0 (.spawn 0 ⟨"ORACLE", StrMap.empty⟩)] ++
      [.ship 0 (.call 0 (sendDataInsight "1" ⟨"ORACLE", StrMap.empty⟩ none))] ++ [.cancel]) _ :=
    .step (.step (.step (.step (.step (.step (.refl _)
      (.entry (.ok ["workload_type: ORACLE", "workload_type: REDIS"]) rfl)) (.collect _ rfl hwm))
      (.ship rfl (.main rfl))) (.ship rfl (.main rfl)))
      (.ship rfl (@ShipStep.worker _ _ _ 0 _ _ _ _ rfl rfl))) (.cancel _)
  exact ⟨_, _, run, rfl, by simp, ⟨_, rfl, rfl⟩,
    (collectAndSendMetricsToDataWarehouse_returns_after_cancel env _ _ run rfl).1⟩

end WorkloadAgent.WorkloadManager
