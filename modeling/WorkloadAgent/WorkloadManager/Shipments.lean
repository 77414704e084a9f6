import WorkloadAgent.WorkloadManager.ShipperProgress

/-! What sendMetricsToDataWarehouse has sent at any point, and what each iteration of
CollectAndSendMetricsToDataWarehouse ships. Each goroutine is passed its element by value,
so whatever the interleaving, goroutine `j`'s call is element `j`'s request; and the labels
of an iteration of the tick loop are a run of its own call on the metrics that iteration
collected, so once `wg.Wait()` has returned the iteration has shipped exactly those. -/
namespace WorkloadAgent.WorkloadManager

variable {agentVersion : String} {params : SendMetricsParams} {tr : List ShipLabel}
  {s s' : Ship} {l : ShipLabel}

/-- QuietSendDataInsight, which the data warehouse activation check uses: the call
SendDataInsight makes, without its logging and usage metric. -/
def quietSendDataInsight (agentVersion : String) (wm : WorkloadMetrics)
    (cp : Option CloudProperties) : InsightCall :=
  sendDataInsight agentVersion wm cp

theorem ShipInv.call_spec (hi : ShipInv agentVersion params tr s) {j : Nat} {c : InsightCall}
    (hc : (j, c) ∈ calls tr) :
    ∃ w, params.wm[j]? = some w ∧ c = sendDataInsight agentVersion w params.cp := by
  have hm : .call j c ∈ workerLabels j tr := mem_workerLabels.mpr ⟨mem_calls.mp hc, rfl⟩
  rw [hi.history j] at hm
  cases hw : s.workers[j]? with
  | none => simp [hw] at hm
  | some w =>
    have hlt := (List.getElem?_eq_some_iff.mp hw).1
    have hspawn : (params.wm.take s.workers.length)[j]? = some w.wm := by
      rw [← hi.spawned]; simp [hw]
    refine ⟨w.wm, by simpa [hlt] using hspawn, ?_⟩
    cases hpc : w.pc <;> simp [hw, Worker.history, hpc] at hm <;> exact hm

theorem enum_requests_map_snd (agentVersion : String) (params : SendMetricsParams) :
    (params.wm.enum.map fun x => (x.1, sendDataInsight agentVersion x.2 params.cp)).map
      Prod.snd = params.wm.map fun w => sendDataInsight agentVersion w params.cp := by
  conv_rhs => rw [← List.enum_map_snd params.wm]
  simp only [List.map_map, Function.comp_def]

/-- sendMetricsToDataWarehouse at any point of any interleaving of its goroutines: the
goroutine spawned for element `j` of `wm` calls WriteInsightAndGetResponse with that
element's request (the loop variable is passed by value, never shared), and the calls made
so far are a sub-multiset of the requests for `wm`, at most one per element. -/
theorem sendMetricsToDataWarehouse_calls_so_far (agentVersion : String)
    (params : SendMetricsParams) (tr : List ShipLabel) (s : Ship)
    (run : ShipRun agentVersion params Ship.init tr s) :
    (∀ j c, (j, c) ∈ calls tr →
      ∃ w, params.wm[j]? = some w ∧ c = sendDataInsight agentVersion w params.cp) ∧
    List.Subperm ((calls tr).map (·.2))
      (params.wm.map fun w => sendDataInsight agentVersion w params.cp) := by
  have hi := run.inv
  refine ⟨fun j c hc => hi.call_spec hc, ?_⟩
  have hsub : List.Subperm (calls tr)
      (params.wm.enum.map fun x => (x.1, sendDataInsight agentVersion x.2 params.cp)) := by
    refine List.subperm_of_subset (hi.callOnce.of_map _) fun ⟨j, c⟩ hc => ?_
    obtain ⟨w, hw, rfl⟩ := hi.call_spec hc
    exact List.mem_map.mpr ⟨(j, w), List.mem_enum_iff_getElem?.mpr hw, rfl⟩
  obtain ⟨l, hperm, hsubl⟩ := hsub
  exact enum_requests_map_snd agentVersion params ▸ ⟨l.map _, hperm.map _, hsubl.map _⟩

/-- Two elements, the second goroutine calling before the first has called. -/
theorem sendMetricsToDataWarehouse_calls_so_far_second_first :
    let w₀ : WorkloadMetrics := ⟨"ORACLE", StrMap.empty⟩
    let w₁ : WorkloadMetrics := ⟨"REDIS", StrMap.empty⟩
    let params : SendMetricsParams := ⟨[w₀, w₁], none⟩
    ∃ tr s, ShipRun "1" params Ship.init tr s ∧ calls tr = [(1, sendDataInsight "1" w₁ none)] ∧
      List.Subperm ((calls tr).map (·.2)) (params.wm.map fun w => sendDataInsight "1" w params.cp) := by
  intro w₀ w₁ params
  have run : ShipRun "1" params Ship.init ([] ++ [.add] ++ [.spawn 0 w₀] ++ [.add] ++
      [.spawn 1 w₁] ++ [.rangeEnd] ++ [.call 1 (sendDataInsight "1" w₁ none)]) _ :=
    .step (.step (.step (.step (.step (.step (.refl _) (.main rfl)) (.main rfl)) (.main rfl))
      (.main rfl)) (.main rfl)) (@ShipStep.worker _ _ _ 1 _ _ _ _ rfl rfl)
  exact ⟨_, _, run, rfl, (sendMetricsToDataWarehouse_calls_so_far "1" params _ _ run).2⟩

theorem ShipStep.waited_returned (h : ShipStep agentVersion params s .waited s') :
    s'.pc = .returned := by
  cases h with
  | main h =>
    rcases sendMetricsStep_cases h with ⟨_, _, _, _, hl, _⟩ | ⟨_, _, _, hl, _⟩ |
      ⟨_, _, _, hl, _⟩ | ⟨_, _, _, rfl⟩
    · exact ShipLabel.noConfusion hl
    · exact ShipLabel.noConfusion hl
    · exact ShipLabel.noConfusion hl
    · rfl
  | worker _ h =>
    rcases workerStep_cases h with ⟨_, hl, _⟩ | ⟨_, hl, _⟩ | ⟨_, _, hl, _⟩ | ⟨_, _, hl, _⟩ <;>
      exact ShipLabel.noConfusion hl

theorem ShipInv.stuck_of_returned (hi : ShipInv agentVersion params tr s)
    (hret : s.pc = .returned) : ¬ ShipStep agentVersion params s l s' := by
  intro h
  cases h with
  | main h => simp [sendMetricsStep, hret] at h
  | worker hj h =>
    have hz : s.workers.countP (·.pc != .exited) = 0 := by
      have hc := hi.counter
      have hm := hi.main
      simp only [MainOK, hret, MainPc.adding] at hc hm
      omega
    have hw := List.countP_eq_zero.mp hz _ (List.getElem?_mem hj)
    simp only [bne_iff_ne, ne_eq, Decidable.not_not] at hw
    simp [workerStep, hw] at h

theorem ShipRun.waited_last (run : ShipRun agentVersion params Ship.init tr s)
    {pre post : List ShipLabel} (h : tr = pre ++ .waited :: post) : post = [] := by
  rcases post with _ | ⟨l, post⟩
  · rfl
  obtain ⟨t, t', hrun, hstep⟩ := run.split (show tr = (pre ++ [.waited]) ++ l :: post by simp [h])
  obtain ⟨u, hu, hw⟩ := Steps.snoc_inv hrun
  exact absurd hstep ((ShipRun.inv hrun).stuck_of_returned hw.waited_returned)

theorem ShipStep.returned_of_ne_waited (h : ShipStep agentVersion params s l s')
    (hl : l ≠ .waited) (hret : s'.pc = .returned) : s.pc = .returned := by
  cases h with
  | main h =>
    rcases sendMetricsStep_cases h with ⟨_, _, _, _, _, rfl⟩ | ⟨_, _, _, _, rfl⟩ |
      ⟨_, _, _, _, rfl⟩ | ⟨_, _, hw, _⟩
    · cases hret
    · cases hret
    · cases hret
    · exact absurd hw hl
  | worker _ _ => exact hret

theorem ShipRun.waited_of_returned (run : ShipRun agentVersion params Ship.init tr s)
    (hret : s.pc = .returned) : .waited ∈ tr := by
  induction run with
  | refl => cases hret
  | @step _ _ _ l _ hstep ih =>
    by_cases hl : l = .waited
    · simp [hl]
    · exact List.mem_append_left _ (ih (hstep.returned_of_ne_waited hl hret))

/-- sendMetricsToDataWarehouse, for every `wm` and over every interleaving of the goroutines
it spawns: each goroutine calls WriteInsightAndGetResponse at most once, with the project,
the region and createWriteInsightRequest of its own element, and `wg.Done()` never panics.
Every run can go on until `wg.Wait()` returns, and when it does the calls made are one per
element of `wm`, each with that element's request, and every one has returned. In the tick
loop of CollectAndSendMetricsToDataWarehouse, when a call of an iteration starts, every
call of every earlier iteration has returned. -/
theorem sendMetricsToDataWarehouse_join (agentVersion : String) (params : SendMetricsParams)
    (tr : List ShipLabel) (s : Ship) (run : ShipRun agentVersion params Ship.init tr s) :
    ((calls tr).map (·.1)).Nodup ∧ (∀ j, .negativeCounter j ∉ tr) ∧
    (∀ j c, (j, c) ∈ calls tr → ∃ w, params.wm[j]? = some w ∧
      c = ⟨getProjectId params.cp, getRegion params.cp,
        createWriteInsightRequest agentVersion w params.cp⟩) ∧
    (∃ tr' s', ShipRun agentVersion params s tr' s' ∧ .waited ∈ tr ++ tr') ∧
    (∀ pre post, tr = pre ++ .waited :: post →
      List.Perm ((calls pre).map (·.2)) (params.wm.map fun w =>
        ⟨getProjectId params.cp, getRegion params.cp,
          createWriteInsightRequest agentVersion w params.cp⟩) ∧
      ∀ j c, (j, c) ∈ calls pre → .reply j ∈ pre) ∧
    (∀ env ctr c, CollectRun env Collector.init ctr c →
      ∀ pre t j call post, ctr = pre ++ .ship t (.call j call) :: post →
        ∀ t' < t, AllReplied t' pre) := by
  have hi := run.inv
  obtain ⟨tr', s', run', hret⟩ := run.completes
  refine ⟨hi.callOnce, hi.noNegative, fun j c hc => hi.call_spec hc,
    ⟨tr', s', run', ShipRun.waited_of_returned (run.append run') hret⟩, fun pre post h => ?_,
    fun env ctr c crun pre t j call post h => crun.call_after_replies h⟩
  obtain ⟨u, u', hrun, hstep⟩ := run.split h
  obtain ⟨hpc, hc⟩ := hstep.waited_pre
  exact (ShipRun.inv hrun).joined (.inl hpc) hc

/-- Two elements: both goroutines call and return, then `wg.Wait()` returns having made
exactly the two elements' calls. -/
theorem sendMetricsToDataWarehouse_join_two :
    let w₀ : WorkloadMetrics := ⟨"ORACLE", StrMap.empty⟩
    let w₁ : WorkloadMetrics := ⟨"REDIS", StrMap.empty⟩
    let params : SendMetricsParams := ⟨[w₀, w₁], none⟩
    let pre : List ShipLabel := [.add, .spawn 0 w₀, .add, .spawn 1 w₁, .rangeEnd,
      .call 0 (sendDataInsight "1" w₀ none), .call 1 (sendDataInsight "1" w₁ none), .reply 1,
      .reply 0, .done 1, .done 0]
    ∃ s, ShipRun "1" params Ship.init (pre ++ [.waited]) s ∧
      List.Perm ((calls pre).map (·.2)) (params.wm.map fun w =>
        ⟨getProjectId none, getRegion none, createWriteInsightRequest "1" w none⟩) := by
  intro w₀ w₁ params pre
  have run : ShipRun "1" params Ship.init ([] ++ [.add] ++ [.spawn 0 w₀] ++ [.add] ++
      [.spawn 1 w₁] ++ [.rangeEnd] ++ [.call 0 (sendDataInsight "1" w₀ none)] ++
      [.call 1 (sendDataInsight "1" w₁ none)] ++ [.reply 1] ++ [.reply 0] ++ [.done 1] ++
      [.done 0] ++ [.waited]) _ :=
    .step (.step (.step (.step (.step (.step (.step (.step (.step (.step (.step (.step (.refl _)
      (.main rfl)) (.main rfl)) (.main rfl)) (.main rfl)) (.main rfl))
      (@ShipStep.worker _ _ _ 0 _ _ _ _ rfl rfl)) (@ShipStep.worker _ _ _ 1 _ _ _ _ rfl rfl))
      (@ShipStep.worker _ _ _ 1 _ _ _ _ rfl rfl)) (@ShipStep.worker _ _ _ 0 _ _ _ _ rfl rfl))
      (@ShipStep.worker _ _ _ 1 _ _ _ _ rfl rfl)) (@ShipStep.worker _ _ _ 0 _ _ _ _ rfl rfl))
      (.main rfl)
  exact ⟨_, run, ((sendMetricsToDataWarehouse_join "1" params _ _ run).2.2.2.2.1 pre [] rfl).1⟩

theorem mem_shipTrace {t : Nat} {l : ShipLabel} {tr : List CollectLabel} :
    l ∈ shipTrace t tr ↔ .ship t l ∈ tr := by
  induction tr with
  | nil => simp [shipTrace]
  | cons x tr ih =>
    cases x with
    | ship t' l' =>
      by_cases h : t' = t
      · subst h; simp [shipTrace, ih]
      · simp [shipTrace, h, ih, Ne.symm h]
    | _ => simp [shipTrace, ih]

/-- What the tick loop has done with the metrics it collected: the labels of each iteration
that collected are a run of sendMetricsToDataWarehouse on those metrics; an iteration
collects once; the current one has not collected before its collect step; and the call in
progress is on what the current iteration collected. -/
structure ShipsCollected (env : CollectEnv) (tr : List CollectLabel) (c : Collector) : Prop where
  runs : ∀ t wm, .collected t wm ∈ tr →
    t ≤ c.tick ∧ ∃ s, ShipRun env.agentVersion ⟨wm, env.cp⟩ Ship.init (shipTrace t tr) s
  once : ∀ t wm wm', .collected t wm ∈ tr → .collected t wm' ∈ tr → wm = wm'
  fresh : ∀ wm, .collected c.tick wm ∈ tr → c.pc ≠ .entry ∧ c.pc ≠ .collect
  current : ∀ params s, c.pc = .ship params s →
    ∃ wm, params = ⟨wm, env.cp⟩ ∧ .collected c.tick wm ∈ tr

section TickLoop

variable {env : CollectEnv} {tr : List CollectLabel} {c c' : Collector} {l : CollectLabel}

theorem mem_collected_snoc_of_ne {t : Nat} {wm : List WorkloadMetrics}
    (hl : ∀ t wm, l ≠ .collected t wm) : .collected t wm ∈ tr ++ [l] ↔ .collected t wm ∈ tr := by
  simp only [List.mem_append, List.mem_singleton, or_iff_left_iff_imp]
  exact fun h => absurd h.symm (hl t wm)

theorem ShipsCollected.silent (hi : ShipsCollected env tr c) (hl : l = .tau ∨ l = .cancel)
    (htick : c.tick ≤ c'.tick)
    (hfresh : ∀ wm, .collected c'.tick wm ∈ tr → c'.pc ≠ .entry ∧ c'.pc ≠ .collect)
    (hcurrent : ∀ params s, c'.pc = .ship params s →
      ∃ wm, params = ⟨wm, env.cp⟩ ∧ .collected c'.tick wm ∈ tr) :
    ShipsCollected env (tr ++ [l]) c' := by
  have hmem : ∀ t wm, .collected t wm ∈ tr ++ [l] ↔ .collected t wm ∈ tr := fun t wm =>
    mem_collected_snoc_of_ne (by rcases hl with rfl | rfl <;> exact fun _ _ => nofun)
  have hq := shipTrace_quiet (l := l) tr (by rcases hl with rfl | rfl <;> exact fun _ => rfl)
  refine ⟨fun t wm h => ?_, fun t wm wm' h h' => hi.once t wm wm' ((hmem _ _).mp h)
    ((hmem _ _).mp h'), fun wm h => hfresh wm ((hmem _ _).mp h), fun params s h => ?_⟩
  · obtain ⟨hle, run⟩ := hi.runs t wm ((hmem _ _).mp h)
    exact ⟨hle.trans htick, by rw [hq]; exact run⟩
  · obtain ⟨wm, hp, hm⟩ := hcurrent params s h
    exact ⟨wm, hp, (hmem _ _).mpr hm⟩

theorem ShipsCollected.step (hi : ShipsCollected env tr c) (hc : CollectInv env tr c)
    (h : CollectStep env c l c') : ShipsCollected env (tr ++ [l]) c' := by
  have hnow := hc.now
  cases h with
  | entry file hpc =>
    exact hi.silent (.inl rfl) le_rfl (fun wm hm => absurd hpc (hi.fresh wm hm).1)
      fun _ _ h => by split_ifs at h
  | @collect wm file hpc hwm =>
    simp only [CollectAt, hpc] at hnow
    have hnew : ∀ wm', .collected c.tick wm' ∉ tr := fun wm' hm => (hi.fresh wm' hm).2 hpc
    refine ⟨fun t wm' h => ?_, fun t w w' h h' => ?_, fun _ _ => ⟨nofun, nofun⟩,
      fun params s h => ?_⟩
    · rw [shipTrace_quiet (l := .collected c.tick wm) tr (fun _ => rfl)]
      rcases List.mem_append.mp h with h | h
      · exact hi.runs t wm' h
      · obtain ⟨rfl, rfl⟩ : t = c.tick ∧ wm' = wm := by simpa using h
        exact ⟨le_rfl, _, by rw [hnow]; exact .refl _⟩
    · simp only [List.mem_append, List.mem_singleton, CollectLabel.collected.injEq] at h h'
      rcases h with h | ⟨rfl, rfl⟩ <;> rcases h' with h' | ⟨ht, rfl⟩
      · exact hi.once t w w' h h'
      · exact absurd (ht ▸ h) (hnew w)
      · exact absurd h' (hnew w')
      · rfl
    · cases h
      exact ⟨_, rfl, by simp⟩
  | @ship params s s' sl hpc hstep =>
    simp only [CollectAt, hpc] at hnow
    obtain ⟨wm, rfl, hwm⟩ := hi.current _ _ hpc
    have hmem : ∀ t wm', .collected t wm' ∈ tr ++ [.ship c.tick sl] ↔ .collected t wm' ∈ tr :=
      fun t wm' => mem_collected_snoc_of_ne (l := .ship c.tick sl) (fun _ _ => nofun)
    refine ⟨fun t wm' h => ?_, fun t w w' h h' => hi.once t w w' ((hmem _ _).mp h)
      ((hmem _ _).mp h'), fun _ _ => ⟨nofun, nofun⟩,
      fun params s h => ⟨wm, by cases h; rfl, (hmem _ _).mpr hwm⟩⟩
    rw [hmem] at h
    obtain ⟨hle, run⟩ := hi.runs t wm' h
    refine ⟨hle, ?_⟩
    by_cases ht : c.tick = t
    · subst ht
      obtain rfl := hi.once _ _ _ hwm h
      exact ⟨_, by simpa [shipTrace] using hnow.step hstep⟩
    · simpa [shipTrace, ht] using run
  | shipped hpc hret => exact hi.silent (.inl rfl) le_rfl (fun _ _ => ⟨nofun, nofun⟩) fun _ _ => nofun
  | tick hpc =>
    -- the new iteration has collected nothing yet: every collect so far is at most the old tick
    exact hi.silent (.inl rfl) (Nat.le_succ _)
      (fun wm h => absurd (hi.runs _ wm h).1 (Nat.not_succ_le_self _)) fun _ _ => nofun
  | stop hpc _ => exact hi.silent (.inl rfl) le_rfl (fun _ _ => ⟨nofun, nofun⟩) fun _ _ => nofun
  | cancel => exact hi.silent (.inr rfl) le_rfl hi.fresh hi.current

theorem CollectRun.shipsCollected (run : CollectRun env Collector.init tr c) :
    ShipsCollected env tr c := by
  induction run with
  | refl => exact ⟨fun _ _ h => by simp at h, fun _ _ _ h => by simp at h, fun _ h => by simp at h,
      fun _ _ => nofun⟩
  | step run hstep ih => exact ih.step (CollectRun.inv run) hstep

end TickLoop

/-- Over every run of CollectAndSendMetricsToDataWarehouse, each iteration of the tick loop
whose sendMetricsToDataWarehouse has returned from `wg.Wait()` made one
WriteInsightAndGetResponse call per element of the metrics that iteration collected, each
with that element's request, and every one of those calls returned before the iteration
moved on: nothing collected is lost or sent twice, and nothing of another iteration's is
sent in its place. -/
theorem collectAndSendMetricsToDataWarehouse_ships_collected (env : CollectEnv)
    (tr : List CollectLabel) (c : Collector) (run : CollectRun env Collector.init tr c) (t : Nat)
    (wm : List WorkloadMetrics) (hc : .collected t wm ∈ tr) (hw : .ship t .waited ∈ tr) :
    List.Perm ((calls (shipTrace t tr)).map (·.2))
      (wm.map fun w => sendDataInsight env.agentVersion w env.cp) ∧
    ∀ j call, (j, call) ∈ calls (shipTrace t tr) → .reply j ∈ shipTrace t tr := by
  obtain ⟨-, s, srun⟩ := run.shipsCollected.runs t wm hc
  obtain ⟨pre, post, hsplit⟩ := List.append_of_mem (mem_shipTrace.mpr hw)
  obtain rfl := srun.waited_last hsplit
  obtain ⟨u, u', hrun, hstep⟩ := srun.split hsplit
  obtain ⟨hpc, hcnt⟩ := hstep.waited_pre
  obtain ⟨hperm, hrep⟩ := (ShipRun.inv hrun).joined (.inl hpc) hcnt
  have hcalls : calls (pre ++ [.waited]) = calls pre := by simp [calls]
  rw [hsplit, hcalls]
  exact ⟨hperm, fun j call h => List.mem_append_left _ (hrep j call h)⟩

/-- One tick over an override file with two headers: the iteration collects two elements
and spawns their goroutines, which call in the other order and return, and `wg.Wait()`
returns. -/
theorem collectAndSendMetricsToDataWarehouse_ships_collected_two :
    let env : CollectEnv := ⟨"1", none⟩
    let w₀ : WorkloadMetrics := ⟨"ORACLE", StrMap.empty⟩
    let w₁ : WorkloadMetrics := ⟨"REDIS", StrMap.empty⟩
    ∃ tr c, CollectRun env Collector.init tr c ∧ .collected 0 [w₀, w₁] ∈ tr ∧
      .ship 0 .waited ∈ tr ∧
      List.Perm ((calls (shipTrace 0 tr)).map (·.2))
        ([w₀, w₁].map fun w => sendDataInsight env.agentVersion w env.cp) := by
  intro env w₀ w₁
  have hwm : collectOverrideMetrics (.ok ["workload_type: ORACLE", "workload_type: REDIS"]) =
      some [w₀, w₁] := by decide
  have run : CollectRun env Collector.init ([] ++ [.tau] ++ [.collected 0 [w₀, w₁]] ++
      [.ship 0 .add] ++ [.ship 0 (.spawn 0 w₀)] ++ [.ship 0 .add] ++ [.ship 0 (.spawn 1 w₁)] ++
      [.ship 0 .rangeEnd] ++ [.ship 0 (.call 1 (sendDataInsight "1" w₁ none))] ++
      [.ship 0 (.call 0 (sendDataInsight "1" w₀ none))] ++ [.ship 0 (.reply 0)] ++
      [.ship 0 (.reply 1)] ++ [.ship 0 (.done 0)] ++ [.ship 0 (.done 1)] ++
      [.ship 0 .waited]) _ :=
    .step (.step (.step (.step (.step (.step (.step (.step (.step (.step (.step (.step (.step
      (.step (.refl _) (.entry (.ok ["workload_type: ORACLE", "workload_type: REDIS"]) rfl))
      (.collect _ rfl hwm)) (.ship rfl (.main rfl))) (.ship rfl (.main rfl)))
      (.ship rfl (.main rfl))) (.ship rfl (.main rfl))) (.ship rfl (.main rfl)))
      (.ship rfl (@ShipStep.worker _ _ _ 1 _ _ _ _ rfl rfl)))
      (.ship rfl (@ShipStep.worker _ _ _ 0 _ _ _ _ rfl rfl)))
      (.ship rfl (@ShipStep.worker _ _ _ 0 _ _ _ _ rfl rfl)))
      (.ship rfl (@ShipStep.worker _ _ _ 1 _ _ _ _ rfl rfl)))
      (.ship rfl (@ShipStep.worker _ _ _ 0 _ _ _ _ rfl rfl)))
      (.ship rfl (@ShipStep.worker _ _ _ 1 _ _ _ _ rfl rfl))) (.ship rfl (.main rfl))
  exact ⟨_, _, run, by simp, by simp,
    (collectAndSendMetricsToDataWarehouse_ships_collected env _ _ run 0 _ (by simp) (by simp)).1⟩

end WorkloadAgent.WorkloadManager
