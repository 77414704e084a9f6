import WorkloadAgent.WorkloadManager.ShipperJoin

/-! The tick loop of CollectAndSendMetricsToDataWarehouse. The labels of each iteration
form a run of that iteration's sendMetricsToDataWarehouse call, which returns only once all
its calls have; so when a call of iteration `t` starts, every call of every earlier
iteration has returned. -/
namespace WorkloadAgent.WorkloadManager

@[simp] theorem shipTrace_append (t : Nat) (tr tr' : List CollectLabel) :
    shipTrace t (tr ++ tr') = shipTrace t tr ++ shipTrace t tr' := by
  induction tr with
  | nil => rfl
  | cons l tr ih =>
    cases l with
    | ship t' l => simp only [List.cons_append, shipTrace]; split <;> simp [ih]
    | _ => simp [shipTrace, ih]

/-- Every call iteration `t` has started has returned. -/
def AllReplied (t : Nat) (tr : List CollectLabel) : Prop :=
  ∀ j c, .call j c ∈ shipTrace t tr → .reply j ∈ shipTrace t tr

/-- What the tick loop has done in its current iteration, by pc. -/
def CollectAt (env : CollectEnv) (tr : List CollectLabel) (c : Collector) : Prop :=
  match c.pc with
  | .entry => shipTrace c.tick tr = []
  | .collect => shipTrace c.tick tr = []
  | .ship params s => ShipRun env.agentVersion params Ship.init (shipTrace c.tick tr) s
  | .select => AllReplied c.tick tr
  | .returned => True

structure CollectInv (env : CollectEnv) (tr : List CollectLabel) (c : Collector) : Prop where
  earlier : ∀ t < c.tick, AllReplied t tr
  later : ∀ t, c.tick < t → shipTrace t tr = []
  now : CollectAt env tr c

variable {env : CollectEnv} {tr : List CollectLabel} {c c' : Collector} {l : CollectLabel}

theorem CollectInv.init : CollectInv env [] Collector.init where
  earlier t h := absurd h (Nat.not_lt_zero t)
  later _ _ := rfl
  now := rfl

theorem shipTrace_quiet (tr : List CollectLabel) (hl : ∀ t, shipTrace t [l] = []) (t : Nat) :
    shipTrace t (tr ++ [l]) = shipTrace t tr := by
  rw [shipTrace_append, hl, List.append_nil]

theorem CollectInv.quiet (hi : CollectInv env tr c) (hl : ∀ t, shipTrace t [l] = [])
    (htick : c'.tick = c.tick) (hnow : CollectAt env tr c') :
    CollectInv env (tr ++ [l]) c' := by
  have hq := shipTrace_quiet tr hl
  refine ⟨fun t ht => ?_, fun t ht => ?_, ?_⟩
  · unfold AllReplied; rw [hq]; exact hi.earlier t (htick ▸ ht)
  · rw [hq]; exact hi.later t (htick ▸ ht)
  · unfold CollectAt AllReplied at hnow ⊢
    split at hnow <;> simp only [hq] <;> exact hnow

theorem CollectInv.step (hi : CollectInv env tr c) (h : CollectStep env c l c') :
    CollectInv env (tr ++ [l]) c' := by
  have hnow := hi.now
  cases h with
  | entry file hpc =>
    simp only [CollectAt, hpc] at hnow
    refine hi.quiet (fun _ => rfl) rfl ?_
    unfold CollectAt
    split_ifs <;> simp [hnow]
  | collect file hpc _ =>
    simp only [CollectAt, hpc] at hnow
    exact hi.quiet (fun _ => rfl) rfl (by simp only [CollectAt, hnow]; exact .refl _)
  | ship hpc hstep =>
    simp only [CollectAt, hpc] at hnow
    refine ⟨fun t ht => ?_, fun t ht => ?_, ?_⟩
    · simpa [AllReplied, shipTrace, Nat.ne_of_gt ht] using hi.earlier t ht
    · simpa [shipTrace, Nat.ne_of_lt ht] using hi.later t ht
    · simp only [CollectAt, shipTrace_append, shipTrace, if_pos rfl]
      exact hnow.step hstep
  | shipped hpc hret =>
    simp only [CollectAt, hpc] at hnow
    refine hi.quiet (fun _ => rfl) rfl ?_
    have hs := hnow.inv
    have hc : _ := hs.main
    simp only [MainOK, hret] at hc
    intro j call hm
    exact (hs.joined (.inr hret) hc.2).2 j call (mem_calls.mpr hm)
  | tick hpc =>
    simp only [CollectAt, hpc] at hnow
    have hq := shipTrace_quiet tr (fun _ => rfl : ∀ t, shipTrace t [CollectLabel.tau] = [])
    refine ⟨fun t ht => ?_, fun t ht => ?_, ?_⟩
    · unfold AllReplied; rw [hq]
      rcases Nat.lt_succ_iff_lt_or_eq.mp ht with ht | rfl
      · exact hi.earlier t ht
      · exact hnow
    · rw [hq]; exact hi.later t (Nat.lt_of_succ_lt ht)
    · show shipTrace (c.tick + 1) (tr ++ [.tau]) = []
      rw [hq]; exact hi.later _ (Nat.lt_succ_self _)
  | stop hpc _ => exact hi.quiet (fun _ => rfl) rfl trivial
  | cancel => exact hi.quiet (fun _ => rfl) rfl hnow

theorem CollectRun.inv (run : CollectRun env Collector.init tr c) : CollectInv env tr c := by
  induction run with
  | refl => exact CollectInv.init
  | step _ hstep ih => exact ih.step hstep

theorem CollectRun.call_after_replies (run : CollectRun env Collector.init tr c)
    {pre post : List CollectLabel} {t j : Nat} {call : InsightCall}
    (h : tr = pre ++ .ship t (.call j call) :: post) : ∀ t' < t, AllReplied t' pre := by
  obtain ⟨d, d', hrun, hstep⟩ := run.split h
  cases hstep
  exact (CollectRun.inv hrun).earlier

end WorkloadAgent.WorkloadManager
