import Mathlib.Data.List.Nodup
import WorkloadAgent.WorkloadManager.Shipper

/-! sendMetricsToDataWarehouse joins what it spawns. Each goroutine calls
WriteInsightAndGetResponse once, with its own element's request; the WaitGroup's counter is
the number of goroutines not yet done, plus one between `wg.Add(1)` and `go`; so
`wg.Wait()` returns only once every call has returned, and the calls made are then the
image of `wm`. In the tick loop each iteration's labels form a run of its own call, so no
call of one iteration starts before every call of the earlier ones has returned. -/
namespace WorkloadAgent.WorkloadManager

/-- The goroutine a label belongs to, if any. -/
def ShipLabel.worker? : ShipLabel → Option Nat
  | .call j _ => some j
  | .reply j => some j
  | .done j => some j
  | .negativeCounter j => some j
  | _ => none

/-- The labels of goroutine `j`, in order. -/
def workerLabels (j : Nat) (tr : List ShipLabel) : List ShipLabel :=
  tr.filter (·.worker? = some j)

/-- The labels goroutine `j` has produced by the time it is at `w.pc`. -/
def Worker.history (agentVersion : String) (cp : Option CloudProperties) (j : Nat) (w : Worker) :
    List ShipLabel :=
  match w.pc with
  | .ready => []
  | .calling => [.call j (sendDataInsight agentVersion w.wm cp)]
  | .sent => [.call j (sendDataInsight agentVersion w.wm cp), .reply j]
  | .exited => [.call j (sendDataInsight agentVersion w.wm cp), .reply j, .done j]
  | .panicked => [.call j (sendDataInsight agentVersion w.wm cp), .reply j, .negativeCounter j]

@[simp] theorem calls_append (tr tr' : List ShipLabel) :
    calls (tr ++ tr') = calls tr ++ calls tr' := by
  induction tr with
  | nil => rfl
  | cons l tr ih => cases l <;> simp [calls, ih]

theorem mem_calls {j : Nat} {c : InsightCall} {tr : List ShipLabel} :
    (j, c) ∈ calls tr ↔ .call j c ∈ tr := by
  induction tr with
  | nil => simp [calls]
  | cons l tr ih => cases l <;> simp [calls, ih]

theorem workerLabels_snoc_of_none {l : ShipLabel} (hl : l.worker? = none) (j : Nat)
    (tr : List ShipLabel) : workerLabels j (tr ++ [l]) = workerLabels j tr := by
  simp [workerLabels, hl]

theorem mem_workerLabels {j : Nat} {l : ShipLabel} {tr : List ShipLabel} :
    l ∈ workerLabels j tr ↔ l ∈ tr ∧ l.worker? = some j := by
  simp [workerLabels]

theorem count_calls (j : Nat) (tr : List ShipLabel) :
    ((calls tr).map (·.1)).count j = (calls (workerLabels j tr)).length := by
  induction tr with
  | nil => rfl
  | cons l tr ih =>
    simp only [workerLabels, List.filter_cons] at ih ⊢
    cases l <;> split <;> simp_all [calls, ShipLabel.worker?, List.count_cons]

/-- What sendMetricsToDataWarehouse's own goroutine has done at its pc. -/
def MainOK (params : SendMetricsParams) (s : Ship) : Prop :=
  match s.pc with
  | .range i => i = s.workers.length ∧ i ≤ params.wm.length
  | .go i wm => i = s.workers.length ∧ params.wm[i]? = some wm
  | .wait => s.workers.length = params.wm.length
  | .returned => s.workers.length = params.wm.length ∧ s.counter = 0

/-- The goroutine counted by `wg.Add(1)` and not yet spawned. -/
def MainPc.adding : MainPc → Nat
  | .go _ _ => 1
  | _ => 0

structure ShipInv (agentVersion : String) (params : SendMetricsParams) (tr : List ShipLabel)
    (s : Ship) : Prop where
  spawned : s.workers.map (·.wm) = params.wm.take s.workers.length
  main : MainOK params s
  counter : s.counter = s.workers.countP (·.pc != .exited) + s.pc.adding
  noPanic : ∀ w ∈ s.workers, w.pc ≠ .panicked
  history : ∀ j, workerLabels j tr =
    (s.workers[j]?.map (Worker.history agentVersion params.cp j)).getD []

variable {agentVersion : String} {params : SendMetricsParams} {tr : List ShipLabel}
  {s s' : Ship} {l : ShipLabel}

theorem ShipInv.init : ShipInv agentVersion params [] Ship.init where
  spawned := by simp [Ship.init]
  main := ⟨rfl, Nat.zero_le _⟩
  counter := rfl
  noPanic := by simp [Ship.init]
  history j := by simp [workerLabels, Ship.init]

theorem sendMetricsStep_cases (h : sendMetricsStep params s = some (l, s')) :
    (∃ i wm, s.pc = .range i ∧ params.wm[i]? = some wm ∧ l = .add ∧
      s' = { s with pc := .go i wm, counter := s.counter + 1 }) ∨
    (∃ i, s.pc = .range i ∧ params.wm[i]? = none ∧ l = .rangeEnd ∧ s' = { s with pc := .wait }) ∨
    (∃ i wm, s.pc = .go i wm ∧ l = .spawn s.workers.length wm ∧
      s' = { s with pc := .range (i + 1), workers := s.workers ++ [⟨wm, .ready⟩] }) ∨
    (s.pc = .wait ∧ s.counter = 0 ∧ l = .waited ∧ s' = { s with pc := .returned }) := by
  cases hpc : s.pc with
  | range i =>
    simp only [sendMetricsStep, hpc] at h
    cases hwm : params.wm[i]? with
    | some wm =>
      simp only [hwm, Option.some.injEq, Prod.mk.injEq] at h
      exact .inl ⟨i, wm, rfl, hwm, h.1.symm, h.2.symm⟩
    | none =>
      simp only [hwm, Option.some.injEq, Prod.mk.injEq] at h
      exact .inr (.inl ⟨i, rfl, hwm, h.1.symm, h.2.symm⟩)
  | go i wm =>
    simp only [sendMetricsStep, hpc, Option.some.injEq, Prod.mk.injEq] at h
    exact .inr (.inr (.inl ⟨i, wm, rfl, h.1.symm, h.2.symm⟩))
  | wait =>
    simp only [sendMetricsStep, hpc] at h
    split_ifs at h with hc
    simp only [Option.some.injEq, Prod.mk.injEq] at h
    exact .inr (.inr (.inr ⟨rfl, hc, h.1.symm, h.2.symm⟩))
  | returned => simp [sendMetricsStep, hpc] at h

theorem workerStep_cases {cp : Option CloudProperties} {j counter counter' : Nat} {w : Worker}
    {pc : WorkerPc} (h : workerStep agentVersion cp j counter w = some (l, counter', pc)) :
    (w.pc = .ready ∧ l = .call j (sendDataInsight agentVersion w.wm cp) ∧ counter' = counter ∧
      pc = .calling) ∨
    (w.pc = .calling ∧ l = .reply j ∧ counter' = counter ∧ pc = .sent) ∨
    (w.pc = .sent ∧ counter = 0 ∧ l = .negativeCounter j ∧ counter' = counter ∧ pc = .panicked) ∨
    (w.pc = .sent ∧ counter ≠ 0 ∧ l = .done j ∧ counter' = counter - 1 ∧ pc = .exited) := by
  cases hw : w.pc with
  | ready =>
    simp only [workerStep, hw, Option.some.injEq, Prod.mk.injEq] at h
    exact .inl ⟨rfl, h.1.symm, h.2.1.symm, h.2.2.symm⟩
  | calling =>
    simp only [workerStep, hw, Option.some.injEq, Prod.mk.injEq] at h
    exact .inr (.inl ⟨rfl, h.1.symm, h.2.1.symm, h.2.2.symm⟩)
  | sent =>
    simp only [workerStep, hw] at h
    split_ifs at h with hc <;> simp only [Option.some.injEq, Prod.mk.injEq] at h
    · exact .inr (.inr (.inl ⟨rfl, hc, h.1.symm, h.2.1.symm, h.2.2.symm⟩))
    · exact .inr (.inr (.inr ⟨rfl, hc, h.1.symm, h.2.1.symm, h.2.2.symm⟩))
  | exited | panicked => simp [workerStep, hw] at h

theorem ShipInv.main_step (hi : ShipInv agentVersion params tr s)
    (h : sendMetricsStep params s = some (l, s')) : ShipInv agentVersion params (tr ++ [l]) s' := by
  have hmain := hi.main
  rcases sendMetricsStep_cases h with ⟨i, wm, hpc, hwm, rfl, rfl⟩ | ⟨i, hpc, hwm, rfl, rfl⟩ |
    ⟨i, wm, hpc, rfl, rfl⟩ | ⟨hpc, hc, rfl, rfl⟩ <;> simp only [MainOK, hpc] at hmain
  · exact ⟨hi.spawned, ⟨hmain.1, hwm⟩, by simp [MainPc.adding, hi.counter, hpc], hi.noPanic,
      fun j => (workerLabels_snoc_of_none (l := .add) rfl j tr).trans (hi.history j)⟩
  · have := List.getElem?_eq_none_iff.mp hwm
    exact ⟨hi.spawned, by simp only [MainOK]; omega, by simpa [MainPc.adding, hpc] using hi.counter,
      hi.noPanic,
      fun j => (workerLabels_snoc_of_none (l := .rangeEnd) rfl j tr).trans (hi.history j)⟩
  · obtain ⟨rfl, hwm⟩ := hmain
    refine ⟨?_, ⟨by simp, ?_⟩, ?_, List.forall_mem_append.mpr ⟨hi.noPanic, by simp⟩, fun j => ?_⟩
    · simp [List.take_succ, hi.spawned, hwm]
    · simpa using (List.getElem?_eq_some_iff.mp hwm).1
    · simp [MainPc.adding, hi.counter, hpc]
    · rw [workerLabels, List.filter_append, ← workerLabels, hi.history j]
      rcases Nat.lt_or_ge j s.workers.length with hj | hj
      · simp [List.getElem?_append_left hj, ShipLabel.worker?]
      · rw [List.getElem?_append_right hj, List.getElem?_eq_none hj]
        cases j - s.workers.length <;> simp [ShipLabel.worker?, Worker.history]
  · exact ⟨hi.spawned, ⟨hmain, hc⟩, by simpa [MainPc.adding, hpc] using hi.counter, hi.noPanic,
      fun j => (workerLabels_snoc_of_none (l := .waited) rfl j tr).trans (hi.history j)⟩

theorem ShipInv.update (hi : ShipInv agentVersion params tr s) {j counter : Nat} {w w' : Worker}
    (hj : s.workers[j]? = some w) (hlive : w.pc ≠ .exited) (hwm : w'.wm = w.wm)
    (hpanic : w'.pc ≠ .panicked) (hl : l.worker? = some j)
    (hhist : w'.history agentVersion params.cp j = w.history agentVersion params.cp j ++ [l])
    (hcounter : counter = (s.workers.set j w').countP (·.pc != .exited) + s.pc.adding) :
    ShipInv agentVersion params (tr ++ [l])
      { s with counter := counter, workers := s.workers.set j w' } := by
  have hmem : w ∈ s.workers := List.getElem?_mem hj
  refine ⟨?_, ?_, hcounter, fun v hv => ?_, fun j' => ?_⟩
  · have hmap : (s.workers.set j w').map (·.wm) = s.workers.map (·.wm) :=
      List.ext_getElem? fun n => by
        simp only [List.getElem?_map, getElem?_set_of_some hj]
        split <;> simp_all
    simpa [hmap] using hi.spawned
  · have hmain := hi.main
    cases hpc : s.pc with
    | returned =>
      simp only [MainOK, hpc] at hmain
      have hz : s.workers.countP (·.pc != .exited) = 0 := by
        have := hi.counter; simp only [hpc, MainPc.adding] at this; omega
      exact absurd (by simpa using List.countP_eq_zero.mp hz w hmem) hlive
    | _ => simpa [MainOK, hpc] using hmain
  · rcases List.mem_iff_getElem?.mp hv with ⟨n, hn⟩
    rw [getElem?_set_of_some hj] at hn
    split at hn
    · cases hn; exact hpanic
    · exact hi.noPanic v (List.getElem?_mem hn)
  · rw [workerLabels, List.filter_append, ← workerLabels, hi.history j', getElem?_set_of_some hj]
    split
    · subst j'; simp [hj, hhist, hl]
    · simp [hl, *]

theorem ShipInv.worker_step (hi : ShipInv agentVersion params tr s) {j counter : Nat} {w : Worker}
    {pc : WorkerPc} (hj : s.workers[j]? = some w)
    (h : workerStep agentVersion params.cp j s.counter w = some (l, counter, pc)) :
    ShipInv agentVersion params (tr ++ [l])
      { s with counter := counter, workers := s.workers.set j { w with pc := pc } } := by
  obtain ⟨hlt, hget⟩ := List.getElem?_eq_some_iff.mp hj
  have hlive : w.pc ≠ .exited := fun hw => by simp [workerStep, hw] at h
  have hpos : 0 < s.workers.countP (·.pc != .exited) :=
    List.countP_pos_iff.mpr ⟨w, List.getElem?_mem hj, by simpa using hlive⟩
  have hcount := List.countP_set (·.pc != .exited) s.workers j { w with pc := pc } hlt
  rw [hget] at hcount
  rcases workerStep_cases h with ⟨hw, rfl, rfl, rfl⟩ | ⟨hw, rfl, rfl, rfl⟩ | ⟨-, hc, -⟩ |
    ⟨hw, -, rfl, rfl, rfl⟩
  · exact hi.update hj hlive rfl (by simp) rfl (by simp [Worker.history, hw])
      (by simp [hw] at hcount; rw [hi.counter, hcount]; omega)
  · exact hi.update hj hlive rfl (by simp) rfl (by simp [Worker.history, hw])
      (by simp [hw] at hcount; rw [hi.counter, hcount]; omega)
  · have := hi.counter; omega
  · exact hi.update hj hlive rfl (by simp) rfl (by simp [Worker.history, hw])
      (by simp [hw] at hcount; rw [hi.counter, hcount]; omega)

theorem ShipInv.step (hi : ShipInv agentVersion params tr s)
    (h : ShipStep agentVersion params s l s') : ShipInv agentVersion params (tr ++ [l]) s' := by
  cases h with
  | main h => exact hi.main_step h
  | worker hj h => exact hi.worker_step hj h

theorem ShipStep.waited_pre {t t' : Ship} (h : ShipStep agentVersion params t .waited t') :
    t.pc = .wait ∧ t.counter = 0 := by
  cases h with
  | main h =>
    rcases sendMetricsStep_cases h with ⟨_, _, _, _, hl, _⟩ | ⟨_, _, _, hl, _⟩ | ⟨_, _, _, hl, _⟩ |
      ⟨hpc, hc, _⟩
    · exact ShipLabel.noConfusion hl
    · exact ShipLabel.noConfusion hl
    · exact ShipLabel.noConfusion hl
    · exact ⟨hpc, hc⟩
  | worker _ h =>
    rcases workerStep_cases h with ⟨_, hl, _⟩ | ⟨_, hl, _⟩ | ⟨_, _, hl, _⟩ | ⟨_, _, hl, _⟩ <;>
      exact ShipLabel.noConfusion hl

theorem ShipRun.inv (run : ShipRun agentVersion params Ship.init tr s) :
    ShipInv agentVersion params tr s := by
  induction run with
  | refl => exact ShipInv.init
  | step _ hstep ih => exact ih.step hstep

theorem ShipInv.callOnce (hi : ShipInv agentVersion params tr s) :
    ((calls tr).map (·.1)).Nodup := by
  refine List.nodup_iff_count_le_one.mpr fun j => ?_
  rw [count_calls, hi.history j]
  cases s.workers[j]? with
  | none => simp [calls]
  | some w => cases hpc : w.pc <;> simp [Worker.history, calls, hpc]

theorem ShipInv.noNegative (hi : ShipInv agentVersion params tr s) (j : Nat) :
    .negativeCounter j ∉ tr := fun hm => by
  have hl := mem_workerLabels.mpr ⟨hm, rfl⟩
  rw [hi.history j] at hl
  cases hw : s.workers[j]? with
  | none => simp [hw] at hl
  | some w =>
    cases hpc : w.pc <;> simp [hw, Worker.history, hpc] at hl
    exact hi.noPanic w (List.getElem?_mem hw) hpc

theorem ShipInv.calls_of_exited (hi : ShipInv agentVersion params tr s)
    (hexit : ∀ w ∈ s.workers, w.pc = .exited) (j : Nat) (c : InsightCall) :
    ((j, c) ∈ calls tr ↔ ∃ w, s.workers[j]? = some w ∧
      c = sendDataInsight agentVersion w.wm params.cp) ∧
    ((j, c) ∈ calls tr → .reply j ∈ tr) := by
  have hcall : (j, c) ∈ calls tr ↔ .call j c ∈ workerLabels j tr := by
    simp [mem_calls, mem_workerLabels, ShipLabel.worker?]
  have hreply : .reply j ∈ tr ↔ .reply j ∈ workerLabels j tr := by
    simp [mem_workerLabels, ShipLabel.worker?]
  rw [hcall, hreply, hi.history j]
  cases hw : s.workers[j]? with
  | none => simp
  | some w => simp [Worker.history, hexit w (List.getElem?_mem hw), eq_comm]

theorem ShipInv.joined (hi : ShipInv agentVersion params tr s)
    (hpc : s.pc = .wait ∨ s.pc = .returned) (hc : s.counter = 0) :
    List.Perm ((calls tr).map (·.2))
      (params.wm.map fun wm => sendDataInsight agentVersion wm params.cp) ∧
      ∀ j c, (j, c) ∈ calls tr → .reply j ∈ tr := by
  have hlen : s.workers.length = params.wm.length := by
    have := hi.main
    rcases hpc with hpc | hpc <;> simp only [MainOK, hpc] at this
    · exact this
    · exact this.1
  have hexit : ∀ w ∈ s.workers, w.pc = .exited := by
    have hz : s.workers.countP (·.pc != .exited) = 0 := by
      have := hi.counter
      rcases hpc with hpc | hpc <;> simp only [hpc, MainPc.adding, hc] at this <;> omega
    simpa using List.countP_eq_zero.mp hz
  have hwm : s.workers.map (·.wm) = params.wm := by rw [hi.spawned, hlen, List.take_length]
  have hperm : List.Perm (calls tr)
      (params.wm.enum.map fun x => (x.1, sendDataInsight agentVersion x.2 params.cp)) := by
    refine (List.perm_ext_iff_of_nodup (hi.callOnce.of_map _) ?_).mpr fun ⟨j, c⟩ => ?_
    · exact List.Nodup.of_map Prod.fst (by simp [Function.comp_def, List.nodup_range])
    · rw [(hi.calls_of_exited hexit j c).1]
      simp only [List.mem_map, List.mem_enum_iff_getElem?, ← hwm, List.getElem?_map, Prod.mk.injEq,
        Option.map_eq_some', Prod.exists]
      exact ⟨fun ⟨w, hw, hc⟩ => ⟨j, _, ⟨w, hw, rfl⟩, rfl, hc.symm⟩,
        fun ⟨_, _, ⟨w, hw, rfl⟩, rfl, hc⟩ => ⟨w, hw, hc.symm⟩⟩
  have hsnd : (params.wm.enum.map fun x => (x.1, sendDataInsight agentVersion x.2 params.cp)).map
      Prod.snd = params.wm.map fun wm => sendDataInsight agentVersion wm params.cp := by
    conv_rhs => rw [← List.enum_map_snd params.wm]
    simp only [List.map_map, Function.comp_def]
  exact ⟨hsnd ▸ hperm.map Prod.snd, fun j c => (hi.calls_of_exited hexit j c).2⟩

end WorkloadAgent.WorkloadManager
