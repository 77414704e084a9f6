import WorkloadAgent.WorkloadManager.Override

/-! The calls of collectOverrideMetrics's loop. Each getMetric call consumes the lines up
to and including the next header read while the current workload type is non-empty, or
all remaining lines, and only that last call says `last`. Together the calls compute a
single left-to-right pass over the file (`overrideFold`), which is what the loop returns. -/
namespace WorkloadAgent.WorkloadManager

/-- The line-by-line reading of the file that the getMetric calls make together: a
header read while the type is empty names the current group, any other header closes it. -/
def overrideFold (wt : String) (m : StrMap) : List String → List WorkloadMetrics
  | [] => [⟨wt, m⟩]
  | line :: rest =>
    match lineKind line with
    | .skip => overrideFold wt m rest
    | .header value =>
      if wt = "" then overrideFold value m rest
      else ⟨wt, m⟩ :: overrideFold value StrMap.empty rest
    | .pair key value => overrideFold wt (m.set key value) rest

def consHead {α : Type} (x : α) : List (List α) → List (List α)
  | [] => [[x]]
  | s :: ss => (x :: s) :: ss

/-- The input cut right after each header line read while the current workload type is
non-empty; the current type is the value of the last header read. -/
def overrideSegments (wt : String) : List String → List (List String)
  | [] => [[]]
  | line :: rest =>
    match lineKind line with
    | .header value =>
      if wt = "" then consHead line (overrideSegments value rest)
      else [line] :: overrideSegments value rest
    | _ => consHead line (overrideSegments wt rest)

/-- The header lines read while the current workload type is non-empty. -/
def closingHeaders (wt : String) : List String → Nat
  | [] => 0
  | line :: rest =>
    match lineKind line with
    | .header value => (if wt = "" then 0 else 1) + closingHeaders value rest
    | _ => closingHeaders wt rest

/-- Every element paired with `false`, the final one with `true`. -/
def markLast {α : Type} : List α → List (α × Bool)
  | [] => []
  | [x] => [(x, true)]
  | x :: y :: xs => (x, false) :: markLast (y :: xs)

namespace MetricEmitter

def fold (e : MetricEmitter) : List WorkloadMetrics :=
  overrideFold e.workloadType (e.metrics.getD StrMap.empty) e.scanner

def segments (e : MetricEmitter) : List (List String) := overrideSegments e.workloadType e.scanner

end MetricEmitter

theorem consHead_ne_nil {α : Type} (x : α) (ss : List (List α)) : consHead x ss ≠ [] := by
  cases ss <;> simp [consHead]

theorem overrideSegments_ne_nil (wt : String) (lines : List String) :
    overrideSegments wt lines ≠ [] := by
  cases lines with
  | nil => simp [overrideSegments]
  | cons line rest =>
    unfold overrideSegments
    split
    · split
      · exact consHead_ne_nil _ _
      · simp
    · exact consHead_ne_nil _ _

theorem flatten_consHead {α : Type} (x : α) (ss : List (List α)) :
    (consHead x ss).flatten = x :: ss.flatten := by
  cases ss <;> simp [consHead]

theorem length_consHead {α : Type} (x : α) {ss : List (List α)} (h : ss ≠ []) :
    (consHead x ss).length = ss.length := by
  cases ss
  · exact absurd rfl h
  · rfl

theorem flatten_overrideSegments (wt : String) (lines : List String) :
    (overrideSegments wt lines).flatten = lines := by
  induction lines generalizing wt with
  | nil => rfl
  | cons line rest ih =>
    unfold overrideSegments
    split
    · split <;> simp [flatten_consHead, ih]
    · simp [flatten_consHead, ih]

theorem length_overrideSegments (wt : String) (lines : List String) :
    (overrideSegments wt lines).length = closingHeaders wt lines + 1 := by
  induction lines generalizing wt with
  | nil => rfl
  | cons line rest ih =>
    have hc := length_consHead line (overrideSegments_ne_nil wt rest)
    cases hk : lineKind line with
    | header value =>
      have hc := length_consHead line (overrideSegments_ne_nil value rest)
      by_cases hwt : wt = "" <;> simp [overrideSegments, closingHeaders, hk, hwt, hc, ih]
      omega
    | _ => simp [overrideSegments, closingHeaders, hk, hc, ih]

theorem length_overrideFold (wt : String) (m : StrMap) (lines : List String) :
    (overrideFold wt m lines).length = closingHeaders wt lines + 1 := by
  induction lines generalizing wt m with
  | nil => rfl
  | cons line rest ih =>
    cases hk : lineKind line with
    | header value =>
      by_cases hwt : wt = "" <;> simp [overrideFold, closingHeaders, hk, hwt, ih]
      omega
    | _ => simp [overrideFold, closingHeaders, hk, ih]

/-- A segment that a header line ends. -/
def EndsInHeader (seg : List String) : Prop :=
  ∃ pre h value, seg = pre ++ [h] ∧ lineKind h = .header value

theorem overrideSegments_endsInHeader (wt : String) (lines : List String) :
    ∀ seg ∈ (overrideSegments wt lines).dropLast, EndsInHeader seg := by
  induction lines generalizing wt with
  | nil => simp [overrideSegments]
  | cons line rest ih =>
    have hcons : ∀ wt', (∀ seg ∈ (overrideSegments wt' rest).dropLast, EndsInHeader seg) →
        ∀ seg ∈ (consHead line (overrideSegments wt' rest)).dropLast, EndsInHeader seg := by
      intro wt' hrest seg hseg
      obtain ⟨s, ss, hs⟩ := List.exists_cons_of_ne_nil (overrideSegments_ne_nil wt' rest)
      rw [hs] at hrest hseg
      cases ss with
      | nil => simp [consHead] at hseg
      | cons s' ss =>
        simp only [consHead, List.dropLast_cons₂, List.mem_cons] at hseg hrest
        rcases hseg with rfl | hseg
        · obtain ⟨pre, h, value, hpre, hh⟩ := hrest s (.inl rfl)
          exact ⟨line :: pre, h, value, by simp [hpre], hh⟩
        · exact hrest seg (.inr hseg)
    unfold overrideSegments
    split
    · rename_i value hk
      split
      · exact hcons _ (ih _)
      · intro seg hseg
        rw [List.dropLast_cons_of_ne_nil (overrideSegments_ne_nil _ _), List.mem_cons] at hseg
        rcases hseg with rfl | hseg
        · exact ⟨[], line, value, rfl, hk⟩
        · exact ih _ seg hseg
    · exact hcons _ (ih _)

/-- What a getMetric call returning `r` does with the lines it is given: it consumes a
prefix `seg`. A call that says `last` consumed everything and closes the final group;
any other consumed a non-empty prefix, closes one group and leaves the rest. -/
def ScanResult (wt : String) (m : StrMap) (lines : List String)
    (r : (String × StrMap × Bool) × MetricEmitter) : Prop :=
  ∃ seg, lines = seg ++ r.2.scanner ∧
    (r.1.2.2 = true → r.2.scanner = [] ∧ overrideFold wt m lines = [⟨r.1.1, r.1.2.1⟩] ∧
      overrideSegments wt lines = [seg]) ∧
    (r.1.2.2 = false → seg ≠ [] ∧ overrideFold wt m lines = ⟨r.1.1, r.1.2.1⟩ :: r.2.fold ∧
      overrideSegments wt lines = seg :: r.2.segments)

theorem ScanResult.cons {wt wt' : String} {m m' : StrMap} {line : String}
    {rest : List String} {r : (String × StrMap × Bool) × MetricEmitter}
    (h : ScanResult wt' m' rest r)
    (hfold : overrideFold wt m (line :: rest) = overrideFold wt' m' rest)
    (hseg : overrideSegments wt (line :: rest) = consHead line (overrideSegments wt' rest)) :
    ScanResult wt m (line :: rest) r := by
  obtain ⟨seg, hlines, hlast, hmore⟩ := h
  refine ⟨line :: seg, by simp [hlines], fun hl => ?_, fun hl => ?_⟩
  · obtain ⟨h1, h2, h3⟩ := hlast hl
    exact ⟨h1, hfold.trans h2, by rw [hseg, h3]; rfl⟩
  · obtain ⟨-, h2, h3⟩ := hmore hl
    exact ⟨by simp, hfold.trans h2, by rw [hseg, h3]; rfl⟩

theorem getMetricScan_spec (wt : String) (m : StrMap) (lines : List String) :
    ScanResult wt m lines (getMetricScan wt m lines) := by
  induction lines generalizing wt m with
  | nil => exact ⟨[], rfl, fun _ => ⟨rfl, rfl, rfl⟩, fun h => by cases h⟩
  | cons line rest ih =>
    cases hk : lineKind line with
    | skip =>
      rw [show getMetricScan wt m (line :: rest) = getMetricScan wt m rest by
        simp [getMetricScan, hk]]
      exact (ih wt m).cons (by simp [overrideFold, hk]) (by simp [overrideSegments, hk])
    | pair key value =>
      rw [show getMetricScan wt m (line :: rest) = getMetricScan wt (m.set key value) rest by
        simp [getMetricScan, hk]]
      exact (ih wt _).cons (by simp [overrideFold, hk]) (by simp [overrideSegments, hk])
    | header value =>
      by_cases hwt : wt = ""
      · rw [show getMetricScan wt m (line :: rest) = getMetricScan value m rest by
          simp [getMetricScan, hk, hwt]]
        exact (ih value m).cons (by simp [overrideFold, hk, hwt])
          (by simp [overrideSegments, hk, hwt])
      · rw [show getMetricScan wt m (line :: rest) =
            ((wt, m, false), ⟨rest, value, some StrMap.empty⟩) by simp [getMetricScan, hk, hwt]]
        exact ⟨[line], rfl, (fun h => by cases h),
          fun _ => ⟨by simp, by simp [overrideFold, hk, hwt, MetricEmitter.fold],
            by simp [overrideSegments, hk, hwt, MetricEmitter.segments]⟩⟩

theorem MetricEmitter.getMetric_spec (e : MetricEmitter) :
    ScanResult e.workloadType (e.metrics.getD StrMap.empty) e.scanner e.getMetric :=
  getMetricScan_spec _ _ _

theorem markLast_cons {α : Type} (x : α) {xs : List α} (h : xs ≠ []) :
    markLast (x :: xs) = (x, false) :: markLast xs := by
  obtain ⟨y, ys, rfl⟩ := List.exists_cons_of_ne_nil h
  rfl

theorem collectLoop_spec (fuel : Nat) (e : MetricEmitter) (wm : List WorkloadMetrics)
    (hfuel : e.scanner.length < fuel) :
    collectLoop fuel e wm = some (wm ++ e.fold) ∧ getMetricCalls fuel e = markLast e.segments := by
  induction fuel generalizing e wm with
  | zero => omega
  | succ fuel ih =>
    obtain ⟨seg, hlines, hlast, hmore⟩ := e.getMetric_spec
    have htake : e.scanner.take (e.scanner.length - e.getMetric.2.scanner.length) = seg := by
      rw [hlines]
      simp
    cases hl : e.getMetric.1.2.2
    · obtain ⟨hseg, hfold, hsegs⟩ := hmore hl
      have hlen : e.getMetric.2.scanner.length < fuel := by
        have := congrArg List.length hlines
        have := List.length_pos.mpr hseg
        simp only [List.length_append] at *
        omega
      obtain ⟨ih1, ih2⟩ := ih e.getMetric.2 (wm ++ [⟨e.getMetric.1.1, e.getMetric.1.2.1⟩]) hlen
      refine ⟨?_, ?_⟩
      · simp only [collectLoop, hl, Bool.false_eq_true, ↓reduceIte, ih1]
        simp [MetricEmitter.fold, hfold]
      · simp only [getMetricCalls, hl, Bool.false_eq_true, ↓reduceIte, ih2, htake]
        simp only [MetricEmitter.segments] at hsegs ⊢
        rw [hsegs, markLast_cons _ (overrideSegments_ne_nil _ _)]
    · obtain ⟨hnil, hfold, hsegs⟩ := hlast hl
      refine ⟨?_, ?_⟩
      · simp [collectLoop, hl, MetricEmitter.fold, hfold]
      · simp only [getMetricCalls, hl, ↓reduceIte, htake]
        simp only [MetricEmitter.segments] at hsegs ⊢
        rw [hsegs]
        rfl

theorem collectOverrideMetrics_eq_fold (lines : List String) :
    collectOverrideMetrics (.ok lines) = some (overrideFold "" StrMap.empty lines) := by
  simpa [collectOverrideMetrics, MetricEmitter.fold] using
    (collectLoop_spec (lines.length + 1) ⟨lines, "", none⟩ [] (by simp)).1

/-- collectOverrideMetrics terminates on every readable file: the successive getMetric
calls consume the file cut right after each header read while the current workload type
is non-empty, one segment per call, and only the final call says `last`. So the result
is never empty and has one element more than there are such headers. -/
theorem collectOverrideMetrics_calls (lines : List String) :
    getMetricCalls (lines.length + 1) ⟨lines, "", none⟩ = markLast (overrideSegments "" lines) ∧
      (overrideSegments "" lines).flatten = lines ∧
      (overrideSegments "" lines).length = closingHeaders "" lines + 1 ∧
      (∀ seg ∈ (overrideSegments "" lines).dropLast, EndsInHeader seg) ∧
      ∃ wm, collectOverrideMetrics (.ok lines) = some wm ∧ wm ≠ [] ∧
        wm.length = closingHeaders "" lines + 1 := by
  refine ⟨(collectLoop_spec (lines.length + 1) ⟨lines, "", none⟩ [] (by simp)).2,
    flatten_overrideSegments "" lines, length_overrideSegments "" lines,
    overrideSegments_endsInHeader "" lines, _, collectOverrideMetrics_eq_fold lines, ?_,
    length_overrideFold "" _ lines⟩
  rw [← List.length_pos, length_overrideFold]
  omega

end WorkloadAgent.WorkloadManager
