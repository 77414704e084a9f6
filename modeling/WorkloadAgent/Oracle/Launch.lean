import WorkloadAgent.Oracle.Service

/-! What Start launches, over every run: each routine at most once, and only on Linux,
with its own flag set, and with `enabled` true or, unset, after an Oracle process was
consumed; runDiscovery only ever discovers a delivered snapshot. The proof is one
invariant of (trace, state), kept by every goroutine's step, together with a check of
each step's label against the trace before it. -/
namespace WorkloadAgent.Oracle

/-- `ps` is the process list of a Discovery message delivered in `tr`. -/
def Delivered (tr : List Label) (ps : List ProcessWrapper) : Prop :=
  ∃ m, .deliver m ∈ tr ∧ m.origin = .discovery ∧ m.discoveryResult.processes = some ps

/-- What a label needs from the trace before it. -/
def LabelOK (env : Env) (tr : List Label) : Label → Prop
  | .launch r =>
    env.goos = "linux" ∧ env.routineEnabled r = true ∧
      (env.enabled = some true ∨ env.enabled = none ∧ ∃ m, .consume m ∈ tr ∧ ListsOraProcess m) ∧
      .launch r ∉ tr
  | .discover ps => .launch .oracleDiscovery ∈ tr ∧ Delivered tr ps
  | .consume m => .deliver m ∈ tr
  | .collect => .launch .oracleMetricCollection ∈ tr
  | _ => True

/-- The gate Start has passed: `enabled` is true, or it is unset and the latch is up. -/
def GatePassed (env : Env) (present : Bool) : Prop :=
  env.enabled = some true ∨ env.enabled = none ∧ present = true

/-- What holds at each program point of Start, given the trace so far and the latch. -/
def StartAssertion (env : Env) (tr : List Label) (present : Bool) : StartPc → Prop
  | .entry => ∀ r, .launch r ∉ tr
  | .gate => ∀ r, .launch r ∉ tr
  | .waitWorkload => env.enabled = none ∧ ∀ r, .launch r ∉ tr
  | .platform => GatePassed env present ∧ ∀ r, .launch r ∉ tr
  | .launchDiscovery => env.goos = "linux" ∧ GatePassed env present ∧ ∀ r, .launch r ∉ tr
  | .launchMetrics =>
    env.goos = "linux" ∧ GatePassed env present ∧ .launch .oracleMetricCollection ∉ tr
  | .waitDone => True
  | .returned => True
  | .panicked => True

/-- What a launch needs from the trace and the latch at the moment Start makes it. -/
def LaunchOK (env : Env) (tr : List Label) (present : Bool) : Label → Prop
  | .launch r => env.goos = "linux" ∧ env.routineEnabled r = true ∧ GatePassed env present ∧
      .launch r ∉ tr
  | _ => True

structure Inv (env : Env) (tr : List Label) (s : Sys) : Prop where
  present : s.svc.isProcessPresent = true → ∃ m, .consume m ∈ tr ∧ ListsOraProcess m
  snapshot : ∀ ps, s.svc.processes = some ps → Delivered tr ps
  buffered : ∀ m ∈ s.commonCh.buf, .deliver m ∈ tr
  pending : ∀ ps, s.discovery = .discover ps → Delivered tr ps
  start : StartAssertion env tr s.svc.isProcessPresent s.start
  discoveryLaunched : s.discovery ≠ .notLaunched → .launch .oracleDiscovery ∈ tr
  metricsLaunched : s.metrics ≠ .notLaunched → .launch .oracleMetricCollection ∈ tr

variable {env : Env} {tr : List Label} {s : Sys} {l : Label}

theorem Delivered.append {ps : List ProcessWrapper} (h : Delivered tr ps) (l : Label) :
    Delivered (tr ++ [l]) ps := by
  obtain ⟨m, hm, ho, hp⟩ := h
  exact ⟨m, List.mem_append_left _ hm, ho, hp⟩

theorem GatePassed.mono {present present' : Bool} (h : GatePassed env present)
    (hp : present = true → present' = true) : GatePassed env present' :=
  h.imp_right fun ⟨he, hpr⟩ => ⟨he, hp hpr⟩

theorem launch_not_mem_snoc {r : Routine} (hl : l ≠ .launch r) (h : .launch r ∉ tr) :
    .launch r ∉ tr ++ [l] := by
  simpa [Ne.symm hl] using h

theorem StartAssertion.extend {present present' : Bool} {pc : StartPc}
    (h : StartAssertion env tr present pc) (hp : present = true → present' = true)
    (hl : ∀ r, l ≠ .launch r) : StartAssertion env (tr ++ [l]) present' pc := by
  cases pc with
  | entry | gate => exact fun r => launch_not_mem_snoc (hl r) (h r)
  | waitWorkload => exact ⟨h.1, fun r => launch_not_mem_snoc (hl r) (h.2 r)⟩
  | platform => exact ⟨h.1.mono hp, fun r => launch_not_mem_snoc (hl r) (h.2 r)⟩
  | launchDiscovery => exact ⟨h.1, h.2.1.mono hp, fun r => launch_not_mem_snoc (hl r) (h.2.2 r)⟩
  | launchMetrics => exact ⟨h.1, h.2.1.mono hp, launch_not_mem_snoc (hl _) h.2.2⟩
  | waitDone | returned | panicked => trivial

theorem StartAssertion.step {present ctxDone : Bool} {pc pc' : StartPc}
    (h : StartAssertion env tr present pc)
    (hs : startStep env present ctxDone pc = some (l, pc')) :
    LaunchOK env tr present l ∧ StartAssertion env (tr ++ [l]) present pc' := by
  cases pc with
  | entry =>
    simp only [startStep, Option.some.injEq, Prod.mk.injEq] at hs
    obtain ⟨rfl, rfl⟩ := hs
    exact ⟨trivial, fun r => launch_not_mem_snoc (by simp) (h r)⟩
  | gate =>
    simp only [startStep] at hs
    rcases hc : env.config with _ | c <;> simp only [hc, Option.some.injEq, Prod.mk.injEq] at hs <;>
      obtain ⟨rfl, rfl⟩ := hs
    · trivial
    · have he : env.enabled = c.enabled := by simp [Env.enabled, hc]
      refine ⟨trivial, ?_⟩
      rcases hce : c.enabled with _ | _ | _ <;> simp only [gateNext, StartAssertion]
      · exact ⟨he.trans hce, fun r => launch_not_mem_snoc (by simp) (h r)⟩
      · exact ⟨.inl (he.trans hce), fun r => launch_not_mem_snoc (by simp) (h r)⟩
  | waitWorkload =>
    simp only [startStep, Option.some.injEq, Prod.mk.injEq] at hs
    obtain ⟨rfl, rfl⟩ := hs
    refine ⟨trivial, ?_⟩
    cases hp : present <;> simp only [Bool.false_eq_true, ↓reduceIte, StartAssertion]
    · exact ⟨h.1, fun r => launch_not_mem_snoc (by simp) (h.2 r)⟩
    · exact ⟨.inr ⟨h.1, rfl⟩, fun r => launch_not_mem_snoc (by simp) (h.2 r)⟩
  | platform =>
    simp only [startStep, Option.some.injEq, Prod.mk.injEq] at hs
    obtain ⟨rfl, rfl⟩ := hs
    refine ⟨trivial, ?_⟩
    split
    · exact ⟨by assumption, h.1, fun r => launch_not_mem_snoc (by simp) (h.2 r)⟩
    · trivial
  | launchDiscovery =>
    simp only [startStep, Option.some.injEq, Prod.mk.injEq] at hs
    obtain ⟨rfl, rfl⟩ := hs
    split
    · exact ⟨⟨h.1, by assumption, h.2.1, h.2.2 _⟩, h.1, h.2.1,
        launch_not_mem_snoc (by simp) (h.2.2 _)⟩
    · exact ⟨trivial, h.1, h.2.1, launch_not_mem_snoc (by simp) (h.2.2 _)⟩
  | launchMetrics =>
    simp only [startStep, Option.some.injEq, Prod.mk.injEq] at hs
    obtain ⟨rfl, rfl⟩ := hs
    split
    · exact ⟨⟨h.1, by assumption, h.2.1, h.2.2⟩, trivial⟩
    · exact ⟨trivial, trivial⟩
  | waitDone =>
    simp only [startStep] at hs
    split at hs
    · simp only [Option.some.injEq, Prod.mk.injEq] at hs
      obtain ⟨rfl, rfl⟩ := hs
      exact ⟨trivial, trivial⟩
    · cases hs
  | returned | panicked => cases hs

theorem Inv.init (cap : Nat) (h : 0 < cap) : Inv env [] (Sys.init cap h) where
  present := by simp [Sys.init]
  snapshot := by simp [Sys.init]
  buffered := by simp [Sys.init, Chan.make]
  pending := by simp [Sys.init]
  start := by simp [Sys.init, StartAssertion]
  discoveryLaunched := by simp [Sys.init]
  metricsLaunched := by simp [Sys.init]

theorem Inv.grow (hi : Inv env tr s) (l : Label) {pc : StartPc}
    (hstart : StartAssertion env (tr ++ [l]) s.svc.isProcessPresent pc) :
    Inv env (tr ++ [l]) { s with start := pc } where
  present h := (hi.present h).imp fun _ ⟨hm, ho⟩ => ⟨List.mem_append_left _ hm, ho⟩
  snapshot ps h := (hi.snapshot ps h).append l
  buffered m h := List.mem_append_left _ (hi.buffered m h)
  pending ps h := (hi.pending ps h).append l
  start := hstart
  discoveryLaunched h := List.mem_append_left _ (hi.discoveryLaunched h)
  metricsLaunched h := List.mem_append_left _ (hi.metricsLaunched h)

theorem Inv.extend (hi : Inv env tr s) (hl : ∀ r, l ≠ .launch r) : Inv env (tr ++ [l]) s :=
  hi.grow l (hi.start.extend id hl)

theorem Inv.deliver (hi : Inv env tr s) {m : Message} {ch : Chan Message}
    (h : s.commonCh.trySend m = some ch) :
    Inv env (tr ++ [.deliver m]) { s with commonCh := ch } :=
  { hi.extend (by simp) with
    buffered := fun m' hm' => by
      rw [Chan.trySend_buf h, List.mem_append, List.mem_singleton] at hm'
      rcases hm' with hm' | rfl
      · exact List.mem_append_left _ (hi.buffered m' hm')
      · simp }

theorem startStep_label {present ctxDone : Bool} {pc pc' : StartPc}
    (h : startStep env present ctxDone pc = some (l, pc')) :
    l = .spawn ∨ l = .tau ∨ ∃ r, l = .launch r := by
  cases pc <;> simp only [startStep] at h <;> (try split at h) <;>
    simp only [Option.some.injEq, Prod.mk.injEq, reduceCtorEq] at h <;> simp [← h.1]

theorem Inv.start_step (hi : Inv env tr s) {pc : StartPc}
    (hs : startStep env s.svc.isProcessPresent s.ctxDone s.start = some (l, pc)) :
    LabelOK env tr l ∧ Inv env (tr ++ [l]) (s.afterStart l pc) := by
  obtain ⟨hok, hstart⟩ := hi.start.step hs
  rcases startStep_label hs with rfl | rfl | ⟨r, rfl⟩
  · exact ⟨trivial, { hi.grow _ hstart with start := hstart }⟩
  · exact ⟨trivial, { hi.grow _ hstart with start := hstart }⟩
  · obtain ⟨hlinux, hen, hgate, hfresh⟩ := hok
    have hgate' : env.enabled = some true ∨
        env.enabled = none ∧ ∃ m, .consume m ∈ tr ∧ ListsOraProcess m :=
      hgate.imp_right fun ⟨he, hp⟩ => ⟨he, hi.present hp⟩
    refine ⟨⟨hlinux, hen, hgate', hfresh⟩, ?_⟩
    have hg := hi.grow (.launch r) hstart
    cases r with
    | oracleDiscovery =>
      exact { hg with
        start := hstart
        pending := fun _ h => nomatch h
        discoveryLaunched := fun _ => by simp }
    | oracleMetricCollection =>
      exact { hg with
        start := hstart
        metricsLaunched := fun _ => by simp }

theorem Inv.cancel (hi : Inv env tr s) : Inv env (tr ++ [.cancel]) { s with ctxDone := true } :=
  { hi.extend (by simp) with }

theorem Inv.inbound_step (hi : Inv env tr s) {c : Choice} {s' : Sys}
    (h : inboundStep s c = some (l, s')) : LabelOK env tr l ∧ Inv env (tr ++ [l]) s' := by
  unfold inboundStep at h
  split at h
  · cases h
  · simp only [Option.some.injEq, Prod.mk.injEq] at h
    obtain ⟨rfl, rfl⟩ := h
    refine ⟨trivial, ?_⟩
    split
    · exact hi.extend (by simp)
    · exact { hi.extend (by simp) with }
  · split at h
    · simp only [Option.some.injEq, Prod.mk.injEq] at h
      obtain ⟨rfl, rfl⟩ := h
      exact ⟨trivial, { hi.extend (by simp) with }⟩
    · cases h
  · split at h
    · rename_i m ch hr
      simp only [Option.some.injEq, Prod.mk.injEq] at h
      obtain ⟨rfl, rfl⟩ := h
      have hbuf := (Chan.recv?_eq_some hr).1
      have hdel : .deliver m ∈ tr := hi.buffered m (by simp [hbuf])
      refine ⟨hdel, { hi.extend (l := .consume m) (by simp) with
        present := fun hp => ?_
        snapshot := fun ps hp => ?_
        buffered := fun m' hm' => List.mem_append_left _ (hi.buffered m' (by simp [hbuf, hm']))
        start :=
          hi.start.extend (fun hp => (receive_isProcessPresent _ _).mpr (.inl hp)) (by simp) }⟩
      · rcases (receive_isProcessPresent _ _).mp hp with hp | hlists
        · exact (hi.present hp).imp fun _ ⟨hm, ho⟩ => ⟨List.mem_append_left _ hm, ho⟩
        · exact ⟨m, by simp, hlists⟩
      · change (s.svc.receive m).processes = some ps at hp
        rw [receive_processes] at hp
        split at hp
        · exact ⟨m, List.mem_append_left _ hdel, by assumption, hp⟩
        · exact (hi.snapshot ps hp).append _
    · cases h
  · cases h

theorem discoveryStep_cases {processes : Option (List ProcessWrapper)} {ctxDone : Bool}
    {c : Choice} {pc pc' : DiscoveryPc}
    (h : discoveryStep env processes ctxDone c pc = some (l, pc')) :
    pc ≠ .notLaunched ∧ (∀ ps, pc' = .discover ps → processes = some ps) ∧
      (l = .tau ∨ ∃ ps, l = .discover ps ∧ pc = .discover ps) := by
  have fromSnapshot : ∀ ps, (match processes with
      | none => DiscoveryPc.waitProcesses
      | some ps => .discover ps) = .discover ps → processes = some ps := fun ps hp => by
    split at hp <;> simp_all
  cases pc with
  | notLaunched | returned | panicked => cases h
  | entry =>
    simp only [discoveryStep, Option.some.injEq, Prod.mk.injEq] at h
    obtain ⟨rfl, rfl⟩ := h
    exact ⟨by simp, (fun ps hp => by split at hp <;> cases hp), .inl rfl⟩
  | snapshot =>
    simp only [discoveryStep, Option.some.injEq, Prod.mk.injEq] at h
    obtain ⟨rfl, rfl⟩ := h
    exact ⟨by simp, fromSnapshot, .inl rfl⟩
  | waitProcesses =>
    simp only [discoveryStep, Option.some.injEq, Prod.mk.injEq] at h
    obtain ⟨rfl, rfl⟩ := h
    refine ⟨by simp, fun ps hp => ?_, .inl rfl⟩
    split at hp
    · cases hp
    · exact fromSnapshot ps hp
  | discover ps =>
    simp only [discoveryStep, Option.some.injEq, Prod.mk.injEq] at h
    obtain ⟨rfl, rfl⟩ := h
    exact ⟨by simp, (fun ps hp => by split at hp <;> cases hp), .inr ⟨ps, rfl, rfl⟩⟩
  | tick =>
    simp only [discoveryStep] at h
    split at h
    · split at h
      · simp only [Option.some.injEq, Prod.mk.injEq] at h
        obtain ⟨rfl, rfl⟩ := h
        exact ⟨by simp, by simp, .inl rfl⟩
      · cases h
    · simp only [Option.some.injEq, Prod.mk.injEq] at h
      obtain ⟨rfl, rfl⟩ := h
      exact ⟨by simp, by simp, .inl rfl⟩
    · cases h

theorem Inv.discovery_step (hi : Inv env tr s) {c : Choice} {pc : DiscoveryPc}
    (h : discoveryStep env s.svc.processes s.ctxDone c s.discovery = some (l, pc)) :
    LabelOK env tr l ∧ Inv env (tr ++ [l]) { s with discovery := pc } := by
  obtain ⟨hlaunched, hnext, hl⟩ := discoveryStep_cases h
  have hinv : Inv env (tr ++ [l]) { s with discovery := pc } :=
    { hi.extend (by rcases hl with rfl | ⟨ps, rfl, -⟩ <;> simp) with
      pending := fun ps hp => (hi.snapshot ps (hnext ps hp)).append l
      discoveryLaunched := fun _ => List.mem_append_left _ (hi.discoveryLaunched hlaunched) }
  rcases hl with rfl | ⟨ps, rfl, hpc⟩
  · exact ⟨trivial, hinv⟩
  · exact ⟨⟨hi.discoveryLaunched hlaunched, hi.pending ps hpc⟩, hinv⟩

theorem metricsStep_cases {ctxDone : Bool} {c : Choice} {pc pc' : MetricsPc}
    (h : metricsStep env ctxDone c pc = some (l, pc')) :
    pc ≠ .notLaunched ∧ (l = .tau ∨ l = .collect) := by
  cases pc with
  | notLaunched | returned | panicked => cases h
  | tick =>
    simp only [metricsStep] at h
    split at h
    · split at h
      · simp only [Option.some.injEq, Prod.mk.injEq] at h
        exact ⟨by simp, .inl h.1.symm⟩
      · cases h
    · simp only [Option.some.injEq, Prod.mk.injEq] at h
      exact ⟨by simp, .inr h.1.symm⟩
    · cases h
  | _ =>
    simp only [metricsStep, Option.some.injEq, Prod.mk.injEq] at h
    exact ⟨by simp, .inl h.1.symm⟩

theorem Inv.metrics_step (hi : Inv env tr s) {c : Choice} {pc : MetricsPc}
    (h : metricsStep env s.ctxDone c s.metrics = some (l, pc)) :
    LabelOK env tr l ∧ Inv env (tr ++ [l]) { s with metrics := pc } := by
  obtain ⟨hlaunched, hl⟩ := metricsStep_cases h
  have hinv : Inv env (tr ++ [l]) { s with metrics := pc } :=
    { hi.extend (by rcases hl with rfl | rfl <;> simp) with
      metricsLaunched := fun _ => List.mem_append_left _ (hi.metricsLaunched hlaunched) }
  rcases hl with rfl | rfl
  · exact ⟨trivial, hinv⟩
  · exact ⟨hi.metricsLaunched hlaunched, hinv⟩

theorem Inv.step (hi : Inv env tr s) {s' : Sys} (h : Step env s l s') :
    LabelOK env tr l ∧ Inv env (tr ++ [l]) s' := by
  cases h with
  | deliver h => exact ⟨trivial, hi.deliver h⟩
  | cancel => exact ⟨trivial, hi.cancel⟩
  | start h => exact hi.start_step h
  | inbound c h => exact hi.inbound_step h
  | discovery c h => exact hi.discovery_step h
  | metrics c h => exact hi.metrics_step h

theorem Run.inv {cap : Nat} {hcap : 0 < cap} (run : Run env (Sys.init cap hcap) tr s) :
    Inv env tr s ∧ ∀ pre l post, tr = pre ++ l :: post → LabelOK env pre l :=
  Steps.invariant (Inv.init cap hcap) (fun _ _ _ _ hi h => hi.step h) run

/-- Start launches each routine at most once, and only on Linux, with the routine's
own flag set, and with `enabled` explicitly true or unset and, before the launch, a
consumed Discovery message listing an Oracle process. So with `enabled` false, or unset
with no such message ever delivered, nothing is discovered or collected in the whole run;
and every `ds.Discover` call gets the non-nil process list of a Discovery message
delivered before it. -/
theorem start_launch_discipline (env : Env) (cap : Nat) (hcap : 0 < cap) (tr : List Label)
    (s : Sys) (run : Run env (Sys.init cap hcap) tr s) :
    (∀ r, tr.count (.launch r) ≤ 1) ∧
    (∀ pre r post, tr = pre ++ .launch r :: post →
      env.goos = "linux" ∧ env.routineEnabled r = true ∧
        (env.enabled = some true ∨
          env.enabled = none ∧ ∃ m, .consume m ∈ pre ∧ ListsOraProcess m)) ∧
    ((env.enabled = some false ∨
        env.enabled = none ∧ ∀ m, .deliver m ∈ tr → ¬ ListsOraProcess m) →
      (∀ ps, .discover ps ∉ tr) ∧ .collect ∉ tr) ∧
    (∀ pre ps post, tr = pre ++ .discover ps :: post →
      ∃ m, .deliver m ∈ pre ∧ m.origin = .discovery ∧ m.discoveryResult.processes = some ps) := by
  obtain ⟨-, hlabels⟩ := run.inv
  have launched : ∀ r, .launch r ∈ tr → env.enabled = some true ∨
      env.enabled = none ∧ ∃ m, .deliver m ∈ tr ∧ ListsOraProcess m := fun r hm => by
    obtain ⟨pre, post, htr⟩ := List.append_of_mem hm
    obtain ⟨-, -, hgate, -⟩ := hlabels pre _ post htr
    refine hgate.imp_right fun ⟨he, m, hc, hlists⟩ => ⟨he, m, ?_, hlists⟩
    obtain ⟨pre', post', hpre⟩ := List.append_of_mem hc
    have hd : .deliver m ∈ pre' :=
      hlabels pre' (.consume m) (post' ++ .launch r :: post) (by simp [htr, hpre])
    simp [htr, hpre, hd]
  refine ⟨fun r => count_le_one_of_not_mem_prefix fun pre post h => (hlabels pre _ post h).2.2.2,
    fun pre r post h => (hlabels pre _ post h).imp_right fun h => ⟨h.1, h.2.1⟩, fun hoff => ?_,
    fun pre ps post h => (hlabels pre _ post h).2⟩
  have hnone : ∀ r, .launch r ∉ tr := fun r hm => by
    rcases launched r hm with he | ⟨he, m, hd, hlists⟩ <;> rcases hoff with ho | ⟨ho, hno⟩
    · simp [he] at ho
    · simp [he] at ho
    · simp [he] at ho
    · exact hno m hd hlists
  constructor
  · intro ps hm
    obtain ⟨pre, post, htr⟩ := List.append_of_mem hm
    have hl : .launch .oracleDiscovery ∈ pre := (hlabels pre (.discover ps) post htr).1
    exact hnone .oracleDiscovery (by simp [htr, hl])
  · intro hm
    obtain ⟨pre, post, htr⟩ := List.append_of_mem hm
    have hl : .launch .oracleMetricCollection ∈ pre := hlabels pre .collect post htr
    exact hnone .oracleMetricCollection (by simp [htr, hl])

/-- With `enabled` unset, Start launches discovery once the inbound goroutine has consumed a
delivered message listing an Oracle process. -/
theorem start_launch_discipline_after_pmon :
    let env : Env := ⟨some ⟨none, some ⟨some true, 1⟩, some ⟨some true, 1⟩⟩, "linux"⟩
    let m : Message := ⟨.discovery, ⟨some [⟨1, some "ora_pmon_X"⟩]⟩⟩
    let pre : List Label := [.spawn, .tau, .deliver m, .tau, .consume m, .tau, .tau]
    0 < 1 ∧ ∃ s, Run env (Sys.init 1 Nat.one_pos) (pre ++ [.launch .oracleDiscovery]) s ∧
      env.goos = "linux" ∧ env.routineEnabled .oracleDiscovery = true ∧
        (env.enabled = some true ∨ env.enabled = none ∧ ∃ m, .consume m ∈ pre ∧ ListsOraProcess m) := by
  intro env m pre
  have run : Run env (Sys.init 1 Nat.one_pos) ([] ++ [.spawn] ++ [.tau] ++ [.deliver m] ++ [.tau] ++
      [.consume m] ++ [.tau] ++ [.tau] ++ [.launch .oracleDiscovery]) _ :=
    .step (.step (.step (.step (.step (.step (.step (.step (.refl _) (.start rfl)) (.start rfl))
      (.deliver rfl)) (.inbound .proceed rfl)) (.inbound .proceed rfl)) (.start rfl)) (.start rfl))
      (.start rfl)
  exact ⟨Nat.one_pos, _, run, (start_launch_discipline env 1 Nat.one_pos _ _ run).2.1 pre _ [] rfl⟩

end WorkloadAgent.Oracle
