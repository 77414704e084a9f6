import WorkloadAgent.Discovery.FanOut

/-! What the fan-out guarantees over every interleaving of its rounds with the
subscribers' receives: a send never blocks and changes only its own channel; a round
tries every channel once, in order, with its snapshot, and counts the full ones; a failed
listing ends the sending for good; and each channel delivers, in order and once, what
was sent on it. -/
namespace WorkloadAgent.Discovery

@[simp] theorem sentTo_append (j : Nat) (tr tr' : List Label) :
    sentTo j (tr ++ tr') = sentTo j tr ++ sentTo j tr' := by
  induction tr with
  | nil => rfl
  | cons l tr ih =>
    cases l with
    | attempt j' m b => cases b <;> simp [sentTo, ih]; split <;> simp
    | _ => simp [sentTo, ih]

@[simp] theorem receivedBy_append (j : Nat) (tr tr' : List Label) :
    receivedBy j (tr ++ tr') = receivedBy j tr ++ receivedBy j tr' := by
  induction tr with
  | nil => rfl
  | cons l tr ih =>
    cases l with
    | recv j' m => simp [receivedBy, ih]; split <;> simp
    | _ => simp [receivedBy, ih]

@[simp] theorem attempts_append (tr tr' : List Label) :
    attempts (tr ++ tr') = attempts tr ++ attempts tr' := by
  induction tr with
  | nil => rfl
  | cons l tr ih => cases l <;> simp [attempts, ih]

/-- A round's message: Discovery origin and a non-empty, non-nil process list. -/
def IsSnapshot (msg : Message) : Prop :=
  msg.origin = .discovery ∧ ∃ ps, msg.discoveryResult.processes = some ps ∧ ps ≠ []

theorem commonDiscoveryLoop_eq_ok (listing : Except String (List ProcessWrapper))
    (dr : DiscoveryResult) :
    commonDiscoveryLoop listing = .ok dr ↔ ∃ ps, listing = .ok ps ∧ ps ≠ [] ∧ dr = ⟨some ps⟩ := by
  cases listing with
  | error e => simp [commonDiscoveryLoop]
  | ok ps =>
    by_cases h : ps = []
    · simp [commonDiscoveryLoop, h]
    · simp [commonDiscoveryLoop, h, List.length_pos.mpr h, eq_comm]

theorem commonDiscoveryLoop_ok {listing : Except String (List ProcessWrapper)}
    {dr : DiscoveryResult} (h : commonDiscoveryLoop listing = .ok dr) :
    IsSnapshot ⟨.discovery, dr⟩ := by
  unfold commonDiscoveryLoop at h
  split at h
  · cases h
  · split at h
    · cases h
    · cases h
      exact ⟨rfl, _, rfl, List.ne_nil_of_length_pos (by omega)⟩

/-- The current round so far: its message, and after it the attempts on channels
`0, …, i - 1`, all of that message, `fullChs` of them failed. -/
def RoundSoFar (n : Nat) (tr : List Label) (msg : Message) (i fullChs : Nat) : Prop :=
  i ≤ n ∧ IsSnapshot msg ∧ ∃ pre mid, tr = pre ++ .round msg :: mid ∧ (∀ l ∈ mid, ¬ l.IsRound) ∧
    (attempts mid).map (·.1) = List.range i ∧ (∀ a ∈ attempts mid, a.2.1 = msg) ∧
    fullChs = ((attempts mid).filter (·.2.2 = false)).length

/-- What a label needs from the trace before it. -/
def LabelOK (n : Nat) (tr : List Label) : Label → Prop
  | .round msg => IsSnapshot msg ∧ .listFailed ∉ tr
  | .attempt j msg _ => .listFailed ∉ tr ∧ ∃ fullChs, RoundSoFar n tr msg j fullChs
  | .roundEnd fullChs => ∃ msg, RoundSoFar n tr msg n fullChs
  | _ => True

structure Inv (s₀ : FanOut) (tr : List Label) (s : FanOut) : Prop where
  length : s.chans.length = s₀.chans.length
  fifo : ∀ j c₀ c, s₀.chans[j]? = some c₀ → s.chans[j]? = some c →
    receivedBy j tr ++ c.buf = c₀.buf ++ sentTo j tr
  ended : .listFailed ∈ tr → s.pc = .returned
  round : ∀ msg i fullChs, s.pc = .sending msg i fullChs →
    RoundSoFar s₀.chans.length tr msg i fullChs

variable {s₀ s : FanOut} {tr : List Label}

theorem RoundSoFar.extend {n : Nat} {msg : Message} {i fullChs : Nat}
    (h : RoundSoFar n tr msg i fullChs) {l : Label} (hl : ¬ l.IsRound) (ha : attempts [l] = []) :
    RoundSoFar n (tr ++ [l]) msg i fullChs := by
  obtain ⟨hi, hsnap, pre, mid, rfl, hmid, hidx, hmsg, hfull⟩ := h
  exact ⟨hi, hsnap, pre, mid ++ [l], by simp, List.forall_mem_append.mpr ⟨hmid, by simpa using hl⟩,
    by simpa [ha] using hidx, by simpa [ha] using hmsg, by simpa [ha] using hfull⟩

theorem RoundSoFar.attempt {n : Nat} {msg : Message} {i fullChs : Nat}
    (h : RoundSoFar n tr msg i fullChs) (hi : i < n) (b : Bool) :
    RoundSoFar n (tr ++ [.attempt i msg b]) msg (i + 1) (if b then fullChs else fullChs + 1) := by
  obtain ⟨-, hsnap, pre, mid, rfl, hmid, hidx, hmsg, hfull⟩ := h
  refine ⟨hi, hsnap, pre, mid ++ [.attempt i msg b], by simp, ?_, ?_, ?_, ?_⟩
  · exact List.forall_mem_append.mpr ⟨hmid, by simp [Label.IsRound]⟩
  · simp [attempts, hidx, List.range_succ]
  · rw [attempts_append]
    exact List.forall_mem_append.mpr ⟨hmsg, by simp [attempts]⟩
  · cases b <;> simp [attempts, hfull]

theorem Inv.silent (hi : Inv s₀ tr s) {l : Label} {s' : FanOut} (hchans : s'.chans = s.chans)
    (hsilent : ∀ j, receivedBy j [l] = [] ∧ sentTo j [l] = [])
    (hended : .listFailed ∈ tr ++ [l] → s'.pc = .returned)
    (hround : ∀ msg i k, s'.pc = .sending msg i k →
      RoundSoFar s₀.chans.length (tr ++ [l]) msg i k) :
    Inv s₀ (tr ++ [l]) s' where
  length := hchans ▸ hi.length
  fifo j c₀ c h₀ h := by simpa [hsilent j] using hi.fifo j c₀ c h₀ (hchans ▸ h)
  ended := hended
  round := hround

theorem fifo_set {tr : List Label} {l : Label} {chans : List (Chan Message)} {i : Nat}
    {ch ch' : Chan Message}
    (hfifo : ∀ j c₀ c, s₀.chans[j]? = some c₀ → chans[j]? = some c →
      receivedBy j tr ++ c.buf = c₀.buf ++ sentTo j tr)
    (hch : chans[i]? = some ch) (hi : receivedBy i [l] ++ ch'.buf = ch.buf ++ sentTo i [l])
    (hj : ∀ j, i ≠ j → receivedBy j [l] = [] ∧ sentTo j [l] = []) :
    ∀ j c₀ c, s₀.chans[j]? = some c₀ → (chans.set i ch')[j]? = some c →
      receivedBy j (tr ++ [l]) ++ c.buf = c₀.buf ++ sentTo j (tr ++ [l]) := by
  intro j c₀ c h₀ h
  rw [getElem?_set_of_some hch] at h
  split at h
  · subst j; cases h
    rw [receivedBy_append, sentTo_append, List.append_assoc, hi, ← List.append_assoc,
      hfifo i c₀ ch h₀ hch, List.append_assoc]
  · simpa [hj j ‹_›] using hfifo j c₀ c h₀ h

theorem Inv.init (h₀ : s₀.pc = .entry) : Inv s₀ [] s₀ where
  length := rfl
  fifo j c₀ c h h' := by rw [h] at h'; cases h'; simp [receivedBy, sentTo]
  ended h := absurd h (List.not_mem_nil _)
  round msg i k h := by rw [h₀] at h; cases h

theorem commonDiscoveryStep_cases {env : FanOutEnv} {listing : Except String (List ProcessWrapper)}
    {takeDone ctxDone : Bool} {chans chans' : List (Chan Message)} {pc pc' : FanOutPc} {l : Label}
    (h : commonDiscoveryStep env listing takeDone ctxDone chans pc = some (l, chans', pc')) :
    (pc = .entry ∧ l = .tau ∧ chans' = chans ∧
      pc' = if !env.argsOk then .returned else if 0 < env.frequency then .listing else .panicked) ∨
    (pc = .listing ∧ (∃ e, commonDiscoveryLoop listing = .error e) ∧ l = .listFailed ∧
      chans' = chans ∧ pc' = .returned) ∨
    (pc = .listing ∧ ∃ dr, commonDiscoveryLoop listing = .ok dr ∧ l = .round ⟨.discovery, dr⟩ ∧
      chans' = chans ∧ pc' = .sending ⟨.discovery, dr⟩ 0 0) ∨
    (∃ msg i k, pc = .sending msg i k ∧ chans[i]? = none ∧ l = .roundEnd k ∧ chans' = chans ∧
      pc' = .waiting) ∨
    (∃ msg i k c, pc = .sending msg i k ∧ chans[i]? = some c ∧ c.trySend msg = none ∧
      l = .attempt i msg false ∧ chans' = chans ∧ pc' = .sending msg (i + 1) (k + 1)) ∨
    (∃ msg i k c c', pc = .sending msg i k ∧ chans[i]? = some c ∧ c.trySend msg = some c' ∧
      l = .attempt i msg true ∧ chans' = chans.set i c' ∧ pc' = .sending msg (i + 1) k) ∨
    (pc = .waiting ∧ l = .tau ∧ chans' = chans ∧
      (takeDone = true ∧ ctxDone = true ∧ pc' = .returned ∨
        takeDone = false ∧ pc' = .listing)) := by
  cases pc with
  | entry =>
    simp only [commonDiscoveryStep, Option.some.injEq, Prod.mk.injEq] at h
    exact .inl ⟨rfl, h.1.symm, h.2.1.symm, h.2.2.symm⟩
  | listing =>
    simp only [commonDiscoveryStep] at h
    split at h <;> simp only [Option.some.injEq, Prod.mk.injEq] at h <;> obtain ⟨rfl, rfl, rfl⟩ := h
    · exact .inr (.inl ⟨rfl, ⟨_, ‹_›⟩, rfl, rfl, rfl⟩)
    · exact .inr (.inr (.inl ⟨rfl, _, ‹_›, rfl, rfl, rfl⟩))
  | sending msg i k =>
    simp only [commonDiscoveryStep] at h
    cases hch : chans[i]? with
    | none =>
      simp only [hch, Option.some.injEq, Prod.mk.injEq] at h
      obtain ⟨rfl, rfl, rfl⟩ := h
      exact .inr (.inr (.inr (.inl ⟨msg, i, k, rfl, hch, rfl, rfl, rfl⟩)))
    | some c =>
      cases hs : c.trySend msg with
      | none =>
        simp only [hch, hs, Option.some.injEq, Prod.mk.injEq] at h
        obtain ⟨rfl, rfl, rfl⟩ := h
        exact .inr (.inr (.inr (.inr (.inl ⟨msg, i, k, c, rfl, hch, hs, rfl, rfl, rfl⟩))))
      | some c' =>
        simp only [hch, hs, Option.some.injEq, Prod.mk.injEq] at h
        obtain ⟨rfl, rfl, rfl⟩ := h
        exact .inr (.inr (.inr (.inr (.inr (.inl
          ⟨msg, i, k, c, c', rfl, hch, hs, rfl, rfl, rfl⟩)))))
  | waiting =>
    simp only [commonDiscoveryStep] at h
    refine .inr (.inr (.inr (.inr (.inr (.inr ⟨rfl, ?_⟩)))))
    cases takeDone <;> cases ctxDone <;>
      simp only [Option.some.injEq, Prod.mk.injEq, ite_true, ite_false, Bool.false_eq_true,
        reduceCtorEq] at h <;> simp [h]
  | returned | panicked => cases h

theorem Inv.fanOut_step (hi : Inv s₀ tr s) {env : FanOutEnv}
    {listing : Except String (List ProcessWrapper)} {takeDone : Bool} {l : Label}
    {chans : List (Chan Message)} {pc : FanOutPc}
    (h : commonDiscoveryStep env listing takeDone s.ctxDone s.chans s.pc = some (l, chans, pc)) :
    LabelOK s₀.chans.length tr l ∧ Inv s₀ (tr ++ [l]) { s with chans := chans, pc := pc } := by
  have hlive : s.pc ≠ .returned → .listFailed ∉ tr := fun hpc hf => hpc (hi.ended hf)
  have quiet : s.pc ≠ .returned → l ≠ .listFailed →
      (∀ j, receivedBy j [l] = [] ∧ sentTo j [l] = []) →
      (∀ msg i k, pc = .sending msg i k → RoundSoFar s₀.chans.length (tr ++ [l]) msg i k) →
      Inv s₀ (tr ++ [l]) { s with pc := pc } := fun hpc hl hsil hround =>
    hi.silent rfl hsil (fun hf => absurd (by simpa [Ne.symm hl] using hf) (hlive hpc)) hround
  rcases commonDiscoveryStep_cases h with
    ⟨hpc, rfl, rfl, rfl⟩ | ⟨hpc, -, rfl, rfl, rfl⟩ | ⟨hpc, dr, hdr, rfl, rfl, rfl⟩ |
    ⟨msg, i, k, hpc, hch, rfl, rfl, rfl⟩ | ⟨msg, i, k, c, hpc, hch, hs, rfl, rfl, rfl⟩ |
    ⟨msg, i, k, c, c', hpc, hch, hs, rfl, rfl, rfl⟩ | ⟨hpc, rfl, rfl, hsel⟩
  · -- entry
    refine ⟨trivial, quiet (by simp [hpc]) (by simp) (fun _ => ⟨rfl, rfl⟩) fun msg i k h => ?_⟩
    split_ifs at h
  · -- the listing failed
    exact ⟨trivial, hi.silent rfl (fun _ => ⟨rfl, rfl⟩) (fun _ => rfl) (by simp)⟩
  · -- a round starts
    have hl := hlive (by simp [hpc])
    have hsnap := commonDiscoveryLoop_ok hdr
    refine ⟨⟨hsnap, hl⟩, quiet (by simp [hpc]) (by simp) (fun _ => ⟨rfl, rfl⟩) ?_⟩
    rintro msg i k ⟨⟩
    exact ⟨Nat.zero_le _, hsnap, tr, [], rfl, by simp, rfl, by simp [attempts], rfl⟩
  · -- the round ends
    have hr := hi.round msg i k hpc
    obtain rfl : i = s₀.chans.length := by
      have := List.getElem?_eq_none_iff.mp hch; have := hr.1; have := hi.length; omega
    exact ⟨⟨msg, hr⟩, quiet (by simp [hpc]) (by simp) (fun _ => ⟨rfl, rfl⟩) (by simp)⟩
  · -- the channel is full
    have hr := hi.round msg i k hpc
    have hlt : i < s₀.chans.length := hi.length ▸ (List.getElem?_eq_some_iff.mp hch).1
    refine ⟨⟨hlive (by simp [hpc]), k, hr⟩,
      quiet (by simp [hpc]) (by simp) (fun _ => ⟨rfl, rfl⟩) ?_⟩
    rintro msg' i' k' ⟨⟩
    simpa using hr.attempt hlt false
  · -- the send goes through
    have hr := hi.round msg i k hpc
    have hlt : i < s₀.chans.length := hi.length ▸ (List.getElem?_eq_some_iff.mp hch).1
    have hl := hlive (by simp [hpc])
    refine ⟨⟨hl, k, hr⟩,
      ⟨by simpa using hi.length, ?_, fun hf => absurd (by simpa using hf) hl, ?_⟩⟩
    · refine fifo_set hi.fifo hch ?_ fun j hij => ?_
      · simp [receivedBy, sentTo, Chan.trySend_buf hs]
      · simp [receivedBy, sentTo, hij]
    · rintro msg' i' k' ⟨⟩
      simpa using hr.attempt hlt true
  · -- the select
    refine ⟨trivial, quiet (by simp [hpc]) (by simp) (fun _ => ⟨rfl, rfl⟩) fun msg i k h => ?_⟩
    rcases hsel with ⟨-, -, rfl⟩ | ⟨-, rfl⟩ <;> cases h

theorem Inv.recv_step (hi : Inv s₀ tr s) {j : Nat} {ch ch' : Chan Message} {m : Message}
    (hj : s.chans[j]? = some ch) (hr : ch.recv? = some (m, ch')) :
    Inv s₀ (tr ++ [.recv j m]) { s with chans := s.chans.set j ch' } where
  length := by simpa using hi.length
  fifo := fifo_set hi.fifo hj (by simp [receivedBy, sentTo, (Chan.recv?_eq_some hr).1])
    fun j' hj' => by simp [receivedBy, sentTo, hj']
  ended hf := hi.ended (by simpa using hf)
  round msg i k h := (hi.round msg i k h).extend (by simp [Label.IsRound]) rfl

theorem Inv.cancel_step (hi : Inv s₀ tr s) : Inv s₀ (tr ++ [.cancel]) { s with ctxDone := true } :=
  hi.silent rfl (fun _ => ⟨rfl, rfl⟩) (fun hf => hi.ended (by simpa using hf))
    fun msg i k h => (hi.round msg i k h).extend (by simp [Label.IsRound]) rfl

theorem Inv.step (hi : Inv s₀ tr s) {env : FanOutEnv} {l : Label} {s' : FanOut}
    (h : Step env s l s') : LabelOK s₀.chans.length tr l ∧ Inv s₀ (tr ++ [l]) s' := by
  cases h with
  | fanOut listing takeDone h => exact hi.fanOut_step h
  | recv hj hr => exact ⟨trivial, hi.recv_step hj hr⟩
  | cancel => exact ⟨trivial, hi.cancel_step⟩

theorem Run.inv {env : FanOutEnv} (h₀ : s₀.pc = .entry) (run : Run env s₀ tr s) :
    Inv s₀ tr s ∧ ∀ pre l post, tr = pre ++ l :: post → LabelOK s₀.chans.length pre l :=
  Steps.invariant (Inv.init h₀) (fun _ _ _ _ hi h => hi.step h) run

theorem mem_attempts {j : Nat} {m : Message} {b : Bool} {tr : List Label} :
    (j, m, b) ∈ attempts tr ↔ .attempt j m b ∈ tr := by
  induction tr with
  | nil => simp [attempts]
  | cons l tr ih => cases l <;> simp [attempts, ih]

theorem Step.attempt_spec {env : FanOutEnv} {t u : FanOut} {j : Nat} {msg : Message} {b : Bool}
    (h : Step env t (.attempt j msg b) u) :
    ∃ c c', t.chans[j]? = some c ∧ u.chans = t.chans.set j c' ∧ c'.cap = c.cap ∧
      (b = false ↔ c.Full) ∧ c'.buf = if b then c.buf ++ [msg] else c.buf := by
  cases h with
  | fanOut listing takeDone h =>
    rcases commonDiscoveryStep_cases h with ⟨-, ⟨⟩, -⟩ | ⟨-, -, ⟨⟩, -⟩ | ⟨-, _, -, ⟨⟩, -⟩ |
      ⟨_, _, _, -, -, ⟨⟩, -⟩ | ⟨_, _, _, c, -, hc, hs, hl, rfl, -⟩ |
      ⟨_, _, _, c, c', -, hc, hs, hl, rfl, -⟩ | ⟨-, ⟨⟩, -⟩ <;>
      obtain ⟨rfl, rfl, rfl⟩ := Label.attempt.inj hl
    · refine ⟨c, c, hc, List.ext_getElem? fun n => ?_, rfl,
        by simpa using (Chan.trySend_eq_none_iff c msg).mp hs, by simp⟩
      rw [getElem?_set_of_some hc]
      split <;> simp_all
    · refine ⟨c, c', hc, rfl, Chan.trySend_cap hs, ?_, by simp [Chan.trySend_buf hs]⟩
      rw [← Chan.trySend_eq_none_iff c msg, hs]
      simp

theorem sending_step (env : FanOutEnv) (t : FanOut) {msg : Message} {i k : Nat}
    (hpc : t.pc = .sending msg i k) :
    (t.chans.length ≤ i ∧ Step env t (.roundEnd k) { t with pc := .waiting }) ∨
    (i < t.chans.length ∧ ∃ b chans k', chans.length = t.chans.length ∧
      Step env t (.attempt i msg b) { t with chans := chans, pc := .sending msg (i + 1) k' }) := by
  cases hch : t.chans[i]? with
  | none =>
    exact .inl ⟨List.getElem?_eq_none_iff.mp hch,
      .fanOut (.error "") false (by simp only [hpc, commonDiscoveryStep, hch])⟩
  | some c =>
    have hlt := (List.getElem?_eq_some_iff.mp hch).1
    cases hs : c.trySend msg with
    | some c' =>
      exact .inr ⟨hlt, true, t.chans.set i c', k, by simp,
        .fanOut (.error "") false (by simp only [hpc, commonDiscoveryStep, hch, hs])⟩
    | none =>
      exact .inr ⟨hlt, false, t.chans, k + 1, rfl,
        .fanOut (.error "") false (by simp only [hpc, commonDiscoveryStep, hch, hs])⟩

theorem sending_enabled (env : FanOutEnv) (t : FanOut) {msg : Message} {i k : Nat}
    (hpc : t.pc = .sending msg i k) :
    ∃ l u, Step env t l u ∧ (l = .roundEnd k ∨ ∃ b, l = .attempt i msg b) := by
  rcases sending_step env t hpc with ⟨_, h⟩ | ⟨_, b, _, _, _, h⟩
  · exact ⟨_, _, h, .inl rfl⟩
  · exact ⟨_, _, h, .inr ⟨b, rfl⟩⟩

/-- A round runs to its end whatever the subscribers do: from channel `i` of the range
loop, CommonDiscovery alone tries the channels `i, …, n - 1` in order with the round's
message, then ends the round at the select, with ctx as it was. -/
theorem round_completes (env : FanOutEnv) (t : FanOut) (msg : Message) (i k : Nat)
    (hpc : t.pc = .sending msg i k) :
    ∃ tr k' u, Run env t (tr ++ [.roundEnd k']) u ∧ u.pc = .waiting ∧ u.ctxDone = t.ctxDone ∧
      (attempts tr).map (·.1) = List.range' i (t.chans.length - i) ∧
      ∀ l ∈ tr, ∃ j b, l = .attempt j msg b := by
  generalize hd : t.chans.length - i = d
  induction d generalizing t i k with
  | zero =>
    rcases sending_step env t hpc with ⟨-, h⟩ | ⟨hlt, -⟩
    · exact ⟨[], k, _, .step (.refl t) h, rfl, rfl, by simp [attempts], by simp⟩
    · omega
  | succ d ih =>
    rcases sending_step env t hpc with ⟨hle, -⟩ | ⟨-, b, chans, k', hlen, h⟩
    · omega
    obtain ⟨tr, k'', u, run, hu, hctx, hidx, hmsg⟩ :=
      ih { t with chans := chans, pc := .sending msg (i + 1) k' } (i + 1) k' rfl
        (by show chans.length - (i + 1) = d; omega)
    refine ⟨.attempt i msg b :: tr, k'', u, Steps.cons h run, hu, hctx, ?_, ?_⟩
    · simp only [attempts, List.map_cons, hidx, List.range'_succ]
    · exact List.forall_mem_cons.mpr ⟨⟨i, b, rfl⟩, hmsg⟩

/-- Once ctx is done, CommonDiscovery in the middle of a round, or at its select, returns
after at most the rest of that round, with no further listing. -/
theorem commonDiscovery_returns_after_cancel (env : FanOutEnv) (t : FanOut)
    (hc : t.ctxDone = true) (hpc : t.pc = .waiting ∨ ∃ msg i k, t.pc = .sending msg i k) :
    ∃ tr u, Run env t tr u ∧ u.pc = .returned ∧ ∀ l ∈ tr, ¬ l.IsRound ∧ l ≠ .listFailed := by
  have select : ∀ t : FanOut, t.ctxDone = true → t.pc = .waiting →
      Step env t .tau { t with pc := .returned } := fun t htc ht =>
    .fanOut (.error "") true (by simp [commonDiscoveryStep, ht, htc])
  rcases hpc with hpc | ⟨msg, i, k, hpc⟩
  · exact ⟨_, _, .step (.refl t) (select t hc hpc), rfl, by simp [Label.IsRound]⟩
  · obtain ⟨tr, k', u, run, hu, hctx, -, hmsg⟩ := round_completes env t msg i k hpc
    refine ⟨tr ++ [.roundEnd k'] ++ [.tau], _, .step run (select u (hctx.trans hc) hu), rfl,
      fun l hl => ?_⟩
    simp only [List.mem_append, List.mem_singleton] at hl
    rcases hl with (hl | rfl) | rfl
    · obtain ⟨j, b, rfl⟩ := hmsg l hl
      simp [Label.IsRound]
    all_goals simp [Label.IsRound]

theorem commonDiscovery_returns_after_cancel_mid_round :
    let snap : Message := ⟨.discovery, ⟨some [⟨1, some "ora_pmon_X"⟩]⟩⟩
    let t : FanOut := ⟨[Chan.make 1 Nat.one_pos, Chan.make 1 Nat.one_pos], true, .sending snap 1 0⟩
    t.ctxDone = true ∧ ∃ tr u, Run ⟨true, none⟩ t tr u ∧ u.pc = .returned :=
  let snap : Message := ⟨.discovery, ⟨some [⟨1, some "ora_pmon_X"⟩]⟩⟩
  let ⟨tr, u, run, hu, _⟩ := commonDiscovery_returns_after_cancel ⟨true, none⟩
    ⟨[Chan.make 1 Nat.one_pos, Chan.make 1 Nat.one_pos], true, .sending snap 1 0⟩ rfl
    (.inr ⟨snap, 1, 0, rfl⟩)
  ⟨rfl, tr, u, run, hu⟩

/-- A round over two channels of capacity one, the second full: both are tried, in order. -/
theorem round_completes_one_full :
    let snap : Message := ⟨.discovery, ⟨some [⟨1, some "ora_pmon_X"⟩]⟩⟩
    let full : Chan Message := ⟨1, [snap], Nat.one_pos, le_refl _⟩
    let t : FanOut := ⟨[Chan.make 1 Nat.one_pos, full], false, .sending snap 0 0⟩
    t.pc = .sending snap 0 0 ∧ ∃ tr k' u, Run ⟨true, none⟩ t (tr ++ [.roundEnd k']) u ∧
      u.pc = .waiting ∧ u.ctxDone = false ∧ (attempts tr).map (·.1) = [0, 1] :=
  let snap : Message := ⟨.discovery, ⟨some [⟨1, some "ora_pmon_X"⟩]⟩⟩
  have h := round_completes ⟨true, none⟩
    ⟨[Chan.make 1 Nat.one_pos, ⟨1, [snap], Nat.one_pos, le_refl _⟩], false, .sending snap 0 0⟩
    snap 0 0 rfl
  let ⟨tr, k', u, run, hu, hctx, hidx, _⟩ := h
  ⟨rfl, tr, k', u, run, hu, hctx, hidx⟩

theorem Run.after_listFailed {env : FanOutEnv} (h₀ : s₀.pc = .entry) (run : Run env s₀ tr s)
    {pre post : List Label} (htr : tr = pre ++ .listFailed :: post) :
    s.pc = .returned ∧ (∀ msg, .round msg ∉ post) ∧ attempts post = [] := by
  obtain ⟨hi, hlabels⟩ := run.inv h₀
  have later : ∀ {l} p₁ p₂, post = p₁ ++ l :: p₂ →
      LabelOK s₀.chans.length (pre ++ .listFailed :: p₁) l :=
    fun p₁ p₂ h => hlabels _ _ p₂ (by simp [htr, h])
  refine ⟨hi.ended (by simp [htr]), fun msg hm => ?_, List.eq_nil_iff_forall_not_mem.mpr ?_⟩
  · obtain ⟨p₁, p₂, h⟩ := List.append_of_mem hm
    exact (later p₁ p₂ h).2 (by simp)
  · rintro ⟨j, m, b⟩ ha
    obtain ⟨p₁, p₂, h⟩ := List.append_of_mem (mem_attempts.mp ha)
    exact (later p₁ p₂ h).1 (by simp)

end WorkloadAgent.Discovery
