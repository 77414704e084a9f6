import WorkloadAgent.Discovery.Rounds

/-! What each subscriber sees of the fan-out, over every interleaving of the rounds with
the receives: the rounds' snapshots, in round order, none twice. A send that finds the
channel full drops that round's snapshot for that subscriber for good; nothing arrives
late or out of order. -/
namespace WorkloadAgent.Discovery

/-- The snapshots of the rounds of a trace, in order. -/
def roundMessages : List Label → List Message
  | [] => []
  | .round msg :: tr => msg :: roundMessages tr
  | _ :: tr => roundMessages tr

@[simp] theorem roundMessages_append (tr tr' : List Label) :
    roundMessages (tr ++ tr') = roundMessages tr ++ roundMessages tr' := by
  induction tr with
  | nil => rfl
  | cons l tr ih => cases l <;> simp [roundMessages, ih]

/-- What channel `j` may still get from the round in progress: its snapshot, until the
range loop has passed `j`. -/
def owed (j : Nat) : FanOutPc → List Message
  | .sending msg i _ => if i ≤ j then [msg] else []
  | _ => []

/-- What was sent on channel `j`, then what it is still owed, in the order of the rounds. -/
def InOrder (j : Nat) (tr : List Label) (pc : FanOutPc) : Prop :=
  (sentTo j tr ++ owed j pc).Sublist (roundMessages tr)

variable {j : Nat} {tr : List Label}

theorem InOrder.silent {pc : FanOutPc} {l : Label} (hi : InOrder j tr pc)
    (hl : roundMessages [l] = [] ∧ sentTo j [l] = []) : InOrder j (tr ++ [l]) pc := by
  simpa [InOrder, hl] using hi

theorem InOrder.quiet {pc pc' : FanOutPc} {l : Label} (hi : InOrder j tr pc)
    (hl : roundMessages [l] = [] ∧ sentTo j [l] = []) (hpc' : owed j pc' = []) :
    InOrder j (tr ++ [l]) pc' := by
  simpa [InOrder, hl, hpc'] using (List.sublist_append_left _ _).trans hi

theorem InOrder.fanOut_step {env : FanOutEnv} {listing : Except String (List ProcessWrapper)}
    {takeDone ctxDone : Bool} {chans chans' : List (Chan Message)} {pc pc' : FanOutPc} {l : Label}
    (hi : InOrder j tr pc)
    (h : commonDiscoveryStep env listing takeDone ctxDone chans pc = some (l, chans', pc')) :
    InOrder j (tr ++ [l]) pc' := by
  rcases commonDiscoveryStep_cases h with
    ⟨-, rfl, -, rfl⟩ | ⟨-, -, rfl, -, rfl⟩ | ⟨rfl, dr, -, rfl, -, rfl⟩ |
    ⟨msg, i, k, -, -, rfl, -, rfl⟩ | ⟨msg, i, k, c, rfl, -, -, rfl, -, rfl⟩ |
    ⟨msg, i, k, c, c', rfl, -, -, rfl, -, rfl⟩ | ⟨-, rfl, -, hsel⟩
  · exact hi.quiet ⟨rfl, rfl⟩ (by split_ifs <;> rfl)
  · exact hi.quiet ⟨rfl, rfl⟩ rfl
  · -- a round starts, owing its snapshot to every channel
    have : (sentTo j tr).Sublist (roundMessages tr) := by simpa [InOrder, owed] using hi
    simpa [InOrder, owed, roundMessages, sentTo] using this.append_right [⟨.discovery, dr⟩]
  · exact hi.quiet ⟨rfl, rfl⟩ rfl
  · -- the channel is full: its snapshot for this round is dropped
    by_cases hj : i < j
    · have h₁ : owed j (.sending msg i k) = [msg] := if_pos hj.le
      have h₂ : owed j (.sending msg (i + 1) (k + 1)) = [msg] := if_pos hj
      simpa [InOrder, h₁, h₂, sentTo, roundMessages] using hi
    · exact hi.quiet ⟨rfl, rfl⟩ (if_neg hj)
  · -- the send pays what channel `i` was owed
    rcases Nat.lt_trichotomy i j with hij | rfl | hij
    · have h₁ : owed j (.sending msg i k) = [msg] := if_pos hij.le
      have h₂ : owed j (.sending msg (i + 1) k) = [msg] := if_pos hij
      simpa [InOrder, h₁, h₂, sentTo, roundMessages, hij.ne] using hi
    · have h₁ : owed i (.sending msg i k) = [msg] := if_pos (Nat.le_refl i)
      have h₂ : owed i (.sending msg (i + 1) k) = [] := if_neg (Nat.not_succ_le_self i)
      simpa [InOrder, h₁, h₂, sentTo, roundMessages] using hi
    · have h₁ : owed j (.sending msg i k) = [] := if_neg (Nat.not_le_of_gt hij)
      have h₂ : owed j (.sending msg (i + 1) k) = [] := if_neg (by omega)
      simpa [InOrder, h₁, h₂, sentTo, roundMessages, hij.ne'] using hi
  · rcases hsel with ⟨-, -, rfl⟩ | ⟨-, rfl⟩ <;> exact hi.quiet ⟨rfl, rfl⟩ rfl

theorem InOrder.step {env : FanOutEnv} {s s' : FanOut} {l : Label} (hi : InOrder j tr s.pc)
    (h : Step env s l s') : InOrder j (tr ++ [l]) s'.pc := by
  cases h with
  | fanOut listing takeDone h => exact hi.fanOut_step h
  | recv => exact hi.silent ⟨rfl, rfl⟩
  | cancel => exact hi.silent ⟨rfl, rfl⟩

theorem Run.inOrder {env : FanOutEnv} {s₀ s : FanOut} (h₀ : s₀.pc = .entry)
    (run : Run env s₀ tr s) : InOrder j tr s.pc := by
  induction run with
  | refl => simp [InOrder, h₀, owed, sentTo, roundMessages]
  | step _ hstep ih => exact ih.step hstep

theorem mem_after_round {pre mid pre₂ mid₂ : List Label} {x : Label} {m : Message}
    (hx : ¬ x.IsRound) (hmid : ∀ r, .round r ∉ mid)
    (h : pre ++ x :: mid = pre₂ ++ .round m :: mid₂) : x ∈ mid₂ := by
  rcases List.append_eq_append_iff.mp h with ⟨a', rfl, ha⟩ | ⟨c', rfl, hc⟩
  · have hm : .round m ∈ x :: mid := ha ▸ List.mem_append_right _ (.head _)
    rcases List.mem_cons.mp hm with rfl | hm
    · exact absurd trivial hx
    · exact absurd hm (hmid m)
  · rcases c' with _ | ⟨y, c''⟩
    · cases hc; exact absurd trivial hx
    · obtain ⟨-, rfl⟩ := List.cons_eq_cons.mp hc
      exact List.mem_append_right _ (.head _)

theorem Run.attempt_once {env : FanOutEnv} {s₀ s : FanOut} (h₀ : s₀.pc = .entry)
    (run : Run env s₀ tr s) {pre mid post : List Label} {msg m' : Message} {b b' : Bool}
    (h : tr = pre ++ .attempt j msg b :: mid ++ .attempt j m' b' :: post) :
    ∃ r, .round r ∈ mid := by
  by_contra hno
  obtain ⟨-, hlabels⟩ := run.inv h₀
  obtain ⟨-, -, -, -, pre₂, mid₂, heq, -, hidx, -, -⟩ :=
    hlabels (pre ++ .attempt j msg b :: mid) _ post h
  have hx := mem_after_round (by simp [Label.IsRound]) (fun r hr => hno ⟨r, hr⟩) heq
  have hj : j ∈ (attempts mid₂).map (·.1) := List.mem_map.mpr ⟨_, mem_attempts.mpr hx, rfl⟩
  rw [hidx] at hj
  exact absurd (List.mem_range.mp hj) (lt_irrefl j)

end WorkloadAgent.Discovery
