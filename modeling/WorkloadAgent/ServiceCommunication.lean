import Mathlib.Data.List.Basic

/-! The servicecommunication data model shared by the discovery fan-out and the
workload services: process handles, discovery messages, and the buffered channels
that carry them. A Go `nil` slice is `none`; an empty, non-nil slice is `some []`. -/
namespace WorkloadAgent

/-- A process handle as the services read it. `name` is the outcome of `Name()`:
`none` when the lookup failed, for instance because the process has exited. -/
structure ProcessWrapper where
  pid : Int
  name : Option String
  deriving DecidableEq, Repr

/-- The origin tag of a `servicecommunication.Message`. Any tag other than the two
named ones is `other`. -/
inductive DataOrigin where
  | discovery
  | dwActivation
  | other (code : Nat)
  deriving DecidableEq, Repr

structure DiscoveryResult where
  processes : Option (List ProcessWrapper)
  deriving DecidableEq, Repr

structure Message where
  origin : DataOrigin
  discoveryResult : DiscoveryResult
  deriving DecidableEq, Repr

/-- `strings.HasPrefix`, on characters, which for UTF-8 text is Go's byte comparison. -/
def hasPrefix (s pre : String) : Bool := pre.data.isPrefixOf s.data

/-- Modelled from the spec: `servicecommunication.HasAnyPrefix` is not in the
repository; the spec says the services scan process names against a prefix set. -/
def hasAnyPrefix (s : String) (prefixes : List String) : Bool :=
  prefixes.any (hasPrefix s)

theorem hasAnyPrefix_iff (s : String) (prefixes : List String) :
    hasAnyPrefix s prefixes = true ↔ ∃ p ∈ prefixes, p.data <+: s.data := by
  simp [hasAnyPrefix, hasPrefix, List.isPrefixOf_iff_prefix]

theorem snoc_eq_append_cons {α : Type} {tr pre post : List α} {l a : α}
    (h : tr ++ [l] = pre ++ a :: post) :
    (pre = tr ∧ a = l ∧ post = []) ∨ ∃ post', post = post' ++ [l] ∧ tr = pre ++ a :: post' := by
  rcases List.eq_nil_or_concat post with rfl | ⟨post', b, rfl⟩
  · obtain ⟨h1, h2⟩ := List.append_inj' h rfl
    simp_all
  · rw [List.concat_eq_append] at h ⊢
    have h' : tr ++ [l] = (pre ++ a :: post') ++ [b] := by simpa using h
    obtain ⟨h1, h2⟩ := List.append_inj' h' rfl
    simp only [List.cons.injEq, and_true] at h2
    exact .inr ⟨post', by rw [h2], h1⟩

theorem count_le_one_of_not_mem_prefix {α : Type} [DecidableEq α] {a : α} :
    ∀ {tr : List α}, (∀ pre post, tr = pre ++ a :: post → a ∉ pre) → tr.count a ≤ 1
  | [], _ => by simp
  | x :: rest, h => by
    by_cases hx : x = a
    · subst hx
      have hrest : x ∉ rest := fun hm => by
        obtain ⟨pre, post, rfl⟩ := List.append_of_mem hm
        exact h (x :: pre) post (by simp) (by simp)
      simp [List.count_eq_zero_of_not_mem hrest]
    · rw [List.count_cons_of_ne (Ne.symm hx)]
      exact count_le_one_of_not_mem_prefix fun pre post hp hm =>
        h (x :: pre) post (by simp [hp]) (List.mem_cons_of_mem x hm)

/-- The runs of a labelled step relation, with their labels in order. -/
inductive Steps {σ α : Type} (step : σ → α → σ → Prop) : σ → List α → σ → Prop
  | refl (s : σ) : Steps step s [] s
  | step {s t u : σ} {tr : List α} {l : α} :
      Steps step s tr t → step t l u → Steps step s (tr ++ [l]) u

namespace Steps

variable {σ α : Type} {step : σ → α → σ → Prop} {s₀ s s' : σ} {tr : List α} {l : α}

theorem cons (h : step s₀ l s) (run : Steps step s tr s') : Steps step s₀ (l :: tr) s' := by
  induction run with
  | refl => exact .step (.refl _) h
  | step _ hstep ih => exact .step ih hstep

theorem split (run : Steps step s₀ tr s) {pre post : List α} (h : tr = pre ++ l :: post) :
    ∃ t t', Steps step s₀ pre t ∧ step t l t' := by
  induction run generalizing post with
  | refl => simp at h
  | step run hstep ih =>
    rcases snoc_eq_append_cons h with ⟨rfl, rfl, -⟩ | ⟨post', -, htr⟩
    · exact ⟨_, _, run, hstep⟩
    · exact ih htr

theorem append (run : Steps step s₀ tr s) {tr' : List α} (run' : Steps step s tr' s') :
    Steps step s₀ (tr ++ tr') s' := by
  induction run' with
  | refl => simpa using run
  | step _ h ih => rw [← List.append_assoc]; exact ih.step h

theorem snoc_inv (run : Steps step s₀ (tr ++ [l]) s) : ∃ t, Steps step s₀ tr t ∧ step t l s := by
  generalize h : tr ++ [l] = tr' at run
  cases run with
  | refl => simp at h
  | step run' hstep =>
    obtain ⟨rfl, hl⟩ := List.append_inj' h rfl
    obtain rfl := List.singleton_inj.mp hl
    exact ⟨_, run', hstep⟩

theorem invariant {I : List α → σ → Prop} {ok : List α → α → Prop} (h₀ : I [] s₀)
    (hstep : ∀ tr s l s', I tr s → step s l s' → ok tr l ∧ I (tr ++ [l]) s')
    (run : Steps step s₀ tr s) : I tr s ∧ ∀ pre l post, tr = pre ++ l :: post → ok pre l := by
  induction run with
  | refl => exact ⟨h₀, fun pre l post h => by simp at h⟩
  | step _ h ih =>
    obtain ⟨hi, hok⟩ := ih
    obtain ⟨hl, hi'⟩ := hstep _ _ _ _ hi h
    refine ⟨hi', fun pre l' post h' => ?_⟩
    rcases snoc_eq_append_cons h' with ⟨rfl, rfl, -⟩ | ⟨post', -, htr⟩
    · exact hl
    · exact hok pre l' post' htr

end Steps

theorem getElem?_set_of_some {α : Type} {l : List α} {i j : Nat} {c a : α} (h : l[i]? = some c) :
    (l.set i a)[j]? = if i = j then some a else l[j]? := by
  have hi : i < l.length := (List.getElem?_eq_some_iff.mp h).1
  rw [List.getElem?_set]
  split <;> simp_all

/-- A buffered Go channel of capacity at least one: the values sent and not yet
received, oldest first. The buffer never outgrows the capacity. -/
structure Chan (α : Type) where
  cap : Nat
  buf : List α
  cap_pos : 0 < cap
  buf_le : buf.length ≤ cap

namespace Chan

variable {α : Type}

/-- An empty channel, as `make(chan α, cap)` builds it. -/
def make (cap : Nat) (h : 0 < cap) : Chan α := ⟨cap, [], h, Nat.zero_le _⟩

/-- A send would block: the buffer is at capacity. -/
def Full (c : Chan α) : Prop := c.cap ≤ c.buf.length

instance (c : Chan α) : Decidable c.Full := inferInstanceAs (Decidable (_ ≤ _))

/-- `select { case ch <- x: … default: … }`: the send goes through exactly when the
buffer has room; `none` is the `default` branch. -/
def trySend (c : Chan α) (x : α) : Option (Chan α) :=
  if h : c.buf.length < c.cap then
    some ⟨c.cap, c.buf ++ [x], c.cap_pos, by simp only [List.length_append, List.length_singleton]; omega⟩
  else none

/-- A receive that can go through: the oldest value and the channel without it. -/
def recv? (c : Chan α) : Option (α × Chan α) :=
  match h : c.buf with
  | [] => none
  | x :: rest => some (x, ⟨c.cap, rest, c.cap_pos, by have := c.buf_le; simp only [h, List.length_cons] at this; omega⟩)

theorem trySend_eq_none_iff (c : Chan α) (x : α) : c.trySend x = none ↔ c.Full := by
  unfold trySend Full
  split
  · simp only [reduceCtorEq, false_iff, Nat.not_le]; assumption
  · simp only [true_iff]; omega

theorem trySend_buf {c c' : Chan α} {x : α} (h : c.trySend x = some c') :
    c'.buf = c.buf ++ [x] := by
  unfold trySend at h
  split at h
  · cases h; rfl
  · cases h

theorem trySend_cap {c c' : Chan α} {x : α} (h : c.trySend x = some c') : c'.cap = c.cap := by
  unfold trySend at h
  split at h
  · cases h; rfl
  · cases h

theorem recv?_eq_some {c : Chan α} {x : α} {c' : Chan α} (h : c.recv? = some (x, c')) :
    c.buf = x :: c'.buf ∧ c'.cap = c.cap := by
  unfold recv? at h
  split at h
  · cases h
  · rename_i y rest hb
    cases h
    exact ⟨hb, rfl⟩

theorem recv?_eq_none_iff (c : Chan α) : c.recv? = none ↔ c.buf = [] := by
  unfold recv?
  split <;> simp_all

end Chan

end WorkloadAgent
