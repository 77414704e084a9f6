import WorkloadAgent.WorkloadManager.OverrideCalls

/-! The groups of an override file, read as its format and getMetric's comments say: the
pairs under each `workload_type:` header up to the next one. collectOverrideMetrics returns
them unless a header with a blank value is followed by another header. A blank value
leaves the current type empty, which getMetric also uses to mean that no header was seen
yet, so the next header is taken for the first and does not close the group. -/
namespace WorkloadAgent.WorkloadManager

/-- The pairs before the first header, and each header's value with the pairs after it
up to the next header, in file order. -/
def headerGroups : List String → List (String × String) × List (String × List (String × String))
  | [] => ([], [])
  | line :: rest =>
    match lineKind line with
    | .skip => headerGroups rest
    | .pair key value => ((key, value) :: (headerGroups rest).1, (headerGroups rest).2)
    | .header value => ([], (value, (headerGroups rest).1) :: (headerGroups rest).2)

/-- One group per header line, those before the first header going to the first
group, or a single group with an empty type when there is no header. -/
def overrideGroups (lines : List String) : List (String × List (String × String)) :=
  match (headerGroups lines).2 with
  | [] => [("", (headerGroups lines).1)]
  | (value, pairs) :: groups => (value, (headerGroups lines).1 ++ pairs) :: groups

/-- The value of the last pair with key `k`. -/
def lastValue (pairs : List (String × String)) (k : String) : Option String :=
  pairs.reverse.lookup k

/-- A WorkloadMetrics holds a group: its type, and for every key the last value. -/
def Holds (w : WorkloadMetrics) (g : String × List (String × String)) : Prop :=
  w.workloadType = g.1 ∧ ∀ k, w.metrics.get? k = lastValue g.2 k

theorem lastValue_nil (k : String) : lastValue [] k = none := rfl

theorem lastValue_snoc (pairs : List (String × String)) (key value k : String) :
    lastValue (pairs ++ [(key, value)]) k = if k = key then some value else lastValue pairs k := by
  by_cases h : k = key
  · simp [lastValue, List.lookup_cons, h]
  · simp [lastValue, List.lookup_cons, h, beq_false_of_ne h]

def LineKind.isHeader : LineKind → Bool
  | .header _ => true
  | _ => false

/-- No header with a blank value is followed by another header. -/
def BlankHeadersLast (lines : List String) : Prop :=
  lines.Pairwise fun a b => lineKind a = .header "" → (lineKind b).isHeader = false

instance (lines : List String) : Decidable (BlankHeadersLast lines) :=
  inferInstanceAs (Decidable (List.Pairwise _ lines))

/-- The header lines of the file. -/
def headerCount (lines : List String) : Nat := lines.countP fun line => (lineKind line).isHeader

theorem named_or_last {line value : String} {rest : List String}
    (hhead : ∀ l ∈ rest, lineKind line = .header "" → (lineKind l).isHeader = false)
    (hk : lineKind line = .header value) :
    value ≠ "" ∨ ∀ l ∈ rest, (lineKind l).isHeader = false := by
  by_cases h : value = ""
  · exact .inr fun l hl => hhead l hl (h ▸ hk)
  · exact .inl h

theorem overrideFold_named (lines : List String) (hlast : BlankHeadersLast lines) (wt : String)
    (hwt : wt ≠ "" ∨ ∀ l ∈ lines, (lineKind l).isHeader = false) (m : StrMap)
    (ps : List (String × String)) (hm : ∀ k, m.get? k = lastValue ps k) :
    List.Forall₂ Holds (overrideFold wt m lines)
      ((wt, ps ++ (headerGroups lines).1) :: (headerGroups lines).2) := by
  induction lines generalizing wt m ps with
  | nil => exact .cons ⟨rfl, by simpa [headerGroups] using hm⟩ .nil
  | cons line rest ih =>
    obtain ⟨hhead, hrest⟩ := List.pairwise_cons.mp hlast
    have hwt' : wt ≠ "" ∨ ∀ l ∈ rest, (lineKind l).isHeader = false :=
      hwt.imp_right fun h l hl => h l (.tail _ hl)
    cases hk : lineKind line with
    | skip => simpa [overrideFold, headerGroups, hk] using ih hrest wt hwt' m ps hm
    | pair key value =>
      have h := ih hrest wt hwt' (m.set key value) (ps ++ [(key, value)])
        (fun k => by simp [lastValue_snoc, hm])
      simpa [overrideFold, headerGroups, hk] using h
    | header value =>
      have hnamed : wt ≠ "" :=
        hwt.resolve_right fun h => by simpa [hk, LineKind.isHeader] using h line (.head _)
      have hv := named_or_last hhead hk
      simp only [overrideFold, headerGroups, hk, hnamed, ↓reduceIte, List.append_nil]
      exact .cons ⟨rfl, hm⟩
        (by simpa using ih hrest value hv StrMap.empty [] (by simp [lastValue_nil]))

theorem overrideFold_unnamed (lines : List String) (hlast : BlankHeadersLast lines) (m : StrMap)
    (ps : List (String × String)) (hm : ∀ k, m.get? k = lastValue ps k) :
    List.Forall₂ Holds (overrideFold "" m lines)
      (match (headerGroups lines).2 with
        | [] => [("", ps ++ (headerGroups lines).1)]
        | (value, pairs) :: groups => (value, ps ++ (headerGroups lines).1 ++ pairs) :: groups) := by
  induction lines generalizing m ps with
  | nil => exact .cons ⟨rfl, by simpa [headerGroups] using hm⟩ .nil
  | cons line rest ih =>
    obtain ⟨hhead, hrest⟩ := List.pairwise_cons.mp hlast
    cases hk : lineKind line with
    | skip => simpa [overrideFold, headerGroups, hk] using ih hrest m ps hm
    | pair key value =>
      have h := ih hrest (m.set key value) (ps ++ [(key, value)])
        (fun k => by simp [lastValue_snoc, hm])
      simpa [overrideFold, headerGroups, hk] using h
    | header value =>
      have hv := named_or_last hhead hk
      simpa [overrideFold, headerGroups, hk] using overrideFold_named rest hrest value hv m ps hm

@[simp] theorem headerCount_cons (line : String) (rest : List String) :
    headerCount (line :: rest) = headerCount rest + if (lineKind line).isHeader then 1 else 0 :=
  List.countP_cons _ _ _

theorem closingHeaders_le (wt : String) (lines : List String) :
    closingHeaders wt lines ≤ headerCount lines := by
  induction lines generalizing wt with
  | nil => rfl
  | cons line rest ih =>
    cases hk : lineKind line with
    | header value =>
      have := ih value
      simp only [closingHeaders, hk, headerCount_cons, LineKind.isHeader, ↓reduceIte]
      split_ifs <;> omega
    | _ => simpa [closingHeaders, hk, LineKind.isHeader] using ih wt

theorem closingHeaders_lt (lines : List String) (h : headerCount lines ≠ 0) :
    closingHeaders "" lines < headerCount lines := by
  induction lines with
  | nil => exact absurd rfl h
  | cons line rest ih =>
    cases hk : lineKind line with
    | header value =>
      have := closingHeaders_le value rest
      simp only [closingHeaders, hk, headerCount_cons, LineKind.isHeader, ↓reduceIte]
      omega
    | _ =>
      simp only [closingHeaders, hk, headerCount_cons, LineKind.isHeader] at h ⊢
      exact ih (by simpa using h)

theorem closingHeaders_add_le (lines : List String) (hbad : ¬ BlankHeadersLast lines)
    (wt : String) : closingHeaders wt lines + (if wt = "" then 2 else 1) ≤ headerCount lines := by
  induction lines generalizing wt with
  | nil => exact absurd List.Pairwise.nil hbad
  | cons line rest ih =>
    cases hk : lineKind line with
    | header value =>
      have key : closingHeaders value rest + 1 ≤ headerCount rest := by
        by_cases hrest : BlankHeadersLast rest
        · -- the blank header is this one, and a header follows it
          obtain ⟨l, hl, hv, hlh⟩ : ∃ l ∈ rest, value = "" ∧ (lineKind l).isHeader = true := by
            by_contra hno
            refine hbad (List.pairwise_cons.mpr ⟨fun l hl hv => ?_, hrest⟩)
            rw [hk] at hv
            exact Bool.eq_false_iff.mpr fun h => hno ⟨l, hl, LineKind.header.inj hv, h⟩
          subst hv
          exact closingHeaders_lt rest fun h0 =>
            absurd hlh (by simpa using List.countP_eq_zero.mp h0 l hl)
        · have := ih hrest value
          split_ifs at this <;> omega
      simp only [closingHeaders, hk, headerCount_cons, LineKind.isHeader, ↓reduceIte]
      split_ifs <;> omega
    | _ =>
      have hrest : ¬ BlankHeadersLast rest := fun h =>
        hbad (List.pairwise_cons.mpr ⟨fun _ _ hv => absurd (hk ▸ hv) nofun, h⟩)
      simpa [closingHeaders, hk, LineKind.isHeader] using ih hrest wt

/-- collectOverrideMetrics on a readable file. When no header with a blank value is followed
by another header, it returns one WorkloadMetrics per header line in file order, or a single
one with an empty type when there is none; each holds its header's value and, key by key,
the last value among the pairs after that header and before the next, the pairs before the
first header going to the first. Otherwise it returns fewer WorkloadMetrics than there are
header lines: the header after a blank one finds the type still empty, takes it for the
first, and merges the two groups. -/
theorem collectOverrideMetrics_groups (lines : List String) :
    (BlankHeadersLast lines → ∃ wm, collectOverrideMetrics (.ok lines) = some wm ∧
      List.Forall₂ Holds wm (overrideGroups lines)) ∧
    (¬ BlankHeadersLast lines → ∃ wm, collectOverrideMetrics (.ok lines) = some wm ∧
      wm.length < headerCount lines) := by
  refine ⟨fun hlast => ⟨_, collectOverrideMetrics_eq_fold lines, ?_⟩,
    fun hbad => ⟨_, collectOverrideMetrics_eq_fold lines, ?_⟩⟩
  · have h := overrideFold_unnamed lines hlast StrMap.empty [] (by simp [lastValue_nil])
    unfold overrideGroups
    split <;> simpa [*] using h
  · have := closingHeaders_add_le lines hbad ""
    rw [if_pos rfl] at this
    rw [length_overrideFold]
    omega

/-- The failing input: a blank header and then an ORACLE header give one WorkloadMetrics,
not two. A blank header that comes last is read as its own group. -/
theorem collectOverrideMetrics_blank_header :
    let bad := ["workload_type:", "workload_type: ORACLE"]
    let good := ["workload_type: ORACLE", "a: 1", "workload_type:"]
    (¬ BlankHeadersLast bad ∧ headerCount bad = 2 ∧
      collectOverrideMetrics (.ok bad) = some [⟨"ORACLE", StrMap.empty⟩] ∧
      ∃ wm, collectOverrideMetrics (.ok bad) = some wm ∧ wm.length < headerCount bad) ∧
    (BlankHeadersLast good ∧ ∃ wm, collectOverrideMetrics (.ok good) = some wm ∧
      List.Forall₂ Holds wm (overrideGroups good)) := by
  intro bad good
  have hbad : ¬ BlankHeadersLast bad := by decide
  have hgood : BlankHeadersLast good := by decide
  exact ⟨⟨hbad, by decide, by decide, (collectOverrideMetrics_groups bad).2 hbad⟩,
    hgood, (collectOverrideMetrics_groups good).1 hgood⟩

end WorkloadAgent.WorkloadManager
