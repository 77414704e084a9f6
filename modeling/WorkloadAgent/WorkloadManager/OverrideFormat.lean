import WorkloadAgent.WorkloadManager.OverrideGroups

/-! The override file as a format. Groups written one `workload_type:` header each, then
one `key: value` line per pair, each line ended by a newline, are read back through the
scanner by collectOverrideMetrics as those groups. The side conditions say what the format
can carry: a non-blank type, keys with no `:` that are neither a `#` comment nor the header
key, no text with space at either end, which strings.TrimSpace would strip, no newline in
any text, and lines that fit in the scanner's buffer. -/
namespace WorkloadAgent.WorkloadManager

/-- An override file written from groups: each group's header, then its pairs. -/
def renderOverride : List (String × List (String × String)) → List String
  | [] => []
  | (t, ps) :: gs => ("workload_type: " ++ t) :: ps.map (fun p => p.1 ++ ": " ++ p.2) ++
      renderOverride gs

/-- The text of that file, each line ended by a newline. -/
def writeOverride (gs : List (String × List (String × String))) : String :=
  ⟨(renderOverride gs).flatMap fun line => line.data ++ ['\n']⟩

/-- A pair the format carries: TrimSpace keeps its key and value, neither has a newline,
the key has no `:`, starts no comment and is not the header key, and its line fits in the
scanner's buffer with its newline. -/
def PairFits (p : String × String) : Prop :=
  ':' ∉ p.1.data ∧ hasPrefix p.1 "#" = false ∧ p.1 ≠ "workload_type" ∧
    trimSpace p.1 = p.1 ∧ trimSpace p.2 = p.2 ∧ '\n' ∉ p.1.data ∧ '\n' ∉ p.2.data ∧
    (p.1 ++ ": " ++ p.2).utf8ByteSize < maxScanTokenSize

/-- A group the format carries: a non-blank type that TrimSpace keeps, with no newline and a
header line that fits in the buffer, and pairs that fit. -/
def GroupFits (g : String × List (String × String)) : Prop :=
  g.1 ≠ "" ∧ trimSpace g.1 = g.1 ∧ '\n' ∉ g.1.data ∧
    ("workload_type: " ++ g.1).utf8ByteSize < maxScanTokenSize ∧ ∀ p ∈ g.2, PairFits p

instance : DecidablePred PairFits := fun _ => inferInstanceAs (Decidable (_ ∧ _))

instance : DecidablePred GroupFits := fun _ => inferInstanceAs (Decidable (_ ∧ _))

theorem trimSpace_space_append (s : String) : trimSpace (" " ++ s) = trimSpace s := by
  simp only [trimSpace]
  rw [show (" " ++ s).data = ' ' :: s.data from rfl, List.dropWhile_cons_of_pos (by decide)]

theorem cutChars_append {sep : Char} {k : List Char} (hk : sep ∉ k) (rest : List Char) :
    cutChars sep (k ++ sep :: rest) = some (k, rest) := by
  induction k with
  | nil => simp [cutChars]
  | cons c k ih =>
    have hc : c ≠ sep := fun h => hk (h ▸ .head _)
    simp [cutChars, hc, ih (fun h => hk (.tail _ h))]

theorem hasPrefix_colonLine (k v : String) : hasPrefix (k ++ ": " ++ v) "#" = hasPrefix k "#" := by
  obtain ⟨k⟩ := k
  cases k <;> simp [hasPrefix, String.data_append, List.isPrefixOf]

theorem lineKind_colonLine {k : String} (hcolon : ':' ∉ k.data) (hhash : hasPrefix k "#" = false)
    (v : String) :
    lineKind (k ++ ": " ++ v) = if trimSpace k = "workload_type" then .header (trimSpace v)
      else .pair (trimSpace k) (trimSpace v) := by
  have hcut : cut (k ++ ": " ++ v) ':' = some (k, " " ++ v) := by
    rw [cut, show (k ++ ": " ++ v).data = k.data ++ ':' :: (" " ++ v).data by simp [String.data_append],
      cutChars_append hcolon]
    rfl
  have hne : k ++ ": " ++ v ≠ "" := fun h => by
    simpa using congrArg String.data h
  simp only [lineKind, hne, hasPrefix_colonLine, hhash, hcut, trimSpace_space_append]
  simp

theorem lineKind_pairLine {p : String × String} (h : PairFits p) :
    lineKind (p.1 ++ ": " ++ p.2) = .pair p.1 p.2 := by
  obtain ⟨hcolon, hhash, hkey, hk, hv, -⟩ := h
  rw [lineKind_colonLine hcolon hhash, hk, hv, if_neg hkey]

theorem headerLine_eq (t : String) : "workload_type: " ++ t = "workload_type" ++ ": " ++ t := by
  rw [String.append_assoc]; rfl

theorem lineKind_headerLine {t : String} (ht : trimSpace t = t) :
    lineKind ("workload_type: " ++ t) = .header t := by
  rw [headerLine_eq, lineKind_colonLine (by decide) (by decide), if_pos (by decide), ht]

theorem headerGroups_pairLines {ps : List (String × String)} (hps : ∀ p ∈ ps, PairFits p)
    (rest : List String) :
    headerGroups (ps.map (fun p => p.1 ++ ": " ++ p.2) ++ rest) =
      (ps ++ (headerGroups rest).1, (headerGroups rest).2) := by
  induction ps with
  | nil => rfl
  | cons p ps ih =>
    simp [headerGroups, lineKind_pairLine (hps p (.head _)), ih fun q hq => hps q (.tail _ hq)]

theorem headerGroups_renderOverride {gs : List (String × List (String × String))}
    (hgs : ∀ g ∈ gs, GroupFits g) : headerGroups (renderOverride gs) = ([], gs) := by
  induction gs with
  | nil => rfl
  | cons g gs ih =>
    obtain ⟨t, ps⟩ := g
    obtain ⟨-, ht, -, -, hps⟩ := hgs _ (.head _)
    simp [renderOverride, headerGroups, lineKind_headerLine ht, headerGroups_pairLines hps,
      ih fun g hg => hgs g (.tail _ hg)]

theorem blankHeadersLast_renderOverride {gs : List (String × List (String × String))}
    (hgs : ∀ g ∈ gs, GroupFits g) : BlankHeadersLast (renderOverride gs) := by
  have hnamed : ∀ line ∈ renderOverride gs, lineKind line ≠ .header "" := by
    induction gs with
    | nil => nofun
    | cons g gs ih =>
      obtain ⟨t, ps⟩ := g
      obtain ⟨hne, ht, -, -, hps⟩ := hgs _ (.head _)
      intro line hline
      simp only [renderOverride, List.mem_cons, List.mem_append, List.mem_map] at hline
      rcases hline with (rfl | ⟨p, hp, rfl⟩) | hline
      · rw [lineKind_headerLine ht]; simpa using hne
      · rw [lineKind_pairLine (hps p hp)]; nofun
      · exact ih (fun g hg => hgs g (.tail _ hg)) line hline
  exact List.pairwise_of_forall_mem_list fun a ha _ _ h => absurd h (hnamed a ha)

/-- A line the scanner yields back as it is: no newline, no carriage return that dropCR
would take, and room for it and its newline in the buffer. -/
def ScanFits (line : String) : Prop :=
  '\n' ∉ line.data ∧ line.data.getLast? ≠ some '\r' ∧ line.utf8ByteSize < maxScanTokenSize

theorem scanLinesFrom_append {xs : List Char} (h : '\n' ∉ xs) (line rest : List Char) :
    scanLinesFrom line (xs ++ rest) = scanLinesFrom (line ++ xs) rest := by
  induction xs generalizing line with
  | nil => simp
  | cons x xs ih =>
    have hx : x ≠ '\n' := fun e => h (e ▸ .head _)
    simp [scanLinesFrom, hx, ih (fun m => h (.tail _ m))]

theorem scanLinesFrom_lines {lines : List String} (hl : ∀ l ∈ lines, ScanFits l) :
    scanLinesFrom [] (lines.flatMap fun line => line.data ++ ['\n']) = lines := by
  induction lines with
  | nil => rfl
  | cons l ls ih =>
    obtain ⟨cs⟩ := l
    obtain ⟨hn, hcr, hlen⟩ := hl _ (.head _)
    rw [List.flatMap_cons, List.append_assoc, scanLinesFrom_append hn, List.nil_append,
      List.singleton_append, scanLinesFrom, if_pos rfl, scanToken, if_pos hlen, dropCR,
      if_neg hcr, ih fun l h => hl l (.tail _ h)]

theorem isSpace_getLast_of_trimSpace {s : String} (h : trimSpace s = s) {c : Char}
    (hc : s.data.getLast? = some c) : isSpace c = false := by
  have hdata := congrArg String.data h
  simp only [trimSpace] at hdata
  rw [← hdata, List.getLast?_reverse] at hc
  simpa [hc] using List.head?_dropWhile_not isSpace ((s.data.dropWhile isSpace).reverse)

theorem scanFits_colonLine {k v : String} (hk : '\n' ∉ k.data) (hv : '\n' ∉ v.data)
    (htrim : trimSpace v = v) (hlen : (k ++ ": " ++ v).utf8ByteSize < maxScanTokenSize) :
    ScanFits (k ++ ": " ++ v) := by
  refine ⟨by simp [String.data_append, hk, hv], fun hcr => ?_, hlen⟩
  rcases List.eq_nil_or_concat v.data with h | ⟨l, c, h⟩
  · simp [String.data_append, h] at hcr
  · rw [List.concat_eq_append] at h
    rw [String.data_append, String.data_append, h, ← List.append_assoc, List.getLast?_concat] at hcr
    have := isSpace_getLast_of_trimSpace htrim (by rw [h, List.getLast?_concat])
    rw [Option.some.inj hcr] at this
    exact absurd this (by decide)

theorem scanFits_renderOverride {gs : List (String × List (String × String))}
    (hgs : ∀ g ∈ gs, GroupFits g) : ∀ line ∈ renderOverride gs, ScanFits line := by
  induction gs with
  | nil => nofun
  | cons g gs ih =>
    obtain ⟨t, ps⟩ := g
    obtain ⟨-, ht, hn, hlen, hps⟩ := hgs _ (.head _)
    intro line hline
    simp only [renderOverride, List.mem_cons, List.mem_append, List.mem_map] at hline
    rcases hline with (rfl | ⟨p, hp, rfl⟩) | hline
    · rw [headerLine_eq] at hlen ⊢
      exact scanFits_colonLine (by decide) hn ht hlen
    · obtain ⟨-, -, -, -, hv, hk, hv', hlen'⟩ := hps p hp
      exact scanFits_colonLine hk hv' hv hlen'
    · exact ih (fun g hg => hgs g (.tail _ hg)) line hline

/-- Every non-empty list of groups the format carries, written as an override file, is
scanned as its lines and read back by collectOverrideMetrics: one WorkloadMetrics per group,
in order, with the group's type and, key by key, the value of the group's last pair with
that key. -/
theorem collectOverrideMetrics_renderOverride (gs : List (String × List (String × String)))
    (hne : gs ≠ []) (hgs : ∀ g ∈ gs, GroupFits g) :
    scanLines (writeOverride gs) = renderOverride gs ∧
      ∃ wm, collectOverrideMetrics (.ok (scanLines (writeOverride gs))) = some wm ∧
        List.Forall₂ Holds wm gs := by
  have hscan : scanLines (writeOverride gs) = renderOverride gs :=
    scanLinesFrom_lines (scanFits_renderOverride hgs)
  rw [hscan]
  refine ⟨rfl, _, collectOverrideMetrics_eq_fold _, ?_⟩
  have h := overrideFold_unnamed _ (blankHeadersLast_renderOverride hgs) StrMap.empty []
    (by simp [lastValue_nil])
  rw [headerGroups_renderOverride hgs] at h
  obtain ⟨⟨t, ps⟩, gs', rfl⟩ := List.exists_cons_of_ne_nil hne
  simpa using h

/-- Two groups, the second with no pairs, one value with a space inside. -/
theorem collectOverrideMetrics_renderOverride_two :
    let gs := [("ORACLE", [("a", "1"), ("b", "x y")]), ("REDIS", [])]
    gs ≠ [] ∧ (∀ g ∈ gs, GroupFits g) ∧ scanLines (writeOverride gs) = renderOverride gs ∧
      ∃ wm, collectOverrideMetrics (.ok (scanLines (writeOverride gs))) = some wm ∧
        List.Forall₂ Holds wm gs :=
  ⟨nofun, by decide, collectOverrideMetrics_renderOverride _ nofun (by decide)⟩

end WorkloadAgent.WorkloadManager
