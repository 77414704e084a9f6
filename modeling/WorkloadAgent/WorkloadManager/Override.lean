import WorkloadAgent.ServiceCommunication

/-! The metric override file of the workload manager (collectOverrideMetrics and
metricEmitter.getMetric): `key: value` lines grouped under `workload_type:` headers, read
by successive getMetric calls on one scanner. The scanner is its remaining lines; a read
error or an over-long line ends them, which getMetric only logs. -/
namespace WorkloadAgent.WorkloadManager

/-- A Go `map[string]string` by its bindings, one per key, newest first. -/
structure StrMap where
  bindings : List (String × String)
  deriving DecidableEq, Repr

namespace StrMap

def empty : StrMap := ⟨[]⟩

/-- `m[k] = v`. -/
def set (m : StrMap) (k v : String) : StrMap := ⟨(k, v) :: m.bindings.filter (·.1 != k)⟩

/-- `m[k]`, with its presence. -/
def get? (m : StrMap) (k : String) : Option String := m.bindings.lookup k

@[simp] theorem get?_empty (k : String) : empty.get? k = none := rfl

theorem lookup_filter_ne {k k' : String} (h : k' ≠ k) (l : List (String × String)) :
    (l.filter (·.1 != k)).lookup k' = l.lookup k' := by
  induction l with
  | nil => rfl
  | cons b l ih =>
    obtain ⟨b1, b2⟩ := b
    by_cases hb : b1 = k
    · subst hb
      simp [List.filter_cons, List.lookup_cons, beq_false_of_ne h, ih]
    · by_cases hb' : k' = b1
      · subst hb'
        simp [List.filter_cons, hb, List.lookup_cons]
      · simp [List.filter_cons, hb, List.lookup_cons, beq_false_of_ne hb', ih]

@[simp] theorem get?_set (m : StrMap) (k v k' : String) :
    (m.set k v).get? k' = if k' = k then some v else m.get? k' := by
  by_cases h : k' = k
  · simp [set, get?, List.lookup_cons, h]
  · simp [set, get?, List.lookup_cons, h, beq_false_of_ne h, lookup_filter_ne h]

end StrMap

/-- `unicode.IsSpace`. -/
def isSpace (c : Char) : Bool :=
  let n := c.toNat
  n == 0x20 || (0x09 ≤ n && n ≤ 0x0D) || n == 0x85 || n == 0xA0 || n == 0x1680 ||
    (0x2000 ≤ n && n ≤ 0x200A) || n == 0x2028 || n == 0x2029 || n == 0x202F ||
    n == 0x205F || n == 0x3000

/-- `strings.TrimSpace`. -/
def trimSpace (s : String) : String :=
  ⟨((s.data.dropWhile isSpace).reverse.dropWhile isSpace).reverse⟩

def cutChars (sep : Char) : List Char → Option (List Char × List Char)
  | [] => none
  | c :: cs => if c = sep then some ([], cs) else (cutChars sep cs).map fun p => (c :: p.1, p.2)

/-- `strings.Cut(s, sep)`: the text before and after the first `sep`, if there is one. -/
def cut (s : String) (sep : Char) : Option (String × String) :=
  (cutChars sep s.data).map fun p => (⟨p.1⟩, ⟨p.2⟩)

/-- How the body of getMetric's scan loop reads a line. -/
inductive LineKind where
  /-- Empty, a `#` comment, or no `:` ("Invalid format"). -/
  | skip
  | header (value : String)
  | pair (key value : String)
  deriving DecidableEq, Repr

def lineKind (line : String) : LineKind :=
  if line = "" ∨ hasPrefix line "#" = true then .skip
  else
    match cut line ':' with
    | none => .skip
    | some (key, value) =>
      if trimSpace key = "workload_type" then .header (trimSpace value)
      else .pair (trimSpace key) (trimSpace value)

structure WorkloadMetrics where
  workloadType : String
  metrics : StrMap
  deriving DecidableEq, Repr

/-- `metricEmitter`: the scanner's remaining lines, the current workload type, and the
metrics map, `none` while it is still nil. -/
structure MetricEmitter where
  scanner : List String
  workloadType : String
  metrics : Option StrMap
  deriving DecidableEq, Repr

/-- The scan loop of getMetric from the emitter's type `wt` and map `m`: it returns at the
end of the lines, or at a header read while `wt` is non-empty. -/
def getMetricScan (wt : String) (m : StrMap) :
    List String → (String × StrMap × Bool) × MetricEmitter
  | [] => ((wt, m, true), ⟨[], wt, some m⟩)
  | line :: rest =>
    match lineKind line with
    | .skip => getMetricScan wt m rest
    | .header value =>
      if wt = "" then getMetricScan value m rest
      else ((wt, m, false), ⟨rest, value, some StrMap.empty⟩)
    | .pair key value => getMetricScan wt (m.set key value) rest

/-- `e.getMetric(ctx)`: the workload type, its metrics and `last`, and the emitter after. -/
def MetricEmitter.getMetric (e : MetricEmitter) : (String × StrMap × Bool) × MetricEmitter :=
  getMetricScan e.workloadType (e.metrics.getD StrMap.empty) e.scanner

/-- The `for { … if last { break } }` loop of collectOverrideMetrics, allowed `fuel`
calls of getMetric; `none` if they run out. -/
def collectLoop : Nat → MetricEmitter → List WorkloadMetrics → Option (List WorkloadMetrics)
  | 0, _, _ => none
  | fuel + 1, e, wm =>
    let r := e.getMetric
    let wm := wm ++ [⟨r.1.1, r.1.2.1⟩]
    if r.1.2.2 then some wm else collectLoop fuel r.2 wm

/-- collectOverrideMetrics on what `reader(MetricOverridePath)` gives: the lines its scanner
yields (scanLines below), or an error. The loop is allowed one call per line and one more. -/
def collectOverrideMetrics (file : Except String (List String)) : Option (List WorkloadMetrics) :=
  match file with
  | .error _ => some []
  | .ok lines => collectLoop (lines.length + 1) ⟨lines, "", none⟩ []

/-- bufio.MaxScanTokenSize: the buffer of a Scanner from bufio.NewScanner grows no larger. -/
def maxScanTokenSize : Nat := 64 * 1024

/-- dropCR of bufio.ScanLines: one "\r" at the end of a line is dropped. -/
def dropCR (line : List Char) : List Char :=
  if line.getLast? = some '\r' then line.dropLast else line

/-- One Scan that has read `line`: its token and the lines after it if the line with its
"\n" fits in the buffer, and otherwise ErrTooLong, after which Scan returns false. -/
def scanToken (line : List Char) (rest : List String) : List String :=
  if (String.mk line).utf8ByteSize < maxScanTokenSize then ⟨dropCR line⟩ :: rest else []

/-- The lines a Scanner with the ScanLines split yields from text, `line` being read so far:
each line without its "\n" and through dropCR, the last one also when no "\n" ends it. -/
def scanLinesFrom (line : List Char) : List Char → List String
  | [] => if line = [] then [] else scanToken line []
  | c :: cs =>
    if c = '\n' then scanToken line (scanLinesFrom [] cs) else scanLinesFrom (line ++ [c]) cs

/-- The lines bufio.NewScanner(file) yields from the file's text. -/
def scanLines (text : String) : List String := scanLinesFrom [] text.data

/-- The lines each getMetric call of the loop consumes, with the `last` it returns. -/
def getMetricCalls : Nat → MetricEmitter → List (List String × Bool)
  | 0, _ => []
  | fuel + 1, e =>
    let r := e.getMetric
    (e.scanner.take (e.scanner.length - r.2.scanner.length), r.1.2.2) ::
      if r.1.2.2 then [] else getMetricCalls fuel r.2

end WorkloadAgent.WorkloadManager
