import RvpnseTools.Readme.Updater
import Mathlib.Data.Int.Log
import Mathlib.Data.Rat.Floor
import Mathlib.Data.List.Nodup
import Mathlib.Data.Nat.Digits

/-!
# Reading the Criterion results

`parse_criterion_results` walks the entries of `target/criterion` in the
order the file system lists them, reads each benchmark's mean from
`base/estimates.json`, formats it with `_format_time`, and files it with
`_categorize_benchmark`. Each table row ends up holding the time of the last
directory, in listing order, that fills it (`parseCriterionResults_lookup`), so
the tables do not depend on the listing order as long as no two directories
fill the same row (`parseCriterionResults_perm`).

## Implementation notes

A JSON number is the exact rational it spells; `json.load` reads it as the
nearest double (`roundDouble`), and each division of `_format_time` rounds
again. `format(x, ".0f")` and `format(x, ".1f")` round the exact value of the
double half to even, as CPython does. A directory's estimate is `none`
wherever the script reads no time from it: no `base/estimates.json`, a file
that does not parse or whose `mean.point_estimate` is not a number (the
`except` branch), or no `mean` key. The tables are compared as Python compares
dictionaries, by lookup.
-/

namespace RvpnseTools.Readme

section Float

/-- The integer nearest to `x`, the even one on a tie. -/
def roundHalfEven (x : ℚ) : ℤ :=
  if x - ⌊x⌋ < 1 / 2 then ⌊x⌋
  else if 1 / 2 < x - ⌊x⌋ then ⌊x⌋ + 1
  else if ⌊x⌋ % 2 = 0 then ⌊x⌋ else ⌊x⌋ + 1

/-- The double nearest to `q`, ties to even: 53 significant bits, or the
subnormal quantum `2⁻¹⁰⁷⁴` below the normal range. -/
def roundDouble (q : ℚ) : ℚ :=
  if q = 0 then 0 else
    let k : ℤ := max (Int.log 2 |q| - 52) (-1074)
    roundHalfEven (q / 2 ^ k) * 2 ^ k

/-- `format(x, ".0f")` for a double `x`. -/
def formatFixed0 (x : ℚ) : String :=
  (if x < 0 then "-" else "") ++ toString (roundHalfEven x).natAbs

/-- `format(x, ".1f")` for a double `x`. -/
def formatFixed1 (x : ℚ) : String :=
  let n := (roundHalfEven (x * 10)).natAbs
  (if x < 0 then "-" else "") ++ toString (n / 10) ++ "." ++ toString (n % 10)

/-- `_format_time(time_ns)` for a double `timeNs`. -/
def formatTime (timeNs : ℚ) : String :=
  if timeNs < 1000 then "~" ++ formatFixed0 timeNs ++ " ps"
  else if timeNs < 1000000 then "~" ++ formatFixed1 (roundDouble (timeNs / 1000)) ++ " ns"
  else if timeNs < 1000000000 then "~" ++ formatFixed1 (roundDouble (timeNs / 1000000)) ++ " µs"
  else "~" ++ formatFixed1 (roundDouble (timeNs / 1000000000)) ++ " ms"

theorem mem_toDigitsCore {fuel n : Nat} {ds : List Char} {c : Char}
    (h : c ∈ Nat.toDigitsCore 10 fuel n ds) : c ∈ ds ∨ ∃ d < 10, c = Nat.digitChar d := by
  induction fuel generalizing n ds with
  | zero => exact .inl h
  | succ fuel ih =>
      have hd : ∀ {c}, c ∈ Nat.digitChar (n % 10) :: ds → c ∈ ds ∨ ∃ d < 10, c = Nat.digitChar d :=
        fun hc => (List.mem_cons.mp hc).elim (fun h => .inr ⟨_, Nat.mod_lt _ (by decide), h⟩) .inl
      simp only [Nat.toDigitsCore] at h
      split at h
      · exact hd h
      · exact (ih h).elim hd .inr

/-- A rendered natural number holds digits only. -/
theorem not_mem_toString {x : Char} (hx : ∀ d < 10, Nat.digitChar d ≠ x) (n : Nat) :
    x ∉ (toString n).toList := fun h => by
  rcases mem_toDigitsCore h with h | ⟨d, hd, he⟩
  · cases h
  · exact hx d hd he.symm

/-- A formatted time holds digits, `~`, `.`, `-`, spaces and the letters of its unit only. -/
theorem not_mem_formatTime {x : Char} (hx : ∀ d < 10, Nat.digitChar d ≠ x) (hx' : x ∉ "~.- psnµm".toList)
    (timeNs : ℚ) : x ∉ (formatTime timeNs).toList := by
  have h₀ := not_mem_toString hx
  unfold formatTime formatFixed0 formatFixed1
  split_ifs <;> simp_all [String.toList]

end Float

/-- The sample tables `_get_sample_results` returns. -/
def sampleResults : BenchResults :=
  ⟨[("basic_parse", "~13.0 µs"), ("large_parse", "~15.5 µs"), ("validation", "~2.1 ns"),
      ("serialization", "~12.5 µs")],
    [("creation", "~297 ns"), ("connection", "~301 ns"), ("status", "~393 ps"), ("auth", "~1.0 µs"),
      ("keepalive", "~17.1 ns")],
    [("function_call", "~593 ps"), ("string_conversion", "~59 ns"), ("memory_ops", "~292 ps")]⟩

/-- One entry of `target/criterion` as `parse_criterion_results` sees it. -/
structure BenchDir where
  name : String
  isDir : Bool
  /-- The number written at `mean.point_estimate` in `base/estimates.json`, `none`
  where the script reads no time from the entry. -/
  estimate : Option ℚ

/-- One iteration of the loop of `parse_criterion_results`. -/
def parseEntry (results : BenchResults) (benchmarkDir : BenchDir) : BenchResults :=
  if benchmarkDir.isDir ∧ benchmarkDir.name ≠ "report" then
    match benchmarkDir.estimate with
    | some meanTimeNs =>
        categorizeBenchmark benchmarkDir.name (formatTime (roundDouble meanTimeNs)) results
    | none => results
  else results

/-- `parse_criterion_results`, given the listing of `target/criterion`, `none` when
the directory does not exist. -/
def parseCriterionResults : Option (List BenchDir) → BenchResults
  | none => sampleResults
  | some entries => entries.foldl parseEntry ⟨[], [], []⟩

/-! ## Rows -/

/-- The three tables. -/
inductive Table where
  | config
  | client
  | ffi
  deriving DecidableEq, Repr

/-- A row of one of the tables. -/
structure Row where
  table : Table
  key : String
  deriving DecidableEq, Repr

/-- A table by name. -/
def BenchResults.table (r : BenchResults) : Table → List (String × String)
  | .config => r.config
  | .client => r.client
  | .ffi => r.ffi

/-- The row `_categorize_benchmark` files a benchmark under, if any. -/
def benchSlot (benchName : String) : Option Row :=
  if strIn "config" (lower benchName) then (rowFor benchName configRules).map (⟨.config, ·⟩)
  else if strIn "client" (lower benchName) then (rowFor benchName clientRules).map (⟨.client, ·⟩)
  else if strIn "ffi" (lower benchName) then (rowFor benchName ffiRules).map (⟨.ffi, ·⟩)
  else none

/-- The row an entry of the listing fills, if any. -/
def entrySlot (d : BenchDir) : Option Row :=
  if d.isDir ∧ d.name ≠ "report" ∧ d.estimate.isSome then benchSlot d.name else none

/-- The text an entry puts in its row. -/
def entryTime (d : BenchDir) : Option String := d.estimate.map fun t => formatTime (roundDouble t)

theorem lookup_setRow (table : List (String × String)) (row : Option String) (v k : String) :
    (setRow table row v).lookup k = if row = some k then some v else table.lookup k := by
  cases row <;> simp [setRow, lookup_dictSet, eq_comm]

/-- Filing a benchmark sets its row and no other. -/
theorem lookup_categorizeBenchmark (benchName formattedTime : String) (r : BenchResults)
    (T : Table) (k : String) :
    ((categorizeBenchmark benchName formattedTime r).table T).lookup k =
      if benchSlot benchName = some ⟨T, k⟩ then some formattedTime else (r.table T).lookup k := by
  unfold categorizeBenchmark benchSlot
  split_ifs <;> cases T <;> simp_all [BenchResults.table, lookup_setRow, Option.map_eq_some']

theorem lookup_parseEntry (r : BenchResults) (d : BenchDir) (T : Table) (k : String) :
    ((parseEntry r d).table T).lookup k =
      if entrySlot d = some ⟨T, k⟩ then entryTime d else (r.table T).lookup k := by
  unfold parseEntry entrySlot entryTime
  rcases d with ⟨name, isDir, _ | t⟩ <;> by_cases hd : isDir = true ∧ name ≠ "report" <;>
    simp [hd, lookup_categorizeBenchmark]

/-- After the loop, a row holds the time of the last entry that fills it. -/
theorem lookup_foldl_parseEntry (entries : List BenchDir) (r : BenchResults) (T : Table) (k : String) :
    ((entries.foldl parseEntry r).table T).lookup k =
      match (entries.filter (entrySlot · = some ⟨T, k⟩)).getLast? with
      | some d => entryTime d
      | none => (r.table T).lookup k := by
  induction entries using List.reverseRecOn with
  | nil => rfl
  | append_singleton l d ih =>
      rw [List.foldl_append, List.foldl_cons, List.foldl_nil, lookup_parseEntry, ih, List.filter_append]
      by_cases hd : entrySlot d = some ⟨T, k⟩ <;> simp [hd]

/-- Each row of the tables `parse_criterion_results` builds from a listing holds the
time of the last directory, in listing order, that fills it; a row no directory
fills is absent. -/
theorem parseCriterionResults_lookup (entries : List BenchDir) (T : Table) (k : String) :
    ((parseCriterionResults (some entries)).table T).lookup k =
      (entries.filter (entrySlot · = some ⟨T, k⟩)).getLast?.bind entryTime := by
  rw [parseCriterionResults, lookup_foldl_parseEntry]
  cases (entries.filter (entrySlot · = some ⟨T, k⟩)).getLast? <;> cases T <;> rfl

theorem length_filter_entrySlot (l : List BenchDir) (s : Row) :
    (l.filter (entrySlot · = some s)).length = (l.filterMap entrySlot).count s := by
  induction l with
  | nil => rfl
  | cons d l ih =>
      cases h : entrySlot d with
      | none => simp [List.filter_cons, List.filterMap_cons, h, ih]
      | some s' => by_cases hs : s' = s <;> simp [List.filter_cons, List.filterMap_cons, List.count_cons, h, hs, ih]

/-- Two listings of the same directories, no two of which fill the same row, give
the same tables: the order in which `iterdir` lists them does not matter. -/
theorem parseCriterionResults_perm {l l' : List BenchDir} (hp : l.Perm l')
    (hrows : (l.filterMap entrySlot).Nodup) (T : Table) (k : String) :
    ((parseCriterionResults (some l)).table T).lookup k =
      ((parseCriterionResults (some l')).table T).lookup k := by
  have hf := hp.filter (entrySlot · = some ⟨T, k⟩)
  have hlen : (l.filter (entrySlot · = some ⟨T, k⟩)).length ≤ 1 := by
    rw [length_filter_entrySlot]; exact List.nodup_iff_count_le_one.mp hrows _
  rw [parseCriterionResults_lookup, parseCriterionResults_lookup]
  match hl : l.filter (entrySlot · = some ⟨T, k⟩), hf with
  | [], hf => rw [← List.Perm.nil_eq hf]
  | [d], hf => rw [List.perm_singleton.mp hf.symm]
  | _ :: _ :: _, _ => simp [hl] at hlen

/-- Every time the tables hold is a formatted time. -/
theorem not_mem_parseCriterionResults {x : Char} (hx : ∀ d < 10, Nat.digitChar d ≠ x)
    (hx' : x ∉ "~.- psnµm".toList) {entries : List BenchDir} {T : Table} {k v : String}
    (h : ((parseCriterionResults (some entries)).table T).lookup k = some v) : x ∉ v.toList := by
  rw [parseCriterionResults_lookup, Option.bind_eq_some] at h
  obtain ⟨d, -, hd⟩ := h
  obtain ⟨t, -, rfl⟩ := Option.map_eq_some'.mp hd
  exact not_mem_formatTime hx hx' _

end RvpnseTools.Readme
