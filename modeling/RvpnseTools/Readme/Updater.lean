import RvpnseTools.Python

/-!
# The README benchmark updater

`scripts/update-readme-benchmarks.py` files each Criterion benchmark under one
row of three tables, renders the tables as a Markdown section, and splices
that section between two HTML comment markers of the README.

## Implementation notes

The categoriser takes the formatted time as given, and the splice is a
function of the text read and the section generated. The README and the
section are lists of characters, so that `find` and slicing are list
operations. `_format_time`, the loop over the Criterion results, the section
template and the file-level `update_readme` are modelled in `Readme.Criterion`,
`Readme.Section` and `Readme.Runs`.
-/

namespace RvpnseTools.Readme

/-- The `results` dictionary of `parse_criterion_results`: three tables of rows. -/
structure BenchResults where
  config : List (String × String)
  client : List (String × String)
  ffi : List (String × String)

/-- The row rules of one table, in branch order: a rule fires when one of its
words occurs in the benchmark name, and the first rule that fires names the row. -/
abbrev RowRules := List (List String × String)

/-- The `elif` chain inside one category of `_categorize_benchmark`. -/
def rowFor (benchName : String) : RowRules → Option String
  | [] => none
  | (words, row) :: rules => if words.any (strIn · benchName) then some row else rowFor benchName rules

/-- The rows of the `config` table. -/
def configRules : RowRules :=
  [(["parse_basic"], "basic_parse"), (["parse_large"], "large_parse"),
   (["validate"], "validation"), (["serialize"], "serialization")]

/-- The rows of the `client` table. -/
def clientRules : RowRules :=
  [(["create"], "creation"), (["connect", "resolve"], "connection"), (["status"], "status"),
   (["auth"], "auth"), (["keepalive"], "keepalive")]

/-- The rows of the `ffi` table. -/
def ffiRules : RowRules :=
  [(["parse_config"], "function_call"), (["string", "cstring"], "string_conversion"),
   (["memory", "client"], "memory_ops")]

/-- Set the row a rule list picks, if any, to `value`. -/
def setRow (table : List (String × String)) (row : Option String) (value : String) :
    List (String × String) :=
  match row with
  | some k => dictSet table k value
  | none => table

/-- `_categorize_benchmark(bench_name, time_ns, results)`, where `formattedTime` is
`self._format_time(time_ns)`: the first category keyword found in the lowered
name picks the table, and that table's rules pick the row. -/
def categorizeBenchmark (benchName formattedTime : String) (r : BenchResults) : BenchResults :=
  if strIn "config" (lower benchName) then
    { r with config := setRow r.config (rowFor benchName configRules) formattedTime }
  else if strIn "client" (lower benchName) then
    { r with client := setRow r.client (rowFor benchName clientRules) formattedTime }
  else if strIn "ffi" (lower benchName) then
    { r with ffi := setRow r.ffi (rowFor benchName ffiRules) formattedTime }
  else r

/-- `start_marker`. -/
def startMarker : List Char := "<!-- BENCHMARK_RESULTS_START -->".toList

/-- `end_marker`. -/
def endMarker : List Char := "<!-- BENCHMARK_RESULTS_END -->".toList

/-- The text `update_readme` writes back, given the README `content` it read and the
section it generated; `none` where it returns `False` for a missing marker. -/
def updateReadme (content newSection : List Char) : Option (List Char) :=
  match find startMarker content, find endMarker content with
  | some startIdx, some endIdx =>
      some (content.take (startIdx + startMarker.length) ++ '\n' :: newSection ++
        '\n' :: content.drop endIdx)
  | _, _ => none

end RvpnseTools.Readme
