import RvpnseTools.Readme.Section
import RvpnseTools.Readme.Splice

/-!
# Runs of the updater

A run of the script reads the README, the Criterion results and the host, and
writes the README back with the text between the two markers replaced by the
section it generated. The README is the state that runs share. Both `open` calls
are in text mode with the locale's encoding: reading turns `"\r\n"` and a lone
`"\r"` into `"\n"`, and writing turns `"\n"` into `os.linesep` and encodes the
text, so a section that the locale cannot encode, as code page 1252 cannot encode
its heading's emoji, raises after the README was emptied (`main_empties_readme`).
Under encodings that cover all of Unicode, from a README whose first start marker
precedes its first end marker, every run exits with 0, and after any sequence of
runs the README is the first one as read, with only the text between the markers
replaced by the last run's section, written with the last run's line separator
(`runAll_last_section`). What a run writes does not depend on the order in which
the file system lists the benchmark directories, unless two of them fill the same
row (`main_listing_perm`).

## Implementation notes

`RunEnv` is everything a run reads besides the README. The README is the text its
bytes decode to in the locale's encoding, `none` when the file does not exist; a
README that does not decode, or that is a directory, is not modelled, and the file
system is otherwise not modelled, since the script touches no other file. Every
message the script prints starts with an emoji that only an encoding covering all
of Unicode (UTF-8, UTF-16, GB18030) encodes, so `print` is modelled by whether
`sys.stdout` has such an encoding, and the printed text is not kept. An exception
that escapes `main` ends the interpreter with exit status 1.
-/

namespace RvpnseTools.Readme

/-- What one run reads besides the README: the listing of `target/criterion`, `none`
when it does not exist, what `get_system_info` reads, and the text I/O of the host. -/
structure RunEnv where
  criterion : Option (List BenchDir)
  date : String
  platform : String
  arch : String
  rustcOutput : Option String
  /-- The characters the locale's preferred encoding, which `open` uses, can encode. -/
  fileEncodes : Char → Bool
  /-- Whether the encoding of `sys.stdout` covers all of Unicode. -/
  stdoutUnicode : Bool
  /-- Whether `os.linesep` is `"\r\n"`, as on Windows, rather than `"\n"`. -/
  crlf : Bool

/-- The date, the system and machine names and the output of `rustc` hold no `<`, and no
carriage return. -/
structure RunEnv.Plain (env : RunEnv) : Prop where
  date : '<' ∉ env.date.toList ∧ '\r' ∉ env.date.toList
  platform : '<' ∉ env.platform.toList ∧ '\r' ∉ env.platform.toList
  arch : '<' ∉ env.arch.toList ∧ '\r' ∉ env.arch.toList
  rustc : ∀ out, env.rustcOutput = some out → '<' ∉ out.toList ∧ '\r' ∉ out.toList

/-- The locale's encoding and that of `sys.stdout` both cover all of Unicode. -/
structure RunEnv.Unicode (env : RunEnv) : Prop where
  file : ∀ c, env.fileEncodes c = true
  stdout : env.stdoutUnicode = true

section TextMode

/-- Reading in text mode, with universal newlines: `"\r\n"` and a lone `"\r"` each become
`"\n"`. -/
def readNewlines : List Char → List Char
  | [] => []
  | '\r' :: '\n' :: cs => '\n' :: readNewlines cs
  | '\r' :: cs => '\n' :: readNewlines cs
  | c :: cs => c :: readNewlines cs

/-- Writing in text mode: each `"\n"` becomes `os.linesep`. -/
def writeNewlines (crlf : Bool) (text : List Char) : List Char :=
  if crlf then text.flatMap fun c => if c = '\n' then ['\r', '\n'] else [c] else text

theorem readNewlines_cons_of_ne {c : Char} (hc : c ≠ '\r') (cs : List Char) :
    readNewlines (c :: cs) = c :: readNewlines cs := by
  rw [readNewlines.eq_def]
  split <;> simp_all

/-- What is read in text mode holds no carriage return. -/
theorem cr_not_mem_readNewlines (text : List Char) : '\r' ∉ readNewlines text := by
  induction text using readNewlines.induct with
  | case1 => simp [readNewlines]
  | case2 cs ih => simpa [readNewlines] using ih
  | case3 cs _ ih => simpa [readNewlines] using ih
  | case4 c cs _ hc ih => rw [readNewlines_cons_of_ne hc]; simpa [Ne.symm hc] using ih

/-- A text without carriage returns reads back as it was written, with either line separator. -/
theorem readNewlines_writeNewlines (crlf : Bool) {text : List Char} (h : '\r' ∉ text) :
    readNewlines (writeNewlines crlf text) = text := by
  induction text with
  | nil => cases crlf <;> rfl
  | cons c cs ih =>
      have hc : c ≠ '\r' := fun hc => h (hc ▸ .head _)
      have ih := ih fun h' => h (.tail _ h')
      cases crlf
      · simpa [writeNewlines, readNewlines_cons_of_ne hc] using ih
      · by_cases hn : c = '\n'
        · subst hn
          simpa [writeNewlines, readNewlines] using ih
        · simpa [writeNewlines, hn, readNewlines_cons_of_ne hc] using ih

theorem mem_writeNewlines {x : Char} (hx : x ≠ '\r') {crlf : Bool} {text : List Char} :
    x ∈ writeNewlines crlf text ↔ x ∈ text := by
  cases crlf
  · rfl
  · simp only [writeNewlines, if_true, List.mem_flatMap]
    refine ⟨fun ⟨c, hc, hx'⟩ => ?_, fun hx' => ⟨x, hx', by split_ifs with hn <;> simp [hn]⟩⟩
    split_ifs at hx' with hn <;> simp_all

end TextMode

/-- The effects of a run on the README: the file as the state, `none` when it does not exist,
left as it stands when an exception is raised. The one exception modelled is
`UnicodeEncodeError`. -/
abbrev Script := EStateM Unit (Option (List Char))

namespace Script

variable {α β : Type} (s : Option (List Char))

@[simp] theorem bind_apply (x : Script α) (f : α → Script β) :
    (x >>= f) s = match x s with
      | .ok a s' => f a s'
      | .error e s' => .error e s' := by
  show EStateM.bind x f s = _
  unfold EStateM.bind
  cases x s <;> rfl

@[simp] theorem map_apply (f : α → β) (x : Script α) :
    (f <$> x) s = match x s with
      | .ok a s' => .ok (f a) s'
      | .error e s' => .error e s' := by
  show EStateM.map f x s = _
  unfold EStateM.map
  cases x s <;> rfl

@[simp] theorem pure_apply (a : α) : (pure a : Script α) s = .ok a s := rfl

@[simp] theorem get_apply : (get : Script (Option (List Char))) s = .ok s s := rfl

@[simp] theorem set_apply (s' : Option (List Char)) : (set s' : Script PUnit) s = .ok () s' := rfl

@[simp] theorem throw_apply : (throw () : Script α) s = .error () s := rfl

end Script

/-- `print(msg)`: raises `UnicodeEncodeError` unless the encoding of `sys.stdout` covers all
of Unicode, as the emoji each message starts with needs. -/
def print (env : RunEnv) (_msg : String) : Script Unit :=
  if env.stdoutUnicode then pure () else throw ()

/-- `with open(path, 'w') as f: f.write(text)`: the file is emptied, then each `"\n"` of the
text becomes `os.linesep` and the text is encoded with the locale's encoding, which raises
`UnicodeEncodeError`, before anything is written, at a character it cannot encode. -/
def writeText (env : RunEnv) (text : List Char) : Script Unit := do
  set (some ([] : List Char))
  let translated := writeNewlines env.crlf text
  if translated.all env.fileEncodes then set (some translated) else throw ()

namespace BenchmarkParser

/-- The section a run generates. -/
def newSection (env : RunEnv) : String :=
  generateBenchmarkSection (parseCriterionResults env.criterion)
    (getSystemInfo env.date env.platform env.arch env.rustcOutput)

/-- `update_readme`: whether it returns `True`. -/
def updateReadme (env : RunEnv) : Script Bool := do
  match ← get with
  | none =>
      print env "❌ README.md not found!"
      return false
  | some file =>
      if env.criterion.isNone then print env "⚠️ No criterion results found, using sample data"
      match RvpnseTools.Readme.updateReadme (readNewlines file) (newSection env).toList with
      | none =>
          print env "❌ Benchmark section markers not found in README.md"
          return false
      | some newContent =>
          writeText env newContent
          print env "✅ README.md updated successfully with latest benchmark results!"
          return true

end BenchmarkParser

/-- `main`, as `sys.exit(main())` runs it: the exit status, 1 also where an exception
escapes, and the README afterwards. -/
def main (readme : Option (List Char)) (env : RunEnv) : Int × Option (List Char) :=
  let run : Script Int := do
    print env "📊 Updating README.md with parsed benchmark results..."
    if ← BenchmarkParser.updateReadme env then
      print env "🎉 README update complete!"
      return 0
    else
      print env "❌ README update failed!"
      return 1
  match run readme with
  | .ok status readme' => (status, readme')
  | .error () readme' => (1, readme')

/-- Runs of the script one after another on one README: the exit status of each, and
the README after the last. -/
def runAll (readme : Option (List Char)) : List RunEnv → List Int × Option (List Char)
  | [] => ([], readme)
  | env :: envs =>
      let (status, readme') := main readme env
      let (statuses, readme'') := runAll readme' envs
      (status :: statuses, readme'')

@[simp] theorem runAll_nil (readme : Option (List Char)) : runAll readme [] = ([], readme) := rfl

@[simp] theorem runAll_cons (readme : Option (List Char)) (env : RunEnv) (envs : List RunEnv) :
    runAll readme (env :: envs) =
      ((main readme env).1 :: (runAll (main readme env).2 envs).1, (runAll (main readme env).2 envs).2) :=
  rfl

section Main

variable {env : RunEnv} {file : List Char}

/-- Where `sys.stdout` cannot print the first message, `main` exits with 1 and the README is
untouched. -/
theorem main_of_stdout (readme : Option (List Char)) (hout : env.stdoutUnicode = false) :
    main readme env = (1, readme) := by
  simp [main, print, hout]

/-- A run that finds both markers and can encode what it writes exits with 0, and the README is
the splice, written with `os.linesep`. -/
theorem main_of_updateReadme {newContent : List Char} (hout : env.stdoutUnicode = true)
    (h : updateReadme (readNewlines file) (BenchmarkParser.newSection env).toList = some newContent)
    (henc : (writeNewlines env.crlf newContent).all env.fileEncodes = true) :
    main (some file) env = (0, some (writeNewlines env.crlf newContent)) := by
  have h' : updateReadme (readNewlines file) (BenchmarkParser.newSection env).data = some newContent := h
  simp [main, BenchmarkParser.updateReadme, print, writeText, hout, h', if_pos (List.all_eq_true.mp henc)]

/-- A run that finds both markers but cannot encode what it writes exits with 1, and leaves the
README empty: `open(path, 'w')` truncated it before `write` raised. -/
theorem main_of_unencodable {newContent : List Char} (hout : env.stdoutUnicode = true)
    (h : updateReadme (readNewlines file) (BenchmarkParser.newSection env).toList = some newContent)
    (henc : (writeNewlines env.crlf newContent).all env.fileEncodes = false) :
    main (some file) env = (1, some []) := by
  have h' : updateReadme (readNewlines file) (BenchmarkParser.newSection env).data = some newContent := h
  have hne : ¬ ∀ x ∈ writeNewlines env.crlf newContent, env.fileEncodes x = true :=
    fun hall => by rw [List.all_eq_true.mpr hall] at henc; cases henc
  simp [main, BenchmarkParser.updateReadme, print, writeText, hout, h', if_neg hne]

end Main

section Section

theorem mem_of_lookup_eq_some {d : List (String × String)} {k v : String} (h : d.lookup k = some v) :
    (k, v) ∈ d := by
  induction d with
  | nil => cases h
  | cons p d ih =>
      obtain ⟨k', v'⟩ := p
      rw [lookup_cons_ite] at h
      split_ifs at h with hk
      · cases h; exact hk ▸ .head _
      · exact .tail _ (ih h)

/-- The sample times are written with the characters of formatted times. -/
theorem sampleResults_chars : ∀ T, ∀ p ∈ sampleResults.table T, ∀ c ∈ p.2.toList,
    c ∈ "~.- psnµm".toList ∨ ∃ d < 10, Nat.digitChar d = c := by
  intro T; cases T <;> decide

/-- The tables a run reads, from the Criterion results or the sample, hold times only. -/
theorem not_mem_parseCriterionResults_table {x : Char} (hx : ∀ d < 10, Nat.digitChar d ≠ x)
    (hx' : x ∉ "~.- psnµm".toList) (criterion : Option (List BenchDir)) {T : Table} {k v : String}
    (h : ((parseCriterionResults criterion).table T).lookup k = some v) : x ∉ v.toList := by
  rcases criterion with _ | entries
  · intro hv
    rcases sampleResults_chars T _ (mem_of_lookup_eq_some h) x hv with h' | ⟨d, hd, he⟩
    · exact hx' h'
    · exact hx d hd he
  · exact not_mem_parseCriterionResults hx hx' h

theorem newSection_tame {env : RunEnv} (he : env.Plain) : Tame (BenchmarkParser.newSection env).toList :=
  generateBenchmarkSection_tame (fun _ _ _ => not_mem_parseCriterionResults_table (by decide) (by decide) _)
    he.date.1 he.platform.1 he.arch.1 (not_mem_rustVersion (by decide) _ _ _ fun out h => (he.rustc out h).1)

theorem cr_not_mem_newSection {env : RunEnv} (he : env.Plain) : '\r' ∉ (BenchmarkParser.newSection env).toList :=
  cr_not_mem_generateBenchmarkSection (fun _ _ _ => not_mem_parseCriterionResults_table (by decide) (by decide) _)
    he.date.2 he.platform.2 he.arch.2 (not_mem_rustVersion (by decide) _ _ _ fun out h => (he.rustc out h).2)

/-- The section reads the tables only through their lookups, as `dict.get` does. -/
theorem generateBenchmarkSection_congr {r r' : BenchResults}
    (h : ∀ T k, (r.table T).lookup k = (r'.table T).lookup k) (systemInfo : SystemInfo) :
    generateBenchmarkSection r systemInfo = generateBenchmarkSection r' systemInfo := by
  have hconfig : ∀ k, r.config.lookup k = r'.config.lookup k := h .config
  have hclient : ∀ k, r.client.lookup k = r'.client.lookup k := h .client
  have hffi : ∀ k, r.ffi.lookup k = r'.ffi.lookup k := h .ffi
  simp only [generateBenchmarkSection, dictGet, hconfig, hclient, hffi]

end Section

/-- Under encodings that cover all of Unicode, a run that finds both markers exits with 0. -/
theorem main_of_unicode {env : RunEnv} {file newContent : List Char} (he : env.Unicode)
    (h : updateReadme (readNewlines file) (BenchmarkParser.newSection env).toList = some newContent) :
    main (some file) env = (0, some (writeNewlines env.crlf newContent)) :=
  main_of_updateReadme he.stdout h (List.all_eq_true.mpr fun x _ => he.file x)

section Splice

variable {c : List Char} {i j : Nat} (hi : find startMarker c = some i)
  (hj : find endMarker c = some j) (hij : i < j)
include hi hj hij

/-- Splicing into a spliced README splices into the original. -/
theorem updateReadme_spliceAt_section {S : List Char} (hS : ¬ endMarker <:+: S) (S' : List Char) :
    updateReadme (spliceAt c S i j) S' = some (spliceAt c S' i j) := by
  rw [updateReadme_eq_spliceAt (find_startMarker_spliceAt S j hi) (find_endMarker_spliceAt hi hj hij hS)]
  have ht : (spliceAt c S i j).take (i + startMarker.length) = c.take (i + startMarker.length) := by
    simp only [spliceAt, List.append_assoc]; exact List.take_left' (length_take_start hi)
  conv_lhs => rw [spliceAt, ht, drop_spliceAt S j hi]
  rfl

omit hi hj hij in
theorem cr_not_mem_spliceAt (hc : '\r' ∉ c) {S : List Char} (hS : '\r' ∉ S) : '\r' ∉ spliceAt c S i j := by
  simp only [spliceAt, List.mem_append, List.mem_cons, not_or]
  exact ⟨⟨fun h => hc (List.mem_of_mem_take h), by decide, hS⟩, by decide, fun h => hc (List.mem_of_mem_drop h)⟩

/-- After a first run, each run under encodings that cover all of Unicode exits with 0 and
leaves its own section between the markers, written with its own line separator. -/
theorem runAll_spliceAt (hc : '\r' ∉ c) {S : List Char} (hS : Tame S) (hSr : '\r' ∉ S) (crlf : Bool)
    (envs : List RunEnv) (env : RunEnv) (hplain : ∀ e ∈ envs, e.Plain) (hutf : ∀ e ∈ envs ++ [env], e.Unicode) :
    runAll (some (writeNewlines crlf (spliceAt c S i j))) (envs ++ [env]) =
      ((envs ++ [env]).map fun _ => 0,
        some (writeNewlines env.crlf (spliceAt c (BenchmarkParser.newSection env).toList i j))) := by
  have hstep : ∀ {crlf : Bool} {S : List Char}, Tame S → '\r' ∉ S → ∀ e : RunEnv, e.Unicode →
      main (some (writeNewlines crlf (spliceAt c S i j))) e =
        (0, some (writeNewlines e.crlf (spliceAt c (BenchmarkParser.newSection e).toList i j))) :=
    fun hS hSr e he => main_of_unicode he (by
      rw [readNewlines_writeNewlines _ (cr_not_mem_spliceAt hc hSr)]
      exact updateReadme_spliceAt_section hi hj hij hS.no_marker.2 _)
  induction envs generalizing S crlf with
  | nil => simp [hstep hS hSr env (hutf env (by simp))]
  | cons e envs ih =>
      have he := hplain e (.head _)
      rw [List.cons_append, runAll_cons, hstep hS hSr e (hutf e (.head _)),
        ih (newSection_tame he) (cr_not_mem_newSection he) _ (fun e' he' => hplain e' (.tail _ he'))
          fun e' he' => hutf e' (.tail _ he')]
      simp

end Splice

/-- A run on a Linux host under a UTF-8 locale, with no Criterion results. -/
def linuxRun (rustcOutput : Option String) : RunEnv :=
  ⟨none, "2026-11-09", "Linux", "x86_64", rustcOutput, fun _ => true, true, false⟩

/-- A run on a Windows host whose locale encodes the characters `fileEncodes` accepts, with a
console that prints all of Unicode and no Criterion results. -/
def windowsRun (fileEncodes : Char → Bool) : RunEnv :=
  ⟨none, "2026-11-09", "Windows", "AMD64", some "rustc 1.75.0", fileEncodes, true, true⟩

/-- The characters Windows code page 1252 encodes: ASCII, the Latin-1 range from U+00A0, and
the 27 characters it places at 0x80 to 0x9F. -/
def cp1252Encodes (c : Char) : Bool :=
  c.toNat < 0x80 || (0xA0 ≤ c.toNat && c.toNat ≤ 0xFF) ||
    [0x20AC, 0x201A, 0x0192, 0x201E, 0x2026, 0x2020, 0x2021, 0x02C6, 0x2030, 0x0160, 0x2039, 0x0152,
      0x017D, 0x2018, 0x2019, 0x201C, 0x201D, 0x2022, 0x2013, 0x2014, 0x02DC, 0x2122, 0x0161, 0x203A,
      0x0153, 0x017E, 0x0178].contains c.toNat

/-- Listing the same benchmark directories in another order, no two of which fill the
same row, changes neither the exit status of a run nor the README it writes. -/
theorem main_listing_perm (readme : Option (List Char)) (env : RunEnv) {l l' : List BenchDir}
    (hl : env.criterion = some l) (hp : l.Perm l') (hrows : (l.filterMap entrySlot).Nodup) :
    main readme env = main readme { env with criterion := some l' } := by
  have hsection : BenchmarkParser.newSection env = BenchmarkParser.newSection { env with criterion := some l' } := by
    simp only [BenchmarkParser.newSection, hl]
    exact generateBenchmarkSection_congr (parseCriterionResults_perm hp hrows) _
  simp only [main, BenchmarkParser.updateReadme, print, writeText, hsection, hl, Option.isNone_some]

theorem main_listing_swapped :
    main (some (startMarker ++ endMarker))
        ⟨some [⟨"config_parse_basic", true, some 13000⟩, ⟨"client_create", true, some 297⟩],
          "2026-11-09", "Linux", "x86_64", none, fun _ => true, true, false⟩ =
      main (some (startMarker ++ endMarker))
        ⟨some [⟨"client_create", true, some 297⟩, ⟨"config_parse_basic", true, some 13000⟩],
          "2026-11-09", "Linux", "x86_64", none, fun _ => true, true, false⟩ :=
  main_listing_perm _ _ rfl (.swap _ _ _) (by decide)

/-- The sample results are the template's defaults. -/
theorem generateBenchmarkSection_sampleResults (systemInfo : SystemInfo) :
    generateBenchmarkSection sampleResults systemInfo = generateBenchmarkSection ⟨[], [], []⟩ systemInfo :=
  rfl

/-- With `target/criterion` present but no directory in it giving a time, a run exits and
writes as it does when `target/criterion` is missing. -/
theorem main_without_times (readme : Option (List Char)) (env : RunEnv) {l : List BenchDir}
    (hl : env.criterion = some l) (hnone : l.filterMap entrySlot = []) :
    main readme env = main readme { env with criterion := none } := by
  have hempty : ∀ T k, ((parseCriterionResults (some l)).table T).lookup k =
      ((⟨[], [], []⟩ : BenchResults).table T).lookup k := fun T k => by
    have hfilter : l.filter (entrySlot · = some ⟨T, k⟩) = [] :=
      List.filter_eq_nil_iff.mpr fun d hd => by simp [List.filterMap_eq_nil_iff.mp hnone d hd]
    rw [parseCriterionResults_lookup, hfilter]
    cases T <;> rfl
  have hsection : BenchmarkParser.newSection env = BenchmarkParser.newSection { env with criterion := none } := by
    simp only [BenchmarkParser.newSection, hl]
    exact (generateBenchmarkSection_congr hempty _).trans (generateBenchmarkSection_sampleResults _).symm
  -- only the warning about the missing results differs, and it prints wherever the first message did
  cases hu : env.stdoutUnicode
  · rw [main_of_stdout readme hu]
    exact (main_of_stdout readme rfl).symm
  · simp only [main, BenchmarkParser.updateReadme, print, writeText, hsection, hl, hu, Option.isNone_some,
      Option.isNone_none, if_true, ite_self]

theorem main_without_times_report :
    main (some (startMarker ++ endMarker))
        ⟨some [⟨"report", true, some 5⟩, ⟨"config_parse_basic", false, some 13000⟩], "2026-11-09", "Linux",
          "x86_64", none, fun _ => true, true, false⟩ =
      main (some (startMarker ++ endMarker)) ⟨none, "2026-11-09", "Linux", "x86_64", none, fun _ => true, true, false⟩ :=
  main_without_times _ _ rfl (by decide)

end RvpnseTools.Readme
