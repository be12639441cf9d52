import RvpnseTools.Build.Package

/-!
# The build loop and the command-line entry point

`build` installs the toolchains, clears `dist/`, validates the whole batch,
then builds each requested name in order. A desktop target is packaged as soon
as it succeeds; successful Android and iOS targets are collected and bundled
once, after the loop. `main` picks the names from the command line and turns
the result mapping into the exit status.

## Implementation notes

The result dictionary is a list of pairs in insertion order; assigning an
existing key keeps its place, as a Python `dict` does. The loop carries the
dictionary and the two bundle lists in one record. Command-line parsing by
`argparse` is taken as done: `Args` holds its result.
-/

namespace RvpnseTools.Build

/-- The locals the loop of `build` updates. -/
structure LoopState where
  results : List (String × Bool)
  androidTargets : List Target
  iosTargets : List Target

namespace RVPNSEBuilder

variable (h : Host) (b : RVPNSEBuilder)

/-- The `cargo` command of `_build_target`. -/
def cargoBuild (t : Target) : Cmd :=
  [.text "cargo", .text "build", .text "--target", .text t.rustTarget] ++
    if b.mode = .release then [.text "--release"] else []

/-- `cargo build --target T` writes below `target/T`. -/
theorem outputArea_cargoBuild (t : Target) :
    b.outputArea (b.cargoBuild t) = some (b.buildDir ++ [t.rustTarget]) := by
  unfold cargoBuild
  split <;> rfl

/-- `_build_target`: remove the triple's stale output, set up the environment,
run `cargo`, and trust only a library that exists afterwards. -/
def buildTarget (t : Target) : Py Bool := do
  Py.removeIfExists (b.buildDir ++ [t.rustTarget])
  if t.platform = .android ∧ b.androidNdkRoot.isNone then return false
  let env ← if t.platform = .android then setupAndroidEnvironment h b t else pure h.environ
  let success ← runCommand h b (cargoBuild b t) (some env)
  if success then Py.pathExists (b.libPath t (getLibraryName t)) else return false

/-- What a target's build did: remove `target/<triple>`, then either skip an Android
target without an NDK, or run `cargo` once with the target's environment and
report whether it exited with 0 and left the library. -/
theorem buildTarget_eq_ok {t : Target} {success : Bool} {w w' : World}
    (hb : buildTarget h b t w = .ok success w') :
    (w.fs.get (b.buildDir ++ [t.rustTarget]) = none ∨
      w.fs.get (b.buildDir ++ [t.rustTarget]) = some .dir) ∧
    ((t.platform = .android ∧ b.androidNdkRoot = none ∧ success = false ∧
        w' = { w with fs := w.fs.erase (b.buildDir ++ [t.rustTarget]) }) ∨
      ∃ env, (if t.platform = .android then
          setupAndroidEnvironment h b t { w with fs := w.fs.erase (b.buildDir ++ [t.rustTarget]) } =
            .ok env { w with fs := w.fs.erase (b.buildDir ++ [t.rustTarget]) }
          else env = h.environ) ∧
        w' = ⟨(w.fs.erase (b.buildDir ++ [t.rustTarget])).putFiles (b.buildDir ++ [t.rustTarget])
            (h.run w.calls (b.cargoBuild t, env)).writes, w.calls ++ [(b.cargoBuild t, env)]⟩ ∧
        success = ((h.run w.calls (b.cargoBuild t, env)).returncode == 0 &&
          w'.fs.pathExists (b.libPath t (getLibraryName t)))) := by
  unfold buildTarget at hb
  obtain ⟨_, w₁, hr, hb⟩ := (Py.bind_eq_ok _).mp hb
  obtain ⟨hnf, rfl⟩ := (Py.removeIfExists_eq_ok _ _).mp hr
  refine ⟨hnf, ?_⟩
  have hcargo : ∀ env, (runCommand h b (b.cargoBuild t) (some env) >>= fun success =>
      if success = true then Py.pathExists (b.libPath t (getLibraryName t)) else pure false)
        { w with fs := w.fs.erase (b.buildDir ++ [t.rustTarget]) } = .ok success w' →
      w' = ⟨(w.fs.erase (b.buildDir ++ [t.rustTarget])).putFiles (b.buildDir ++ [t.rustTarget])
          (h.run w.calls (b.cargoBuild t, env)).writes, w.calls ++ [(b.cargoBuild t, env)]⟩ ∧
        success = ((h.run w.calls (b.cargoBuild t, env)).returncode == 0 &&
          w'.fs.pathExists (b.libPath t (getLibraryName t))) := fun env hrun => by
    obtain ⟨ok, w₃, hrun, hb⟩ := (Py.bind_eq_ok _).mp hrun
    rw [runCommand_apply, outputArea_cargoBuild] at hrun
    cases hrun
    split at hb <;> rename_i hok <;> cases hb <;> simp_all
  split at hb
  · rename_i hnd
    cases hb
    exact .inl ⟨hnd.1, by simpa using hnd.2, rfl, rfl⟩
  · obtain ⟨_, w₂, hp, hb⟩ := (Py.bind_eq_ok _).mp hb
    cases hp
    split at hb <;> rename_i handroid <;> obtain ⟨env, w₂, hs, hb⟩ := (Py.bind_eq_ok _).mp hb
    · have hw₂ : w₂ = { w with fs := w.fs.erase (b.buildDir ++ [t.rustTarget]) } := by
        rw [setupAndroidEnvironment_apply] at hs
        split at hs
        · cases hs
        · split at hs
          · split at hs <;> cases hs; rfl
          · cases hs
      subst hw₂
      exact .inr ⟨env, by simpa [handroid] using hs, hcargo env hb⟩
    · cases hs
      exact .inr ⟨h.environ, by simp [handroid], hcargo _ hb⟩

/-- One iteration of the loop of `build`. -/
def buildStep (s : LoopState) (name : String) : Py LoopState := do
  let some t := lookupTarget name | throw (.keyError name)
  let success ← buildTarget h b t
  let results := dictSet s.results name success
  if !success then return { s with results }
  if t.platform = .android then return { s with results, androidTargets := s.androidTargets ++ [t] }
  if t.platform = .ios then return { s with results, iosTargets := s.iosTargets ++ [t] }
  let _ ← packageTarget b t
  return { s with results }

/-- What one iteration of the loop did: look the name up, build the target, package it
when it is a desktop target that succeeded, and record the result. -/
theorem buildStep_eq_ok {s s' : LoopState} {name : String} {w w' : World}
    (hs : buildStep h b s name w = .ok s' w') :
    ∃ t success w₁, lookupTarget name = some t ∧ buildTarget h b t w = .ok success w₁ ∧
      (if success ∧ t.isDesktop then ∃ r, packageTarget b t w₁ = .ok r w' else w₁ = w') ∧
      s' = ⟨dictSet s.results name success,
        s.androidTargets ++ (if success ∧ t.platform = .android then [t] else []),
        s.iosTargets ++ (if success ∧ t.platform = .ios then [t] else [])⟩ := by
  unfold buildStep at hs
  cases ht : lookupTarget name with
  | none => simp [ht] at hs
  | some t =>
    simp only [ht, Py.bind_apply] at hs
    split at hs
    · rename_i success w₁ hb
      refine ⟨t, success, w₁, rfl, hb, ?_⟩
      cases success <;> cases hp : t.platform <;> simp_all [Target.isDesktop] <;>
        (split at hs <;> simp_all)
    · cases hs

/-- The two bundle steps after the loop of `build`. -/
def packageBundles (s : LoopState) : Py Unit := do
  if !s.androidTargets.isEmpty then
    let _ ← packageAndroidBundle b s.androidTargets
  if !s.iosTargets.isEmpty then
    let _ ← packageIosBundle h b s.iosTargets

/-- `build`: the per-target result mapping, empty on a configuration error. -/
def build (targetNames : List String) : Py (List (String × Bool)) := do
  if !(← setupRustEnvironment h b) then return []
  Py.removeIfExists b.outputDir
  Py.onFS (·.mkdir b.outputDir true false)
  if targetNames.any (!isTarget ·) then return []
  let s ← targetNames.foldlM (buildStep h b) ⟨[], [], []⟩
  packageBundles h b s
  return s.results

/-- Without `cargo`, `build` returns the empty mapping and changes nothing. -/
theorem build_of_not_which (hc : h.which "cargo" = false) (targetNames : List String) (w : World) :
    build h b targetNames w = .ok [] w := by
  simp [build, setupRustEnvironment_apply, hc]

/-- Once `dist/` is removed, below a project directory, `mkdir` recreates it alone. -/
theorem mkdir_outputDir (fs : FS) (hroot : fs.get b.projectRoot = some .dir) :
    ∃ hf, (fs.erase b.outputDir).mkdir b.outputDir true false =
      .ok ((fs.erase b.outputDir).mkdirs b.outputDir hf) := by
  have hn : (fs.erase b.outputDir).get b.outputDir = none := by simp
  have hd : (fs.erase b.outputDir).get b.projectRoot = some .dir := by
    simpa [outputDir, hroot] using not_prefix_of_length_lt (by simp)
  exact ⟨_, FS.mkdir_parents_of_get_none _ hn (FS.prefixesFree_append_singleton _ hd hn)⟩

/-- With `cargo` found and `dist/` not a file, a batch holding a name outside the
registry returns the empty mapping after the toolchain set-up and the reset of
`dist/`. -/
theorem build_of_invalid (hc : h.which "cargo" = true) (targetNames : List String) (w : World)
    (hroot : w.fs.get b.projectRoot = some .dir)
    (hdist : w.fs.get b.outputDir = none ∨ w.fs.get b.outputDir = some .dir)
    (hinvalid : targetNames.any (!isTarget ·) = true) :
    ∃ fs, build h b targetNames w = .ok [] ⟨fs, w.calls ++ rustupCalls h⟩ := by
  obtain ⟨hf, hmk⟩ := mkdir_outputDir b w.fs hroot
  exact ⟨(w.fs.erase b.outputDir).mkdirs b.outputDir hf, by simp [build, setupRustEnvironment_apply, hc, Py.removeIfExists_of_not_file ⟨w.fs, w.calls ++ rustupCalls h⟩ hdist,
    hmk, hinvalid]⟩

/-- A run of `build` on valid names with `cargo` found: the set-up, the reset of
`dist/`, the loop from the empty state, and the bundles. -/
theorem build_eq_ok {targetNames : List String} {w w' : World} {results : List (String × Bool)}
    (hc : h.which "cargo" = true) (hvalid : ∀ n ∈ targetNames, isTarget n = true)
    (hb : build h b targetNames w = .ok results w') :
    ∃ fs₀ s w₁, (w.fs.get b.outputDir = none ∨ w.fs.get b.outputDir = some .dir) ∧
      (w.fs.erase b.outputDir).mkdir b.outputDir true false = .ok fs₀ ∧
      targetNames.foldlM (buildStep h b) ⟨[], [], []⟩ ⟨fs₀, w.calls ++ rustupCalls h⟩ = .ok s w₁ ∧
      packageBundles h b s w₁ = .ok () w' ∧ results = s.results := by
  have hall : (targetNames.any fun n => !isTarget n) = false := by simpa using hvalid
  simp only [build, Py.bind_apply, Py.pure_apply, setupRustEnvironment_apply, hc, if_true,
    Bool.not_true, Bool.false_eq_true, if_false, hall] at hb
  split at hb
  · rename_i w₁ hr
    obtain ⟨hdist, rfl⟩ := (Py.removeIfExists_eq_ok _ _).mp hr
    split at hb <;> rename_i hmk
    · obtain ⟨fs₀, hmkdir, rfl⟩ := (Py.onFS_eq_ok _ _).mp hmk
      split at hb <;> rename_i s w₂ hloop
      · split at hb <;> rename_i w₃ hbundles
        · cases hb
          exact ⟨fs₀, s, w₂, hdist, hmkdir, hloop, hbundles, rfl⟩
        · cases hb
      · cases hb
    · cases hb
  · cases hb

/-- `clean`: remove `target/` and `dist/`. -/
def clean : Py Unit := do
  Py.removeIfExists b.buildDir
  Py.removeIfExists b.outputDir

end RVPNSEBuilder

/-- The parsed command line. -/
structure Args where
  mode : BuildMode
  targets : Option (List String)
  list : Bool
  clean : Bool
  allDesktop : Bool
  allAndroid : Bool
  allIos : Bool
  all : Bool

/-- The names of the registry whose entry satisfies `p`, in registry order. -/
def namesWhere (p : Target → Bool) : List String := (targets.filter (p ·.2)).map (·.1)

/-- The target selection of `main`: the first flag that is set, else the
names given, else the host's own desktop target. -/
def selectTargets (h : Host) (args : Args) : List String :=
  if args.all then targets.map (·.1)
  else if args.allDesktop then namesWhere Target.isDesktop
  else if args.allAndroid then namesWhere (·.platform = .android)
  else if args.allIos then namesWhere (·.platform = .ios)
  else match args.targets with
    | some (n :: ns) => n :: ns
    | _ =>
        let currentSystem := lower h.system
        if currentSystem = "darwin" then
          if h.machine = "arm64" then ["macos-arm64"] else ["macos-x64"]
        else if currentSystem = "linux" then ["linux-x64"]
        else if currentSystem = "windows" then ["windows-x64"]
        else []

/-- The exit status `main` computes from the result mapping. -/
def exitStatus (results : List (String × Bool)) : Int :=
  if (results.filter (·.2)).length = results.length then 0 else 1

/-- `main`: `none` where it returns without a value (`--list`, `--clean`). -/
def main (h : Host) (projectRoot : Path) (args : Args) : Py (Option Int) := do
  let builder ← MonadExcept.ofExcept (RVPNSEBuilder.init h projectRoot args.mode (← get).fs)
  if args.list then return none
  if args.clean then builder.clean; return none
  let targetsToBuild := selectTargets h args
  if targetsToBuild.isEmpty then return some 1
  let results ← builder.build h targetsToBuild
  return some (exitStatus results)

end RvpnseTools.Build
