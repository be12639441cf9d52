import RvpnseTools.Build.Targets
import RvpnseTools.Build.FileSystem
import RvpnseTools.Python

/-!
# The host: environment, external processes, and the builder's set-up

Everything the builder asks of the machine it runs on is a field of `Host`:
the `PATH` lookup, the OS name, the environment, the home directory, and the
behaviour of every subprocess. A subprocess answers with an exit status and
the files it writes, as a function of the command line, the environment it
receives and every call made before it, so that any sequence of outcomes of
`rustup`, `cargo` and `lipo` is one host.

## Implementation notes

A tool writes only where it is documented to: `cargo build --target T` below
`target/T`, and `lipo -create -output o` at `o`. Arguments rendered from a
path by `str(p)` keep the path. An environment-variable path is resolved
against the working directory at once; `Path(s)` keeps it relative, which only
changes the text handed to the tools. `Path(s)` drops empty and `.` components,
as pathlib does, and keeps `..`, which the system resolves when the path is
used (`FS.resolve`): a `..` steps up from a directory that exists and fails
below anything else. The builder keeps the NDK root as the directory it
resolves to.
-/

namespace RvpnseTools.Build

/-- An environment: variable names and values. A dictionary update puts the new
pairs in front, where `lookup` sees them first. -/
abbrev Env := List (String × String)

/-- A command-line argument: literal text, or `str(p)` of a path. -/
inductive Arg where
  | text (s : String)
  | path (p : Path)
  deriving DecidableEq, Repr

/-- A command line. -/
abbrev Cmd := List Arg

/-- One `subprocess.run`: the command and the environment it was given. -/
abbrev Call := Cmd × Env

/-- What a finished process reports and the files it writes, by path relative to
the directory it writes into. -/
structure Proc where
  returncode : Int
  writes : List (Path × String)

/-- The machine the builder runs on. -/
structure Host where
  /-- `shutil.which(name) is not None`. -/
  which : String → Bool
  /-- `platform.system()`. -/
  system : String
  /-- `platform.machine()`. -/
  machine : String
  /-- `os.environ`. -/
  environ : Env
  /-- `Path.home()`. -/
  home : Path
  /-- The working directory, against which relative paths resolve. -/
  cwd : Path
  /-- The outcome of a process, given the calls made before it. -/
  run : List Call → Call → Proc

/-- The state a run of the builder changes: the file system and the calls made so far. -/
structure World where
  fs : FS
  calls : List Call

/-- Python code of the builder: it changes the world and may raise, and what it did
before raising stays done. -/
abbrev Py := EStateM Exc World

namespace Py

/-- Apply a file-system operation to the world. -/
def onFS (f : FS → Except Exc FS) : Py Unit := fun w =>
  match f w.fs with
  | .ok fs => .ok () { w with fs }
  | .error e => .error e w

/-- `p.exists()`. -/
def pathExists (p : Path) : Py Bool := fun w => .ok (w.fs.pathExists p) w

/-- `if p.exists(): shutil.rmtree(p)`. -/
def removeIfExists (p : Path) : Py Unit := do
  if ← pathExists p then onFS (·.rmtree p)

variable {α β : Type} (w : World)

@[simp] theorem bind_apply (x : Py α) (f : α → Py β) :
    (x >>= f) w = match x w with
      | .ok a w' => f a w'
      | .error e w' => .error e w' := by
  show EStateM.bind x f w = _
  unfold EStateM.bind
  cases x w <;> rfl

@[simp] theorem map_apply (f : α → β) (x : Py α) :
    (f <$> x) w = match x w with
      | .ok a w' => .ok (f a) w'
      | .error e w' => .error e w' := by
  show EStateM.map f x w = _
  unfold EStateM.map
  cases x w <;> rfl

@[simp] theorem pure_apply (a : α) : (pure a : Py α) w = .ok a w := rfl

@[simp] theorem get_apply : (get : Py World) w = .ok w w := rfl

@[simp] theorem throw_apply (e : Exc) : (throw e : Py α) w = .error e w := rfl

@[simp] theorem ofExcept_apply (x : Except Exc α) :
    (MonadExcept.ofExcept x : Py α) w = match x with
      | .ok a => .ok a w
      | .error e => .error e w := by
  cases x <;> rfl

@[simp] theorem pathExists_apply (p : Path) :
    pathExists p w = .ok (w.fs.pathExists p) w := rfl

@[simp] theorem onFS_apply (f : FS → Except Exc FS) :
    onFS f w = match f w.fs with
      | .ok fs => .ok () { w with fs }
      | .error e => .error e w := rfl

theorem onFS_eq_ok (f : FS → Except Exc FS) {w' : World} :
    onFS f w = .ok () w' ↔ ∃ fs, f w.fs = .ok fs ∧ { w with fs } = w' := by
  unfold onFS
  split <;> simp_all

/-- `if p.exists(): shutil.rmtree(p)` returns exactly when `p` is not a file, and then
nothing is left at or below `p`. -/
theorem removeIfExists_eq_ok (p : Path) {w' : World} :
    removeIfExists p w = .ok () w' ↔
      (w.fs.get p = none ∨ w.fs.get p = some .dir) ∧ { w with fs := w.fs.erase p } = w' := by
  unfold removeIfExists
  cases hp : w.fs.get p with
  | none => simp [FS.pathExists, hp, FS.erase_of_get_none _ hp]
  | some e =>
    simp only [bind_apply, pathExists_apply, FS.pathExists, hp, Option.isSome_some, ite_true,
      onFS_apply, FS.rmtree]
    cases e <;> simp [eq_comm]

theorem removeIfExists_of_not_file {p : Path} (hp : w.fs.get p = none ∨ w.fs.get p = some .dir) :
    removeIfExists p w = .ok () { w with fs := w.fs.erase p } :=
  (removeIfExists_eq_ok w p).mpr ⟨hp, rfl⟩

/-- The exception a run raised, `none` where it returned normally. -/
def raised {α : Type} : EStateM.Result Exc World α → Option Exc
  | .ok _ _ => none
  | .error e _ => some e

/-- The world a run leaves, whether it returned or raised. -/
def after {α : Type} : EStateM.Result Exc World α → World
  | .ok _ w => w
  | .error _ w => w

/-- A computation that starts no process. -/
def KeepsCalls (x : Py α) : Prop := ∀ w, (after (x w)).calls = w.calls

theorem KeepsCalls.bind {x : Py α} {f : α → Py β} (hx : KeepsCalls x) (hf : ∀ a, KeepsCalls (f a)) :
    KeepsCalls (x >>= f) := fun w => by
  have hw := hx w
  rw [bind_apply]
  split <;> rename_i heq <;> rw [heq] at hw
  · exact (hf _ _).trans hw
  · exact hw

theorem keepsCalls_pure (a : α) : KeepsCalls (pure a : Py α) := fun _ => rfl

theorem KeepsCalls.map {x : Py α} (f : α → β) (hx : KeepsCalls x) : KeepsCalls (f <$> x) := fun w => by
  have hw := hx w
  rw [map_apply]
  split <;> rename_i heq <;> rw [heq] at hw <;> exact hw

theorem keepsCalls_onFS (f : FS → Except Exc FS) : KeepsCalls (onFS f) := fun w => by
  unfold onFS
  split <;> rfl

theorem keepsCalls_pathExists (p : Path) : KeepsCalls (pathExists p) := fun _ => rfl

theorem KeepsCalls.ite {c : Prop} [Decidable c] {x y : Py α} (hx : KeepsCalls x) (hy : KeepsCalls y) :
    KeepsCalls (if c then x else y) := by
  split <;> assumption

theorem KeepsCalls.forM {γ : Type} {f : γ → Py PUnit} (hf : ∀ a, KeepsCalls (f a)) (l : List γ) :
    KeepsCalls (l.forM f) := by
  induction l with
  | nil => exact keepsCalls_pure _
  | cons a l ih => exact (hf a).bind fun _ => ih

/-- A computation that returned normally took each of its steps normally. -/
theorem bind_eq_ok {x : Py α} {f : α → Py β} {b : β} {w' : World} :
    (x >>= f) w = .ok b w' ↔ ∃ a w₁, x w = .ok a w₁ ∧ f a w₁ = .ok b w' := by
  rw [bind_apply]
  rcases x w with ⟨a, w₁⟩ | ⟨e, w₁⟩ <;> simp [and_assoc]

end Py

/-- `str(p)` of an absolute path. -/
def Path.str (p : Path) : String := "/" ++ "/".intercalate p

/-- `Path(s)` for a string from the environment: its components without the empty and `.`
ones, below `cwd` when `s` is relative. -/
def Path.ofString (cwd : Path) (s : String) : Path :=
  let parts := ((s.toList.splitOn '/').map String.mk).filter fun c => c ≠ "" ∧ c ≠ "."
  if s.toList.head? = some '/' then parts else cwd ++ parts

/-- How the system resolves the components of a path from the directory `dir`: a `..` steps
up from a directory that exists, and fails anywhere else. -/
def FS.resolve (fs : FS) (dir : Path) : Path → Option Path
  | [] => some dir
  | c :: cs =>
      if c = ".." then (if fs.isDir dir then fs.resolve dir.dropLast cs else none)
      else fs.resolve (dir ++ [c]) cs

/-- `rVPNSEBuilder`: its fields once `__init__` has run. -/
structure RVPNSEBuilder where
  projectRoot : Path
  mode : BuildMode
  androidNdkRoot : Option Path

namespace RVPNSEBuilder

/-- `self.build_dir`. -/
def buildDir (b : RVPNSEBuilder) : Path := b.projectRoot ++ ["target"]

/-- `self.output_dir`. -/
def outputDir (b : RVPNSEBuilder) : Path := b.projectRoot ++ ["dist"]

/-- The conventional NDK locations `_find_android_ndk` tries, in order. -/
def possiblePaths (h : Host) : List Path :=
  [h.home ++ ["Android", "Sdk", "ndk", "25.2.9519653"],
   h.home ++ ["Library", "Android", "sdk", "ndk", "25.2.9519653"],
   ["usr", "local", "android-ndk-r25c"],
   ["opt", "android-ndk-r25c"]]

/-- The first block of `_find_android_ndk`: `ANDROID_NDK_ROOT`, when it is set and names a path
that exists. -/
def ndkFromEnv (h : Host) (fs : FS) : Option Path :=
  match h.environ.lookup "ANDROID_NDK_ROOT" with
  | some r => if r ≠ "" then (fs.resolve [] (Path.ofString h.cwd r)).filter fs.pathExists else none
  | none => none

/-- The test of the second block of `_find_android_ndk`: the location exists and holds
`toolchains/llvm/prebuilt`. -/
def ndkCandidate (fs : FS) (p : Path) : Bool :=
  fs.pathExists p && fs.pathExists (p ++ ["toolchains", "llvm", "prebuilt"])

/-- `_find_android_ndk`: `ANDROID_NDK_ROOT` if it exists, else the first conventional
location that holds `toolchains/llvm/prebuilt`. -/
def findAndroidNdk (h : Host) (fs : FS) : Option Path :=
  (ndkFromEnv h fs).or ((possiblePaths h).find? (ndkCandidate fs))

/-- `rVPNSEBuilder.__init__`: find the NDK, then insist on `Cargo.toml`. -/
def init (h : Host) (projectRoot : Path) (mode : BuildMode) (fs : FS) :
    Except Exc RVPNSEBuilder :=
  if fs.pathExists (projectRoot ++ ["Cargo.toml"]) then
    .ok { projectRoot, mode, androidNdkRoot := findAndroidNdk h fs }
  else .error (.runtimeError ("Cargo.toml not found in " ++ projectRoot.str))

/-- Where a tool writes: `cargo build --target T` below `target/T`, and
`lipo -create -output o` at `o`. -/
def outputArea (b : RVPNSEBuilder) : Cmd → Option Path
  | .text "cargo" :: .text "build" :: .text "--target" :: .text t :: _ => some (b.buildDir ++ [t])
  | .text "lipo" :: .text "-create" :: .text "-output" :: .path o :: _ => some o
  | _ => none

variable (h : Host) (b : RVPNSEBuilder)

/-- `_run_command(cmd, env=env)`: run the process, record the call, and report
whether it exited with status 0. -/
def runCommand (cmd : Cmd) (env : Option Env) : Py Bool := fun w =>
  let call : Call := (cmd, env.getD h.environ)
  let p := h.run w.calls call
  let fs := match b.outputArea cmd with
    | some a => w.fs.putFiles a p.writes
    | none => w.fs
  .ok (p.returncode == 0) { fs, calls := w.calls ++ [call] }

/-- The `rustup` command that installs one triple. -/
def rustupAdd (rustTarget : String) : Cmd :=
  [.text "rustup", .text "target", .text "add", .text rustTarget]

/-- `_setup_rust_environment`: fail without `cargo`; otherwise install every
registry triple, ignoring failures. -/
def setupRustEnvironment : Py Bool := do
  if !h.which "cargo" then return false
  (targets.map (·.2.rustTarget)).forM fun rt => do
    let _ ← runCommand h b (rustupAdd rt) none
  return true

@[simp] theorem runCommand_apply (cmd : Cmd) (env : Option Env) (w : World) :
    runCommand h b cmd env w =
      .ok ((h.run w.calls (cmd, env.getD h.environ)).returncode == 0)
        { fs := match b.outputArea cmd with
            | some a => w.fs.putFiles a (h.run w.calls (cmd, env.getD h.environ)).writes
            | none => w.fs,
          calls := w.calls ++ [(cmd, env.getD h.environ)] } := rfl

/-- The calls `_setup_rust_environment` makes when `cargo` is found. -/
def rustupCalls : List Call := targets.map fun p => (rustupAdd p.2.rustTarget, h.environ)

/-- A loop whose every iteration only records one call records them all. -/
theorem forM_calls {γ : Type} (l : List γ) (f : γ → Py Unit) (c : γ → Call)
    (hf : ∀ x w, f x w = .ok () { w with calls := w.calls ++ [c x] }) (w : World) :
    l.forM f w = .ok () { w with calls := w.calls ++ l.map c } := by
  induction l generalizing w with
  | nil => simp [List.forM_nil]
  | cons x l ih => simp [List.forM_cons, hf, ih]

/-- `_setup_rust_environment` reports whether `cargo` is found, and otherwise only
records its `rustup` calls. -/
theorem setupRustEnvironment_apply (w : World) :
    setupRustEnvironment h b w =
      if h.which "cargo" then .ok true { w with calls := w.calls ++ rustupCalls h } else .ok false w := by
  unfold setupRustEnvironment
  cases hc : h.which "cargo"
  · simp [hc]
  · simp [hc, rustupCalls, forM_calls _ (fun rt => (fun _ => ()) <$> runCommand h b (rustupAdd rt) none)
      (fun rt => (rustupAdd rt, h.environ)) fun rt w => by simp [outputArea, rustupAdd]]

/-- `str(target.min_api)` inside the clang-target f-strings. -/
def minApiText (t : Target) : String :=
  match t.minApi with
  | some n => toString n
  | none => "None"

/-- The `clang_targets` table of `_setup_android_environment`. -/
def clangTargets (t : Target) : List (String × String) :=
  [("aarch64-linux-android", "aarch64-linux-android" ++ minApiText t),
   ("armv7-linux-androideabi", "armv7a-linux-androideabi" ++ minApiText t),
   ("x86_64-linux-android", "x86_64-linux-android" ++ minApiText t),
   ("i686-linux-android", "i686-linux-android" ++ minApiText t)]

/-- `target.rust_target.upper().replace("-", "_")`. -/
def targetUpper (rustTarget : String) : String :=
  String.mk ((upper rustTarget).toList.map fun c => if c = '-' then '_' else c)

/-- The prebuilt toolchain directory `_setup_android_environment` needs. -/
def toolchainDir (ndk : Path) : Path :=
  ndk ++ ["toolchains", "llvm", "prebuilt",
    if lower h.system = "darwin" then "darwin-x86_64" else "linux-x86_64"]

/-- The variables `_setup_android_environment` adds to `os.environ`. -/
def androidVars (ndk : Path) (rustTarget clangTarget : String) : Env :=
  let bin := toolchainDir h ndk ++ ["bin"]
  let up := targetUpper rustTarget
  [("ANDROID_NDK_ROOT", ndk.str),
   ("ANDROID_NDK_HOME", ndk.str),
   ("CC_" ++ up, (bin ++ [clangTarget ++ "-clang"]).str),
   ("CXX_" ++ up, (bin ++ [clangTarget ++ "-clang++"]).str),
   ("AR_" ++ up, (bin ++ ["llvm-ar"]).str),
   ("CARGO_TARGET_" ++ up ++ "_LINKER", (bin ++ [clangTarget ++ "-clang"]).str)]

/-- `_setup_android_environment`: the cross-compilation environment of an Android
target, or `RuntimeError` when the NDK or its host toolchain is missing. -/
def setupAndroidEnvironment (t : Target) : Py Env := do
  let some ndk := b.androidNdkRoot | throw (.runtimeError "Android NDK not found")
  let dir := toolchainDir h ndk
  if !(← Py.pathExists dir) then
    throw (.runtimeError ("Android toolchain not found: " ++ dir.str))
  let some clangTarget := (clangTargets t).lookup t.rustTarget | throw (.keyError t.rustTarget)
  return androidVars h ndk t.rustTarget clangTarget ++ h.environ

/-- `_setup_android_environment` only reads the world: it raises without the NDK or its
host toolchain, and otherwise returns the cross-compilation environment. -/
theorem setupAndroidEnvironment_apply (t : Target) (w : World) :
    setupAndroidEnvironment h b t w =
      match b.androidNdkRoot with
      | none => .error (.runtimeError "Android NDK not found") w
      | some ndk =>
        if w.fs.pathExists (toolchainDir h ndk) then
          match (clangTargets t).lookup t.rustTarget with
          | some clangTarget => .ok (androidVars h ndk t.rustTarget clangTarget ++ h.environ) w
          | none => .error (.keyError t.rustTarget) w
        else .error (.runtimeError ("Android toolchain not found: " ++ (toolchainDir h ndk).str)) w := by
  unfold setupAndroidEnvironment
  cases b.androidNdkRoot with
  | none => rfl
  | some ndk =>
    cases hx : w.fs.pathExists (toolchainDir h ndk) <;>
      cases (clangTargets t).lookup t.rustTarget <;> simp [hx]

end RVPNSEBuilder

end RvpnseTools.Build
