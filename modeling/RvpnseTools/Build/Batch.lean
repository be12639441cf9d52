import RvpnseTools.Build.Builder

/-!
# The batch: what `build` records, and where it stops

The loop of `build` assigns `results[name]` once per requested name, whatever
each build did (`foldlM_buildStep_keys`). A failed build only records `False`.
Setting up an Android target can raise, though: `_find_android_ndk` accepts any existing
`ANDROID_NDK_ROOT`, `_setup_android_environment` then wants the host's
prebuilt toolchain below it and raises `RuntimeError` without one, and nothing
catches the exception, so the whole batch stops. A name outside the registry
stops the batch earlier, before any `cargo build`, with the empty mapping.
-/

namespace RvpnseTools.Build

namespace RVPNSEBuilder

variable (h : Host) (b : RVPNSEBuilder)

/-- Each iteration adds its name to the keys of the mapping, unless it is already there. -/
theorem foldlM_buildStep_keys {names : List String} {s s' : LoopState} {w w' : World}
    (hl : names.foldlM (buildStep h b) s w = .ok s' w') :
    s'.results.map (·.1) =
      names.foldl (fun ks n => if n ∈ ks then ks else ks ++ [n]) (s.results.map (·.1)) := by
  induction names generalizing s w with
  | nil => cases hl; rfl
  | cons n names ih =>
    obtain ⟨s₁, w₁, hs, hl⟩ := (Py.bind_eq_ok _).mp hl
    obtain ⟨t, success, w₂, -, -, -, rfl⟩ := buildStep_eq_ok h b hs
    rw [ih hl, List.foldl_cons, keys_dictSet]

/-- A missing toolchain directory is no prefix of `dist/` in a project directory. -/
theorem not_toolchainDir_prefix_outputDir {fs : FS} {ndk : Path}
    (hroot : fs.get b.projectRoot = some .dir) (htool : fs.get (toolchainDir h ndk) = none) :
    ¬ toolchainDir h ndk <+: b.outputDir := fun hp => by
  rcases List.prefix_concat_iff.mp hp with heq | hp
  · have := congrArg List.getLast? heq
    unfold toolchainDir at this
    split_ifs at this <;> simp at this
  · simp [fs.dir_of_ancestor hroot hp] at htool

/-- With an NDK root whose host toolchain is missing, a batch that starts with an
Android target raises `RuntimeError` instead of returning a mapping. -/
theorem build_raises_without_toolchain (ndk : Path) (name : String) (t : Target)
    (names : List String) (w : World)
    (hc : h.which "cargo" = true) (hroot : w.fs.get b.projectRoot = some .dir)
    (hdist : w.fs.get b.outputDir = none ∨ w.fs.get b.outputDir = some .dir)
    (hvalid : ∀ n ∈ names, isTarget n = true)
    (ht : lookupTarget name = some t) (handroid : t.platform = .android)
    (htarget : w.fs.get (b.buildDir ++ [t.rustTarget]) = none ∨
      w.fs.get (b.buildDir ++ [t.rustTarget]) = some .dir)
    (hndk : b.androidNdkRoot = some ndk) (htool : w.fs.get (toolchainDir h ndk) = none) :
    Py.raised (build h b (name :: names) w) =
      some (.runtimeError ("Android toolchain not found: " ++ (toolchainDir h ndk).str)) := by
  obtain ⟨hf, hmk⟩ := mkdir_outputDir b w.fs hroot
  set fs₁ := (w.fs.erase b.outputDir).mkdirs b.outputDir hf with hfs₁
  have happ : Path.Apart b.outputDir (b.buildDir ++ [t.rustTarget]) := by
    simpa [outputDir, buildDir] using
      Path.apart_append_cons b.projectRoot [] [t.rustTarget] (show "dist" ≠ "target" by decide)
  have htarget₁ : fs₁.get (b.buildDir ++ [t.rustTarget]) = w.fs.get (b.buildDir ++ [t.rustTarget]) := by
    rw [hfs₁, FS.mkdirs_get_of_apart _ _ happ, FS.erase_get_of_apart _ happ]
  have htool₁ : (fs₁.erase (b.buildDir ++ [t.rustTarget])).pathExists (toolchainDir h ndk) = false := by
    simp [FS.pathExists, hfs₁, not_toolchainDir_prefix_outputDir h b hroot htool, htool]
  have hisT : isTarget name = true := by simp [isTarget, ht]
  have hall : ¬ ∃ x ∈ names, isTarget x = false := fun ⟨x, hx, h⟩ => by simp [hvalid x hx] at h
  simp [build, setupRustEnvironment_apply, hc,
    Py.removeIfExists_of_not_file ⟨w.fs, w.calls ++ rustupCalls h⟩ hdist, hmk, ← hfs₁, hisT, hall,
    buildStep, ht, buildTarget, Py.removeIfExists_of_not_file ⟨fs₁, w.calls ++ rustupCalls h⟩
      (htarget₁ ▸ htarget), handroid, hndk, setupAndroidEnvironment_apply, htool₁, Py.raised]

end RVPNSEBuilder

/-- A project `/proj` holding `Cargo.toml`, and an NDK directory `/opt/ndk` with
nothing below but a readme. -/
def ndkWithoutToolchain : FS :=
  (FS.root.putFile ["proj", "Cargo.toml"] "").putFile ["opt", "ndk", "README"] ""

/-- A Linux host with `cargo` and `ANDROID_NDK_ROOT=/opt/ndk`, whose every process
exits with 0 and writes nothing. -/
def hostWithNdkRoot : Host :=
  ⟨fun _ => true, "Linux", "x86_64", [("ANDROID_NDK_ROOT", "/opt/ndk")], ["home"], ["proj"],
    fun _ _ => ⟨0, []⟩⟩

theorem build_android_arm64_raises :
    Py.raised ((⟨["proj"], .release, some ["opt", "ndk"]⟩ : RVPNSEBuilder).build hostWithNdkRoot
      ["android-arm64"] ⟨ndkWithoutToolchain, []⟩) =
      some (.runtimeError ("Android toolchain not found: " ++
        (RVPNSEBuilder.toolchainDir hostWithNdkRoot ["opt", "ndk"]).str)) :=
  RVPNSEBuilder.build_raises_without_toolchain hostWithNdkRoot _ ["opt", "ndk"] "android-arm64"
    ⟨"android-arm64", "aarch64-linux-android", .android, "arm64", some "arm64-v8a", some 21⟩ []
    ⟨ndkWithoutToolchain, []⟩ rfl ((FS.isDir_iff _).mp (by decide))
    (.inl (Option.isNone_iff_eq_none.mp (by decide))) (by simp) (by decide) rfl
    (.inl (Option.isNone_iff_eq_none.mp (by decide))) rfl
    (Option.isNone_iff_eq_none.mp (by decide))

namespace RVPNSEBuilder

variable (h : Host) (b : RVPNSEBuilder)

/-- A batch naming a target outside the registry builds nothing: `build` returns the empty
mapping, and the only processes it started are the `rustup` calls of the setup. -/
theorem build_of_invalid_eq_ok {targetNames : List String} {w w' : World}
    {results : List (String × Bool)} (hinvalid : targetNames.any (!isTarget ·) = true)
    (hb : build h b targetNames w = .ok results w') :
    results = [] ∧ w'.calls = w.calls ++ if h.which "cargo" then rustupCalls h else [] := by
  cases hc : h.which "cargo"
  · rw [build_of_not_which h b hc] at hb
    cases hb
    simp
  simp only [build, Py.bind_apply, Py.pure_apply, setupRustEnvironment_apply, hc, if_true,
    Bool.not_true, Bool.false_eq_true, if_false, hinvalid] at hb
  split at hb
  · rename_i w₁ hr
    obtain ⟨-, rfl⟩ := (Py.removeIfExists_eq_ok _ _).mp hr
    split at hb <;> rename_i hmk
    · obtain ⟨fs₀, -, rfl⟩ := (Py.onFS_eq_ok _ _).mp hmk
      cases hb
      simp
    · cases hb
  · cases hb

end RVPNSEBuilder

theorem build_linux_and_unknown :
    ∃ w', (⟨["proj"], .release, none⟩ : RVPNSEBuilder).build hostWithNdkRoot ["linux-x64", "linux"]
        ⟨ndkWithoutToolchain, []⟩ = .ok [] w' ∧
      ([] : List (String × Bool)) = [] ∧
      w'.calls = [] ++ if hostWithNdkRoot.which "cargo" then RVPNSEBuilder.rustupCalls hostWithNdkRoot else [] := by
  obtain ⟨fs, hb⟩ := RVPNSEBuilder.build_of_invalid hostWithNdkRoot ⟨["proj"], .release, none⟩ rfl
    ["linux-x64", "linux"] ⟨ndkWithoutToolchain, []⟩ ((FS.isDir_iff _).mp (by decide))
    (.inl (Option.isNone_iff_eq_none.mp (by decide))) (by decide)
  exact ⟨_, hb, RVPNSEBuilder.build_of_invalid_eq_ok _ _ (by decide) hb⟩

namespace RVPNSEBuilder

/-- `ANDROID_NDK_ROOT` leads to no existing path: it is unset, empty, or the system resolves it
to nothing that exists. -/
def NoNdkRoot (h : Host) (fs : FS) : Prop :=
  ∀ r, h.environ.lookup "ANDROID_NDK_ROOT" = some r → r ≠ "" →
    ∀ p, fs.resolve [] (Path.ofString h.cwd r) = some p → fs.pathExists p = false

theorem ndkFromEnv_eq_some (h : Host) (fs : FS) (p : Path) :
    ndkFromEnv h fs = some p ↔ ∃ r, h.environ.lookup "ANDROID_NDK_ROOT" = some r ∧ r ≠ "" ∧
      fs.resolve [] (Path.ofString h.cwd r) = some p ∧ fs.pathExists p = true := by
  unfold ndkFromEnv
  cases h.environ.lookup "ANDROID_NDK_ROOT" with
  | none => simp
  | some r =>
      by_cases hr : r = ""
      · simp [hr]
      · cases hq : fs.resolve [] (Path.ofString h.cwd r) with
        | none => simp [hr, hq, Option.filter]
        | some q =>
          by_cases hx : fs.pathExists q <;> simp [hr, hq, Option.filter, hx] <;> rintro rfl <;> simpa using hx

theorem ndkFromEnv_eq_none (h : Host) (fs : FS) : ndkFromEnv h fs = none ↔ NoNdkRoot h fs := by
  unfold ndkFromEnv NoNdkRoot
  cases h.environ.lookup "ANDROID_NDK_ROOT" with
  | none => simp
  | some r =>
      by_cases hr : r = ""
      · simp [hr]
      · cases hp : fs.resolve [] (Path.ofString h.cwd r) <;> simp [hr, hp, Option.filter]

end RVPNSEBuilder

/-- `ANDROID_NDK_ROOT=/opt/./ndk` names `/opt/ndk`. -/
example : RVPNSEBuilder.findAndroidNdk ⟨fun _ => true, "Linux", "x86_64", [("ANDROID_NDK_ROOT", "/opt/./ndk")],
    ["home"], ["proj"], fun _ _ => ⟨0, []⟩⟩ ndkWithoutToolchain = some ["opt", "ndk"] := by
  decide

/-- `ANDROID_NDK_ROOT=/opt/ndk/../ndk` steps up from the directory `/opt/ndk`, and
`ANDROID_NDK_ROOT=/opt/sdk/../ndk` fails below the missing `/opt/sdk`. -/
example : RVPNSEBuilder.findAndroidNdk ⟨fun _ => true, "Linux", "x86_64",
      [("ANDROID_NDK_ROOT", "/opt/ndk/../ndk")], ["home"], ["proj"], fun _ _ => ⟨0, []⟩⟩ ndkWithoutToolchain =
      some ["opt", "ndk"] ∧
    RVPNSEBuilder.findAndroidNdk ⟨fun _ => true, "Linux", "x86_64",
      [("ANDROID_NDK_ROOT", "/opt/sdk/../ndk")], ["home"], ["proj"], fun _ _ => ⟨0, []⟩⟩ ndkWithoutToolchain =
      none := by
  decide

end RvpnseTools.Build
