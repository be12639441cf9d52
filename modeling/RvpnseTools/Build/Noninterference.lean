import RvpnseTools.Build.Agreement
import RvpnseTools.Build.ExitStatus

/-!
# Stale build output cannot leak into a run

`_build_target` removes `target/<triple>` before it runs `cargo` for that
triple, and everything the builder reads below `target/` afterwards lies below
a triple it has rebuilt. `build` removes and recreates `dist/` before writing
to it. So two runs from states that differ only below `target/<x>` and at or
below `dist/` stay in agreement everywhere except below the `target/<x>` not
yet rebuilt, and they return the same mapping and leave the same `dist/`.

## Implementation notes

The region two runs agree on grows with the triples rebuilt so far. The NDK
toolchain is only tested for existence, and a run that does not find it raises,
so two runs that both return read it alike wherever it lies. Without `cargo`,
`build` returns before it touches `dist/`.
-/

namespace RvpnseTools.Build

namespace RVPNSEBuilder

variable (h : Host) (b : RVPNSEBuilder)

/-- The paths outside every `target/<x>` whose triple `x` is not among `ks`: the part
of the file system a run has made its own once it has rebuilt the triples `ks`. -/
def Fresh (ks : List String) (p : Path) : Prop := ∀ x, b.buildDir ++ [x] <+: p → x ∈ ks

section Fresh

variable {b} {ks : List String} {p q : Path}

theorem Fresh.ancestor (hp : b.Fresh ks p) (hq : q <+: p) : b.Fresh ks q :=
  fun x hx => hp x (hx.trans hq)

theorem Fresh.mono {ks' : List String} (hp : b.Fresh ks p) (hks : ∀ x ∈ ks, x ∈ ks') :
    b.Fresh ks' p :=
  fun x hx => hks x (hp x hx)

/-- A path parting from `target/` at the project root is fresh. -/
theorem fresh_of_ne_target {c : String} (hc : c ≠ "target") (r : Path) :
    b.Fresh ks (b.projectRoot ++ c :: r) := fun x hx => by
  simp [buildDir, List.prefix_cons_iff, hc.symm] at hx

theorem fresh_outputDir (r : Path) : b.Fresh ks (b.outputDir ++ r) := by
  simpa [outputDir] using @fresh_of_ne_target b ks _ (by decide) r

theorem fresh_headerFile : b.Fresh ks b.headerFile :=
  fresh_of_ne_target (by decide) ["rvpnse.h"]

theorem fresh_readmeFile : b.Fresh ks b.readmeFile :=
  fresh_of_ne_target (by decide) []

/-- Two triples whose directories both lie above a path are one triple. -/
theorem buildDir_triple_unique {x y : String} (hx : b.buildDir ++ [x] <+: p)
    (hy : b.buildDir ++ [y] <+: p) : x = y := by
  have := (List.prefix_of_prefix_length_le hx hy (by simp)).eq_of_length (by simp)
  simpa using this

/-- Everything below a rebuilt triple is fresh. -/
theorem fresh_below_rebuilt {k : String} (hk : k ∈ ks) (hp : b.buildDir ++ [k] <+: p) :
    b.Fresh ks p := fun _ hx => buildDir_triple_unique hx hp ▸ hk

theorem fresh_libPath {t : Target} (ht : t.rustTarget ∈ ks) (lib : String) :
    b.Fresh ks (b.libPath t lib) :=
  fresh_below_rebuilt ht (by simp [libPath])

end Fresh

variable {ks : List String}

theorem respects_copyIfExists {src dst : Path} (hsrc : b.Fresh ks src) (hdst : b.Fresh ks dst) :
    Respects (b.Fresh ks) (b.Fresh ks) (copyIfExists src dst) :=
  (Py.respects_pathExists hsrc).bind fun _ => .ite (Py.respects_copy2 hsrc hdst) (.pure _)

/-- A desktop package is staged, archived and removed within `dist/`, from a library of
a rebuilt triple. -/
theorem respects_packageTarget {t : Target} (ht : t.rustTarget ∈ ks) :
    Respects (b.Fresh ks) (b.Fresh ks) (packageTarget b t) := by
  have hdir := @fresh_outputDir b ks ["rvpnse-" ++ t.name]
  have hroot : ∀ q, b.Fresh ks (b.packageDir t ++ q) := fun q => by
    simpa [packageDir] using @fresh_outputDir b ks (("rvpnse-" ++ t.name) :: q)
  unfold packageTarget
  refine (Py.respects_pathExists (fresh_libPath ht _)).bind fun _ => .ite (.pure _) ?_
  refine (Respects.pure _).bind fun _ => (Py.respects_mkdir _ _ _).bind fun _ =>
    (Py.respects_copy2 (fresh_libPath ht _) hdir).bind fun _ =>
    (respects_copyIfExists b fresh_headerFile hdir).bind fun _ =>
    (respects_copyIfExists b fresh_readmeFile hdir).bind fun _ => ?_
  exact .ite ((Py.respects_makeArchive _ _ hroot).bind fun _ => (Py.respects_rmtree _).bind fun _ => .pure _)
    ((Py.respects_makeArchive _ _ hroot).bind fun _ => (Py.respects_rmtree _).bind fun _ => .pure _)

/-- One library of the Android bundle, from a rebuilt triple. -/
theorem respects_addAndroidLibrary {t : Target} (ht : t.rustTarget ∈ ks) :
    Respects (b.Fresh ks) (b.Fresh ks) (addAndroidLibrary b t) := by
  unfold addAndroidLibrary
  refine (Py.respects_pathExists (fresh_libPath ht _)).bind fun _ => .ite ?_ (.pure _)
  split
  · exact (Py.respects_mkdir _ _ _).bind fun _ => Py.respects_copy2 (fresh_libPath ht _)
      (by simpa [androidBundleDir] using @fresh_outputDir b ks _)
  · exact .throw _

theorem respects_packageAndroidBundle {ts : List Target} (hts : ∀ t ∈ ts, t.rustTarget ∈ ks) :
    Respects (b.Fresh ks) (b.Fresh ks) (packageAndroidBundle b ts) := by
  have hdir : ∀ q, b.Fresh ks (b.androidBundleDir ++ q) := fun q => by
    simpa [androidBundleDir] using @fresh_outputDir b ks ("rvpnse-android" :: q)
  unfold packageAndroidBundle
  exact (Py.respects_mkdir _ _ _).bind fun _ =>
    (Respects.forM fun t ht => respects_addAndroidLibrary b (hts t ht)).bind fun _ =>
    (respects_copyIfExists b fresh_headerFile (by simpa using hdir [])).bind fun _ =>
    (respects_copyIfExists b fresh_readmeFile (by simpa using hdir [])).bind fun _ =>
    (Py.respects_writeText _ _).bind fun _ => (Py.respects_makeArchive _ _ hdir).bind fun _ =>
    (Py.respects_rmtree _).bind fun _ => .pure _

/-- The iOS groups are read from libraries of rebuilt triples only. -/
theorem iosGroups_congr {fs₁ fs₂ : FS} {ts : List Target} (hfs : fs₁.AgreeOn (b.Fresh ks) fs₂)
    (hts : ∀ t ∈ ts, t.rustTarget ∈ ks) : iosGroups b fs₁ ts = iosGroups b fs₂ ts := by
  have : ts.filter (fun t => fs₁.pathExists (b.iosLibPath t)) =
      ts.filter (fun t => fs₂.pathExists (b.iosLibPath t)) :=
    List.filter_congr fun t ht => by
      simp only [FS.pathExists, iosLibPath, hfs _ (fresh_libPath (hts t ht) _)]
  simp only [iosGroups, this]

theorem respects_makeFramework (name : String) {group : List (Target × Path)}
    (hg : ∀ x ∈ group, b.Fresh ks x.2) :
    Respects (b.Fresh ks) (b.Fresh ks) (makeFramework h b name group) := by
  have hfw : ∀ q, b.Fresh ks (b.iosBundleDir ++ name :: q) := fun q => by
    simpa [iosBundleDir] using @fresh_outputDir b ks ("rvpnse-ios" :: name :: q)
  unfold makeFramework
  refine .ite (.pure _) ((Respects.pure _).bind fun _ => (Py.respects_mkdir _ _ _).bind fun _ => ?_)
  split
  · exact (Py.respects_copy2 (hg _ (.head _)) (by simpa using hfw ["rVPNSE"])).bind fun _ => .pure _
  · refine respects_runCommand h b _ _ fun a ha q r hq => ?_
    simp only [lipoCreate, outputArea, List.cons_append, Option.some.injEq] at ha
    subst ha
    exact (by simpa using hfw ("rVPNSE" :: r) : b.Fresh ks _).ancestor hq

theorem respects_addFrameworkMetadata (name : String) :
    Respects (b.Fresh ks) (b.Fresh ks) (addFrameworkMetadata b name) := by
  have hfw : ∀ q, b.Fresh ks (b.iosBundleDir ++ name :: q) := fun q => by
    simpa [iosBundleDir] using @fresh_outputDir b ks ("rvpnse-ios" :: name :: q)
  unfold addFrameworkMetadata
  exact (Py.respects_pathExists (by simpa using hfw [])).bind fun _ => .ite
    ((Py.respects_writeText _ _).bind fun _ => (Py.respects_mkdir _ _ _).bind fun _ =>
      (Py.respects_pathExists fresh_headerFile).bind fun _ => .ite
        ((Py.respects_copy2 fresh_headerFile (by simpa using hfw ["Headers"])).bind fun _ =>
          Py.respects_writeText _ _) (.pure _))
    (.pure _)

theorem respects_packageIosBundle {ts : List Target} (hts : ∀ t ∈ ts, t.rustTarget ∈ ks) :
    Respects (b.Fresh ks) (b.Fresh ks) (packageIosBundle h b ts) := by
  have hdir : ∀ q, b.Fresh ks (b.iosBundleDir ++ q) := fun q => by
    simpa [iosBundleDir] using @fresh_outputDir b ks ("rvpnse-ios" :: q)
  have hgroup : ∀ fs, ∀ x ∈ (iosGroups b fs ts).1 ++ (iosGroups b fs ts).2, b.Fresh ks x.2 := by
    intro fs x hx
    simp only [iosGroups, List.mem_append, List.mem_map, List.mem_filter] at hx
    obtain ⟨t, ⟨⟨ht, -⟩, -⟩, rfl⟩ | ⟨t, ⟨⟨ht, -⟩, -⟩, rfl⟩ := hx <;>
      exact fresh_libPath (hts t ht) _
  unfold packageIosBundle
  refine (Py.respects_mkdir _ _ _).bind fun _ => ?_
  refine Respects.get_bind (fun w₁ w₂ hw => by simp only [iosGroups_congr b hw.2 hts]) fun w => ?_
  have hg := hgroup w.fs
  rcases hgs : iosGroups b w.fs ts with ⟨device, simulator⟩
  rw [hgs] at hg
  simp only [List.mem_append] at hg
  refine .ite (.pure _) ((Respects.pure _).bind fun _ => ?_)
  refine (respects_makeFramework h b _ fun x hx => hg x (.inl hx)).bind fun _ =>
    .ite (.pure _) ((Respects.pure _).bind fun _ => ?_)
  refine (respects_makeFramework h b _ fun x hx => hg x (.inr hx)).bind fun _ =>
    .ite (.pure _) ((Respects.pure _).bind fun _ => ?_)
  exact (Respects.forM fun n _ => respects_addFrameworkMetadata b n).bind fun _ =>
    (respects_copyIfExists b fresh_readmeFile (by simpa using hdir [])).bind fun _ =>
    (Py.respects_writeText _ _).bind fun _ => (Py.respects_makeArchive _ _ hdir).bind fun _ =>
    (Py.respects_rmtree _).bind fun _ => .pure _

theorem respects_packageBundles {s : LoopState}
    (hs : ∀ t ∈ s.androidTargets ++ s.iosTargets, t.rustTarget ∈ ks) :
    Respects (b.Fresh ks) (b.Fresh ks) (packageBundles h b s) := by
  unfold packageBundles
  exact .ite ((respects_packageAndroidBundle b fun t ht => hs t (by simp [ht])).bind fun _ =>
      (Respects.pure _).bind fun _ => .ite ((respects_packageIosBundle h b fun t ht =>
        hs t (by simp [ht])).map _) (.pure _))
    ((Respects.pure _).bind fun _ => .ite ((respects_packageIosBundle h b fun t ht =>
        hs t (by simp [ht])).map _) (.pure _))

/-- `rustup` writes nothing, and both runs make the same calls. -/
theorem respects_setupRustEnvironment {R : Path → Prop} : Respects R R (setupRustEnvironment h b) :=
  fun w₁ w₂ _ _ _ _ hw h₁ h₂ => by
    rw [setupRustEnvironment_apply] at h₁ h₂
    split at h₁ <;> cases h₁ <;> split at h₂ <;> cases h₂ <;> simp_all [Agree]

/-- When `_setup_android_environment` returns, it has changed nothing and returned the
environment the builder and the host determine. -/
theorem setupAndroidEnvironment_eq_ok {t : Target} {env : Env} {w w' : World}
    (hs : setupAndroidEnvironment h b t w = .ok env w') :
    w' = w ∧ ∃ ndk clangTarget, b.androidNdkRoot = some ndk ∧
      (clangTargets t).lookup t.rustTarget = some clangTarget ∧
      env = androidVars h ndk t.rustTarget clangTarget ++ h.environ := by
  rw [setupAndroidEnvironment_apply] at hs
  split at hs
  · cases hs
  · rename_i ndk hndk
    split at hs
    · split at hs
      · rename_i clangTarget hct
        cases hs
        exact ⟨rfl, ndk, clangTarget, hndk, hct, rfl⟩
      · cases hs
    · cases hs

/-- The NDK toolchain is only tested for existence, and a run that finds none raises: two
runs that both return get the same environment, wherever the toolchain lies. -/
theorem respects_setupAndroidEnvironment {R : Path → Prop} (t : Target) :
    Respects R R (setupAndroidEnvironment h b t) := fun _ _ _ _ _ _ hw h₁ h₂ => by
  obtain ⟨rfl, ndk, c, hndk, hc, rfl⟩ := setupAndroidEnvironment_eq_ok h b h₁
  obtain ⟨rfl, ndk', c', hndk', hc', rfl⟩ := setupAndroidEnvironment_eq_ok h b h₂
  rw [hndk] at hndk'
  cases hndk'
  rw [hc] at hc'
  cases hc'
  exact ⟨rfl, hw⟩

/-- A target's build makes `target/<triple>` the runs' own: it is removed, then written
only by the same `cargo` call in both. -/
theorem respects_buildTarget (t : Target) :
    Respects (b.Fresh ks) (b.Fresh (ks ++ [t.rustTarget])) (buildTarget h b t) := by
  have hT : t.rustTarget ∈ ks ++ [t.rustTarget] := by simp
  have hcargo : ∀ env, Respects (b.Fresh (ks ++ [t.rustTarget])) (b.Fresh (ks ++ [t.rustTarget]))
      (runCommand h b (b.cargoBuild t) (some env) >>= fun success =>
        if success = true then Py.pathExists (b.libPath t (getLibraryName t)) else pure false) :=
    fun env => (respects_runCommand h b _ _ fun a ha q r hq => by
      rw [outputArea_cargoBuild, Option.some.injEq] at ha
      subst ha
      exact (fresh_below_rebuilt hT (List.prefix_append _ r)).ancestor hq).bind fun _ =>
      .ite (Py.respects_pathExists (fresh_libPath hT _)) (.pure _)
  unfold buildTarget
  refine ((Py.respects_removeIfExists _).mono (fun _ hp => hp) fun q hq => ?_).bind fun _ =>
    .ite (.pure _) ((Respects.pure _).bind fun _ =>
      .ite ((respects_setupAndroidEnvironment h b t).bind hcargo)
        ((Respects.pure _).bind hcargo))
  by_cases hq' : b.buildDir ++ [t.rustTarget] <+: q
  · exact .inr hq'
  · refine .inl fun x hx => ?_
    rcases List.mem_append.mp (hq x hx) with hx' | hx'
    · exact hx'
    · simp only [List.mem_singleton] at hx'
      exact absurd (hx' ▸ hx) hq'

/-- The triples of the registry names among `names`, in order: those the loop of
`build` rebuilds. -/
def rebuiltTriples (names : List String) : List String :=
  names.filterMap fun n => (lookupTarget n).map (·.rustTarget)

theorem respects_buildStep (s : LoopState) (pre : List String) (name : String) :
    Respects (b.Fresh (rebuiltTriples pre)) (b.Fresh (rebuiltTriples (pre ++ [name])))
      (buildStep h b s name) := by
  unfold buildStep
  split
  · rename_i t ht
    have hks : rebuiltTriples (pre ++ [name]) = rebuiltTriples pre ++ [t.rustTarget] := by
      simp [rebuiltTriples, List.filterMap_append, ht]
    have hT : t.rustTarget ∈ rebuiltTriples (pre ++ [name]) := by simp [hks]
    rw [hks] at hT ⊢
    refine (respects_buildTarget h b t).bind fun _ => .ite (.pure _) ?_
    exact (Respects.pure _).bind fun _ => .ite (.pure _) ((Respects.pure _).bind fun _ =>
      .ite (.pure _) ((Respects.pure _).bind fun _ =>
        (respects_packageTarget b hT).bind fun _ => .pure _))
  · exact .throw _

/-- Every target the loop hands to a bundle comes from a name of the batch. -/
theorem foldlM_buildStep_targets {names : List String} {s s' : LoopState} {w w' : World}
    (hl : names.foldlM (buildStep h b) s w = .ok s' w') :
    ∀ t ∈ s'.androidTargets ++ s'.iosTargets,
      t ∈ s.androidTargets ++ s.iosTargets ∨ t.rustTarget ∈ rebuiltTriples names := by
  induction names generalizing s w with
  | nil => cases hl; exact fun t ht => .inl ht
  | cons n names ih =>
    obtain ⟨s₁, w₁, hs, hl⟩ := (Py.bind_eq_ok _).mp hl
    obtain ⟨t, success, -, ht, -, -, rfl⟩ := buildStep_eq_ok h b hs
    have hks : rebuiltTriples (n :: names) = t.rustTarget :: rebuiltTriples names := by
      simp [rebuiltTriples, ht]
    intro t' ht'
    rw [hks]
    rcases ih hl t' ht' with ht' | ht'
    · by_cases htt : t' = t
      · exact .inr (htt ▸ List.mem_cons_self _ _)
      · left
        simp only [List.mem_append] at ht' ⊢
        split_ifs at ht' <;> simp_all
    · exact .inr (List.mem_cons_of_mem _ ht')

/-- With `cargo` found and valid names, `build` takes
two worlds agreeing outside `target/<x>` and `dist/` to worlds agreeing outside the
`target/<x>` it did not rebuild, and returns one mapping. -/
theorem respects_build (names : List String) (hc : h.which "cargo" = true)
    (hvalid : ∀ n ∈ names, isTarget n = true) :
    Respects (fun p => b.Fresh [] p ∧ ¬ b.outputDir <+: p) (b.Fresh (rebuiltTriples names))
      (build h b names) := by
  have hall : (names.any fun n => !isTarget n) = false := by simpa using hvalid
  unfold build
  refine Respects.bind_of (· = true) (respects_setupRustEnvironment h b)
    (fun w c w' hw => by rw [setupRustEnvironment_apply, hc] at hw; cases hw; rfl) fun c hc' => ?_
  subst hc'
  simp only [Bool.not_true, Bool.false_eq_true, if_false, hall]
  have hreset : Respects (fun p => b.Fresh [] p ∧ ¬ b.outputDir <+: p) (b.Fresh [])
      (Py.removeIfExists b.outputDir) :=
    (Py.respects_removeIfExists _).mono (fun _ hp => hp) fun q hq => by
      by_cases hq' : b.outputDir <+: q
      · exact .inr hq'
      · exact .inl ⟨hq, hq'⟩
  refine (Respects.pure _).bind fun _ => hreset.bind fun _ =>
    (Py.respects_mkdir _ _ _).bind fun _ => (Respects.pure _).bind fun _ => ?_
  have hloop := Respects.foldlM (fun ns => b.Fresh (rebuiltTriples ns))
    (fun s ns a => respects_buildStep h b s ns a) [] names ⟨[], [], []⟩
  rw [List.nil_append] at hloop
  refine Respects.bind_of (fun s => ∀ t ∈ s.androidTargets ++ s.iosTargets,
      t.rustTarget ∈ rebuiltTriples names) hloop
    (fun w s w' hl t ht => (foldlM_buildStep_targets h b hl t ht).resolve_left (by simp))
    fun s hs => ?_
  exact (respects_packageBundles h b hs).bind fun _ => .pure _

/-- Two runs of `build` from states that differ only below `target/<x>` and at or below
`dist/`, with `cargo` found, that both return, return the same mapping, make the same
calls, and agree on every path outside the `target/<x>` of triples not requested: in
particular they leave the same `dist/`. -/
theorem build_same_outputs (names : List String) (w₁ w₂ : World) {r₁ r₂ : List (String × Bool)}
    {w₁' w₂' : World} (hc : h.which "cargo" = true)
    (hvalid : ∀ n ∈ names, isTarget n = true) (hcalls : w₁.calls = w₂.calls)
    (hfs : ∀ p, (∀ x, ¬ b.buildDir ++ [x] <+: p) → ¬ b.outputDir <+: p → w₁.fs.get p = w₂.fs.get p)
    (h₁ : build h b names w₁ = .ok r₁ w₁') (h₂ : build h b names w₂ = .ok r₂ w₂') :
    r₁ = r₂ ∧ w₁'.calls = w₂'.calls ∧
      ∀ p, b.Fresh (rebuiltTriples names) p → w₁'.fs.get p = w₂'.fs.get p :=
  respects_build h b names hc hvalid
    ⟨hcalls, fun p hp => hfs p (fun x hx => by simpa using hp.1 x hx) hp.2⟩ h₁ h₂

end RVPNSEBuilder

end RvpnseTools.Build

namespace RvpnseTools.Build

/-- A project `/proj` left by an earlier build: a stale `linux-x64` library and a stale
package. -/
def staleProject : FS :=
  ((FS.root.putFile ["proj", "Cargo.toml"] "").putFile
    ["proj", "target", "x86_64-unknown-linux-gnu", "release", "librvpnse.so"] "old").putFile
    ["proj", "dist", "rvpnse-linux-x64.tar.gz"] "old"

/-- The builder of `/proj` in release mode, without an NDK. -/
def projBuilder : RVPNSEBuilder := ⟨["proj"], .release, none⟩

/-- A Linux host with `cargo` whose every process exits with 1 and writes nothing. -/
def hostCargoFails : Host :=
  ⟨fun _ => true, "Linux", "x86_64", [], ["home"], ["proj"], fun _ _ => ⟨1, []⟩⟩

/-- A failing `cargo` records `linux-x64` as failed, from any project state with `dist/`
and `target/x86_64-unknown-linux-gnu` not files. -/
theorem build_linux_when_cargo_fails (w : World) (hroot : w.fs.get ["proj"] = some .dir)
    (hdist : w.fs.get ["proj", "dist"] = none ∨ w.fs.get ["proj", "dist"] = some .dir)
    (htarget : w.fs.get ["proj", "target", "x86_64-unknown-linux-gnu"] = none ∨
      w.fs.get ["proj", "target", "x86_64-unknown-linux-gnu"] = some .dir) :
    ∃ w', projBuilder.build hostCargoFails ["linux-x64"] w = .ok [("linux-x64", false)] w' := by
  obtain ⟨hf, hmk⟩ := RVPNSEBuilder.mkdir_outputDir projBuilder w.fs hroot
  set fs₁ := (w.fs.erase projBuilder.outputDir).mkdirs projBuilder.outputDir hf with hfs₁
  have htarget₁ : fs₁.get ["proj", "target", "x86_64-unknown-linux-gnu"] =
      w.fs.get ["proj", "target", "x86_64-unknown-linux-gnu"] := by
    have happ : Path.Apart projBuilder.outputDir ["proj", "target", "x86_64-unknown-linux-gnu"] :=
      Path.apart_append_cons ["proj"] [] ["x86_64-unknown-linux-gnu"] (by decide)
    rw [hfs₁, FS.mkdirs_get_of_apart _ _ happ, FS.erase_get_of_apart _ happ]
  refine ⟨⟨fs₁.erase (projBuilder.buildDir ++ ["x86_64-unknown-linux-gnu"]),
    w.calls ++ RVPNSEBuilder.rustupCalls hostCargoFails ++
      [(projBuilder.cargoBuild ⟨"linux-x64", "x86_64-unknown-linux-gnu", .linux, "x64", none, none⟩,
        [])]⟩, ?_⟩
  have hc : hostCargoFails.which "cargo" = true := rfl
  have hrun : ∀ hist c, hostCargoFails.run hist c = ⟨1, []⟩ := fun _ _ => rfl
  have henv : hostCargoFails.environ = [] := rfl
  have hdist' : w.fs.get projBuilder.outputDir = none ∨ w.fs.get projBuilder.outputDir = some .dir :=
    hdist
  have htarget' : fs₁.get (projBuilder.buildDir ++ ["x86_64-unknown-linux-gnu"]) = none ∨
      fs₁.get (projBuilder.buildDir ++ ["x86_64-unknown-linux-gnu"]) = some .dir :=
    htarget₁ ▸ htarget
  simp [RVPNSEBuilder.build, RVPNSEBuilder.setupRustEnvironment_apply, hc,
    Py.removeIfExists_of_not_file ⟨w.fs, w.calls ++ RVPNSEBuilder.rustupCalls hostCargoFails⟩ hdist',
    hmk, ← hfs₁, isTarget, lookupTarget, targets, RVPNSEBuilder.buildStep, RVPNSEBuilder.buildTarget,
    Py.removeIfExists_of_not_file ⟨fs₁, w.calls ++ RVPNSEBuilder.rustupCalls hostCargoFails⟩ htarget',
    hrun, henv, RVPNSEBuilder.packageBundles, RVPNSEBuilder.outputArea_cargoBuild, dictSet]

/-- `staleProject` with the stale library and package removed. -/
def cleanProject : FS :=
  (staleProject.erase ["proj", "target", "x86_64-unknown-linux-gnu"]).erase ["proj", "dist"]

theorem build_same_outputs_stale_and_clean :
    ∃ r₁ r₂ w₁' w₂',
      projBuilder.build hostCargoFails ["linux-x64"] ⟨staleProject, []⟩ = .ok r₁ w₁' ∧
      projBuilder.build hostCargoFails ["linux-x64"] ⟨cleanProject, []⟩ = .ok r₂ w₂' ∧
      r₁ = r₂ ∧ w₁'.calls = w₂'.calls ∧
      ∀ p, projBuilder.Fresh (RVPNSEBuilder.rebuiltTriples ["linux-x64"]) p →
        w₁'.fs.get p = w₂'.fs.get p := by
  obtain ⟨w₁', h₁⟩ := build_linux_when_cargo_fails ⟨staleProject, []⟩
    ((FS.isDir_iff _).mp (by decide)) (.inr ((FS.isDir_iff _).mp (by decide)))
    (.inr ((FS.isDir_iff _).mp (by decide)))
  obtain ⟨w₂', h₂⟩ := build_linux_when_cargo_fails ⟨cleanProject, []⟩
    ((FS.isDir_iff _).mp (by decide)) (.inl (Option.isNone_iff_eq_none.mp (by decide)))
    (.inl (Option.isNone_iff_eq_none.mp (by decide)))
  refine ⟨_, _, _, _, h₁, h₂, RVPNSEBuilder.build_same_outputs hostCargoFails projBuilder ["linux-x64"]
    ⟨staleProject, []⟩ ⟨cleanProject, []⟩ rfl (by decide) rfl
    (fun p hT hD => ?_) h₁ h₂⟩
  have hT' := hT "x86_64-unknown-linux-gnu"
  simp only [RVPNSEBuilder.buildDir, RVPNSEBuilder.outputDir, projBuilder, List.singleton_append,
    List.cons_append, List.nil_append] at hT' hD
  simp [cleanProject, hT', hD]

/-- Without `cargo`, `build` returns before it resets `dist/`: two project states that
differ only in `dist/` keep their difference, one with a stale package and one without. -/
theorem build_without_cargo_keeps_stale_dist :
    (∀ p, (∀ x, ¬ projBuilder.buildDir ++ [x] <+: p) → ¬ projBuilder.outputDir <+: p →
      staleProject.get p = (staleProject.erase ["proj", "dist"]).get p) ∧
    projBuilder.build hostWithoutCargo ["linux-x64"] ⟨staleProject, []⟩ =
      .ok [] ⟨staleProject, []⟩ ∧
    projBuilder.build hostWithoutCargo ["linux-x64"] ⟨staleProject.erase ["proj", "dist"], []⟩ =
      .ok [] ⟨staleProject.erase ["proj", "dist"], []⟩ ∧
    (staleProject.get ["proj", "dist", "rvpnse-linux-x64.tar.gz"]).isSome ∧
    (staleProject.erase ["proj", "dist"]).get ["proj", "dist", "rvpnse-linux-x64.tar.gz"] = none := by
  refine ⟨fun p _ hD => ?_, RVPNSEBuilder.build_of_not_which _ _ rfl _ _,
    RVPNSEBuilder.build_of_not_which _ _ rfl _ _, by decide, by simp⟩
  simp only [RVPNSEBuilder.outputDir, projBuilder, List.singleton_append] at hD
  simp [hD]

/-- A project `/proj` whose `dist` is a regular file. -/
def distFileProject : FS := cargoProject.putFile ["proj", "dist"] ""

/-- Where `dist` is a regular file, `rmtree` raises and `build` does not return, while from the
same project without it `build` returns: two states that differ only at `dist/` need not both
return. -/
theorem build_raises_of_dist_file :
    (∀ p, (∀ x, ¬ projBuilder.buildDir ++ [x] <+: p) → ¬ projBuilder.outputDir <+: p →
      distFileProject.get p = cargoProject.get p) ∧
    (Py.raised (projBuilder.build hostCargoFails ["linux-x64"] ⟨distFileProject, []⟩)).isSome ∧
    ∃ w', projBuilder.build hostCargoFails ["linux-x64"] ⟨cargoProject, []⟩ = .ok [("linux-x64", false)] w' := by
  refine ⟨fun p _ hD => ?_, ?_, build_linux_when_cargo_fails ⟨cargoProject, []⟩
    ((FS.isDir_iff _).mp (by decide)) (.inl (Option.isNone_iff_eq_none.mp (by decide)))
    (.inl (Option.isNone_iff_eq_none.mp (by decide)))⟩
  · simp only [RVPNSEBuilder.outputDir, projBuilder, List.singleton_append] at hD
    by_cases hq : p <+: ["proj", "dist"]
    · rcases p with _ | ⟨a, _ | ⟨c, _ | ⟨d, r⟩⟩⟩
      · rfl
      · obtain rfl : a = "proj" := by simpa using hq
        rfl
      · obtain ⟨rfl, rfl⟩ : a = "proj" ∧ c = "dist" := by simpa using hq
        exact absurd List.prefix_rfl hD
      · simp at hq
    · exact FS.putFile_get_of_not_below _ _ hq
  · have hc : hostCargoFails.which "cargo" = true := rfl
    have hfile : distFileProject.get ["proj", "dist"] = some (.file "") := rfl
    simp [RVPNSEBuilder.build, RVPNSEBuilder.setupRustEnvironment_apply, hc, Py.removeIfExists,
      FS.pathExists, FS.rmtree, hfile, RVPNSEBuilder.outputDir, projBuilder, Py.raised]

/-- Two ways two runs from states that differ only at or below `dist/` part: without `cargo`
a stale `dist/` survives, and a `dist` that is a regular file makes one run raise. -/
theorem build_outputs_differ :
    ((∀ p, (∀ x, ¬ projBuilder.buildDir ++ [x] <+: p) → ¬ projBuilder.outputDir <+: p →
      staleProject.get p = (staleProject.erase ["proj", "dist"]).get p) ∧
    projBuilder.build hostWithoutCargo ["linux-x64"] ⟨staleProject, []⟩ =
      .ok [] ⟨staleProject, []⟩ ∧
    projBuilder.build hostWithoutCargo ["linux-x64"] ⟨staleProject.erase ["proj", "dist"], []⟩ =
      .ok [] ⟨staleProject.erase ["proj", "dist"], []⟩ ∧
    (staleProject.get ["proj", "dist", "rvpnse-linux-x64.tar.gz"]).isSome ∧
    (staleProject.erase ["proj", "dist"]).get ["proj", "dist", "rvpnse-linux-x64.tar.gz"] = none) ∧
    ((∀ p, (∀ x, ¬ projBuilder.buildDir ++ [x] <+: p) → ¬ projBuilder.outputDir <+: p →
      distFileProject.get p = cargoProject.get p) ∧
    (Py.raised (projBuilder.build hostCargoFails ["linux-x64"] ⟨distFileProject, []⟩)).isSome ∧
    ∃ w', projBuilder.build hostCargoFails ["linux-x64"] ⟨cargoProject, []⟩ = .ok [("linux-x64", false)] w') :=
  ⟨build_without_cargo_keeps_stale_dist, build_raises_of_dist_file⟩

end RvpnseTools.Build
