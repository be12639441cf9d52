import RvpnseTools.Build.PackageSpec

/-!
# The members of the Android archive

`_package_android_bundle` copies the library of each requested target to
`jniLibs/<abi>/librvpnse.so` in a fresh staging directory, adds the header, the
readme and `install.sh`, and archives the directory as `rvpnse-android.tar.gz`.
The archive holds exactly those members, and each `jniLibs/<abi>/librvpnse.so`
is the library of the last requested target of that architecture whose library
exists, since a later copy overwrites an earlier one
(`packageAndroidBundle_archive`).

## Implementation notes

`L x` is the library staged for the architecture `x`. One iteration of the copy
loop updates it at most at its target's architecture (`addAndroidLibrary_jni`),
and the loop leaves the last writer, `androidLib` (`forM_addAndroidLibrary_jni`).
-/

namespace RvpnseTools.Build

/-- What lies below `jniLibs/` when `L x` is the library staged for the architecture `x`. -/
def jniMember (L : String → Option Entry) : Path → Option Entry
  | [] => some .dir
  | [x] => (L x).map fun _ => .dir
  | x :: y :: r => if y :: r = ["librvpnse.so"] then L x else none

/-- The members of the Android archive, given what lies at the project's header and readme
and the library staged for each architecture. -/
def androidBundleMember (header readme : Option Entry) (L : String → Option Entry) : Path → Option Entry
  | [] => none
  | c :: r =>
      if c = "jniLibs" then jniMember L r
      else if c = "rvpnse.h" ∧ r = [] then header
      else if c = "README.md" ∧ r = [] then readme
      else if c = "install.sh" ∧ r = [] then some (.file androidInstallScript)
      else none

/-- The members of the Android archive in the order the staging writes them, last first. -/
theorem androidBundleMember_cons (header readme : Option Entry) (L : String → Option Entry) (c : String)
    (r : Path) : androidBundleMember header readme L (c :: r) =
      if c = "install.sh" ∧ r = [] then some (.file androidInstallScript)
      else if c = "README.md" ∧ r = [] then readme
      else if c = "rvpnse.h" ∧ r = [] then header
      else if c = "jniLibs" then jniMember L r else none := by
  rw [androidBundleMember]
  by_cases hj : c = "jniLibs"
  · subst hj; simp
  by_cases hi : c = "install.sh" ∧ r = []
  · obtain ⟨rfl, rfl⟩ := hi; simp
  by_cases hR : c = "README.md" ∧ r = []
  · obtain ⟨rfl, rfl⟩ := hR; simp
  by_cases hH : c = "rvpnse.h" ∧ r = []
  · obtain ⟨rfl, rfl⟩ := hH; simp
  simp [hj, hi, hR, hH]

namespace RVPNSEBuilder

variable (b : RVPNSEBuilder)

/-- The staged libraries after one iteration of the copy loop for `t`. -/
def stageLib (fs : FS) (t : Target) (L : String → Option Entry) (x : String) : Option Entry :=
  if t.androidArch = some x ∧ fs.pathExists (b.libPath t "librvpnse.so") = true then
    fs.get (b.libPath t "librvpnse.so") else L x

/-- The library the copy loop leaves for the architecture `x`: that of the last target of `ts`
of that architecture whose library exists. -/
def androidLib (fs : FS) (ts : List Target) (x : String) : Option Entry :=
  (ts.filter fun t => t.androidArch = some x ∧ fs.pathExists (b.libPath t "librvpnse.so") = true).getLast?.bind
    fun t => fs.get (b.libPath t "librvpnse.so")

theorem androidLib_append (fs : FS) (l : List Target) (t : Target) :
    b.androidLib fs (l ++ [t]) = b.stageLib fs t (b.androidLib fs l) := by
  funext x
  by_cases ht : t.androidArch = some x ∧ fs.pathExists (b.libPath t "librvpnse.so") = true <;>
    simp [androidLib, stageLib, List.filter_append, ht]

theorem not_androidJni_below_libPath (t : Target) (lib : String) :
    ¬ b.androidBundleDir ++ ["jniLibs"] <+: b.libPath t lib := fun h =>
  (apart_outputDir_buildDir b ["rvpnse-android"] [t.rustTarget, b.mode.value, lib]).1
    ((List.prefix_append _ _).trans h)

/-- One iteration of the copy loop stages the library of its target, when it exists, under
the target's architecture, and changes nothing off `jniLibs/`. -/
theorem addAndroidLibrary_jni {t : Target} {L : String → Option Entry} {w w' : World}
    (hj : ∀ r, w.fs.get (b.androidBundleDir ++ "jniLibs" :: r) = jniMember L r)
    (hL : ∀ x, L x ≠ some .dir) (hb : addAndroidLibrary b t w = .ok () w') :
    w.fs.ModifiesOnly (b.androidBundleDir ++ ["jniLibs"] <+: ·) w'.fs ∧
      (∀ r, w'.fs.get (b.androidBundleDir ++ "jniLibs" :: r) = jniMember (b.stageLib w.fs t L) r) ∧
      ∀ x, b.stageLib w.fs t L x ≠ some .dir := by
  unfold addAndroidLibrary at hb
  rw [Py.pathExists_bind] at hb
  split at hb
  next hlib =>
    cases ha : t.androidArch with
    | none => simp [ha] at hb
    | some a =>
      simp only [ha] at hb
      obtain ⟨fs₁, h₁, hb⟩ := Py.onFS_bind_eq_ok.mp hb
      obtain ⟨fs₂, h₂, rfl⟩ := (Py.onFS_eq_ok _ _).mp hb
      have hg₁ : ∀ q, fs₁.get q =
          if q = b.androidBundleDir ++ ["jniLibs", a] then some .dir else w.fs.get q := by
        simpa only [List.append_assoc, List.singleton_append] using
          FS.mkdir_child_get (hj []) (by simpa only [List.append_assoc, List.singleton_append] using h₁)
      have hnotJ := not_androidJni_below_libPath b t "librvpnse.so"
      have hlib₁ : fs₁.get (b.libPath t "librvpnse.so") = w.fs.get (b.libPath t "librvpnse.so") := by
        rw [hg₁, if_neg fun h' => hnotJ (by rw [h']; exact (prefix_append_cons_iff _ _ _ _).mpr List.nil_prefix)]
      have hdst : fs₁.isDir (b.androidBundleDir ++ ["jniLibs", a] ++ ["librvpnse.so"]) = false := by
        have hn : w.fs.get (b.androidBundleDir ++ ["jniLibs", a, "librvpnse.so"]) = L a := hj [a, "librvpnse.so"]
        have hLa := hL a
        cases h' : L a with
        | none => simp [FS.isDir, hg₁, hn, h']
        | some e => cases e <;> simp_all [FS.isDir, Entry.isDir]
      have hg₂ := FS.copy2_onto_get hdst h₂
      obtain ⟨e, hs, hne, -⟩ := FS.copy2_eq_ok _ h₂
      rw [hlib₁] at hs hg₂
      simp only [List.append_assoc, List.singleton_append, List.cons_append, List.nil_append] at hg₂
      refine ⟨fun q hq => ?_, fun r => ?_, fun x => ?_⟩
      · rw [hg₂, if_neg fun h' => hq (by rw [h']; simp), hg₁, if_neg fun h' => hq (by rw [h']; simp)]
      · rw [hg₂, hg₁]
        rcases r with _ | ⟨x, _ | ⟨y, r⟩⟩
        · simp [hj, jniMember]
        · by_cases hx : x = a
          · simp [hx, jniMember, stageLib, ha, hlib, hs]
          · simp [hx, hj, jniMember, stageLib, ha, Ne.symm hx]
        · by_cases hx : x = a
          · subst hx
            by_cases hy : y :: r = ["librvpnse.so"] <;> simp_all [jniMember, stageLib, hs]
          · simp [hx, hj, jniMember, stageLib, ha, Ne.symm hx]
      · unfold stageLib
        split_ifs
        · rw [hs]
          exact fun h' => hne (Option.some.inj h')
        · exact hL x
  next hlib =>
    simp only [Py.pure_apply, EStateM.Result.ok.injEq] at hb
    obtain ⟨-, rfl⟩ := hb
    have hL' : b.stageLib w.fs t L = L := funext fun x => by simp [stageLib, hlib]
    exact ⟨.refl _, by rw [hL']; exact hj, by rw [hL']; exact hL⟩

/-- The copy loop, from an empty `jniLibs/`, leaves for each architecture the library of the
last target of that architecture whose library exists. -/
theorem forM_addAndroidLibrary_jni {ts : List Target} {w w' : World}
    (hj : ∀ r, w.fs.get (b.androidBundleDir ++ "jniLibs" :: r) = jniMember (fun _ => none) r)
    (hb : ts.forM (addAndroidLibrary b) w = .ok () w') :
    w.fs.ModifiesOnly (b.androidBundleDir ++ ["jniLibs"] <+: ·) w'.fs ∧
      (∀ r, w'.fs.get (b.androidBundleDir ++ "jniLibs" :: r) = jniMember (b.androidLib w.fs ts) r) ∧
      ∀ x, b.androidLib w.fs ts x ≠ some .dir := by
  induction ts using List.reverseRecOn generalizing w' with
  | nil =>
      cases hb
      exact ⟨.refl _, hj, fun _ => by simp [androidLib]⟩
  | append_singleton l t ih =>
      rw [List.forM_append] at hb
      obtain ⟨⟨⟩, w₁, h₁, hb⟩ := (Py.bind_eq_ok _).mp hb
      obtain ⟨⟨⟩, w₂, h₂, hb⟩ := (Py.bind_eq_ok _).mp hb
      cases hb
      obtain ⟨fr₁, hj₁, hL₁⟩ := ih h₁
      obtain ⟨fr₂, hj₂, hL₂⟩ := addAndroidLibrary_jni b hj₁ hL₁ h₂
      have hlib : w₁.fs.get (b.libPath t "librvpnse.so") = w.fs.get (b.libPath t "librvpnse.so") :=
        fr₁ _ (not_androidJni_below_libPath b t _)
      have hstage : b.stageLib w₁.fs t (b.androidLib w.fs l) = b.androidLib w.fs (l ++ [t]) := by
        rw [androidLib_append]
        unfold stageLib
        simp only [FS.pathExists, hlib]
      rw [← hstage]
      exact ⟨fr₁.trans fr₂, hj₂, hL₂⟩

/-- When `_package_android_bundle` runs from a fresh staging directory, it returns the path of
its archive, which holds exactly `jniLibs/` with the last library copied for each
architecture, the project's header and readme where they exist, and `install.sh`. -/
theorem packageAndroidBundle_archive {ts : List Target} {r : Option Path} {w w' : World}
    (hdist : w.fs.get b.outputDir = some .dir) (hdir : w.fs.get b.androidBundleDir = none)
    (hb : packageAndroidBundle b ts w = .ok r w') :
    r = some (b.outputDir ++ ["rvpnse-android.tar.gz"]) ∧
      ∃ m, w'.fs.get (b.outputDir ++ ["rvpnse-android.tar.gz"]) = some (.archive .gztar m) ∧
        ∀ p, m p = androidBundleMember (w.fs.get b.headerFile) (w.fs.get b.readmeFile)
          (b.androidLib w.fs ts) p := by
  unfold packageAndroidBundle at hb
  obtain ⟨fs₁, h₁, hb⟩ := Py.onFS_bind_eq_ok.mp hb
  obtain ⟨⟨⟩, w₂, h₂, hb⟩ := (Py.bind_eq_ok _).mp hb
  obtain ⟨⟨⟩, w₃, h₃, hb⟩ := (Py.bind_eq_ok _).mp hb
  obtain ⟨⟨⟩, w₄, h₄, hb⟩ := (Py.bind_eq_ok _).mp hb
  obtain ⟨fs₅, h₅, hb⟩ := Py.onFS_bind_eq_ok.mp hb
  obtain ⟨fs₆, h₆, hb⟩ := Py.onFS_bind_eq_ok.mp hb
  obtain ⟨fs₇, h₇, hb⟩ := Py.onFS_bind_eq_ok.mp hb
  cases hb
  set D := b.androidBundleDir
  -- the fresh staging directory with its empty `jniLibs/`
  have hm₁ : w.fs.ModifiesOnly (D <+: ·) fs₁ :=
    FS.modifiesOnly_mkdir_below hdist (by simpa [D, androidBundleDir] using h₁ :
      w.fs.mkdir (b.outputDir ++ "rvpnse-android" :: ["jniLibs"]) true true = .ok fs₁)
  have hD₁ : fs₁.get D = some .dir := fs₁.dir_of_ancestor (FS.get_of_mkdir h₁) (List.prefix_append _ _)
  have hnew : ∀ c r, ¬ (c = "jniLibs" ∧ r = []) → fs₁.get (D ++ c :: r) = none := fun c r hc => by
    rw [FS.modifiesOnly_of_mkdir h₁ _ fun h => hc (by simpa using h)]
    exact w.fs.get_eq_none_below hdir (List.prefix_append _ _)
  have hj₁ : ∀ r, fs₁.get (D ++ "jniLibs" :: r) = jniMember (fun _ => none) r := by
    rintro (_ | ⟨x, _ | ⟨y, r⟩⟩)
    · exact FS.get_of_mkdir h₁
    all_goals rw [hnew _ _ (by simp)]; simp [jniMember]
  have hlibs : b.androidLib fs₁ ts = b.androidLib w.fs ts := by
    have hlib : ∀ t, fs₁.get (b.libPath t "librvpnse.so") = w.fs.get (b.libPath t "librvpnse.so") :=
      fun t => hm₁ _ (apart_outputDir_buildDir b ["rvpnse-android"] [t.rustTarget, b.mode.value, _]).1
    funext x
    simp only [androidLib, FS.pathExists, hlib]
  -- the copy loop
  obtain ⟨fr₂, hj₂, -⟩ := forM_addAndroidLibrary_jni b hj₁ h₂
  rw [hlibs] at hj₂
  have hw₂ : ∀ c r, w₂.fs.get (D ++ c :: r) = if c = "jniLibs" then jniMember (b.androidLib w.fs ts) r
      else none := fun c r => by
    split_ifs with hc
    · subst hc; exact hj₂ r
    · rw [fr₂ _ (Path.apart_append_cons D [] r (Ne.symm hc)).1, hnew _ _ fun h => hc h.1]
  have hout : ∀ q, ¬ D <+: q → w₂.fs.get q = w.fs.get q := fun q hq =>
    (fr₂ q fun h => hq ((List.prefix_append _ _).trans h)).trans (hm₁ q hq)
  have hD₂ : w₂.fs.get D = some .dir := (fr₂ D (not_prefix_of_length_lt (by simp))).trans hD₁
  -- the header, the readme and the installer
  have hheader : FS.baseName b.headerFile = "rvpnse.h" := by simp [FS.baseName, headerFile]
  have hreadme : FS.baseName b.readmeFile = "README.md" := by simp [FS.baseName, readmeFile]
  have hnotH : ¬ D <+: b.headerFile := fun h =>
    not_outputDir_below_headerFile b ((List.prefix_append _ _).trans h)
  have hnotR : ¬ D <+: b.readmeFile := fun h =>
    not_outputDir_below_readmeFile b ((List.prefix_append _ _).trans h)
  have hg₃ := copyIfExists_get_into hD₂ (by rw [hheader, hw₂]; simp) h₃
  have hD₃ : w₃.fs.get D = some .dir := by rw [hg₃, if_neg (by simp)]; exact hD₂
  have hg₄ := copyIfExists_get_into hD₃ (by rw [hreadme, hg₃, hheader, if_neg (by simp), hw₂]; simp) h₄
  have hr₃ : w₃.fs.get b.readmeFile = w.fs.get b.readmeFile := by
    rw [hg₃, if_neg fun h => hnotR (by rw [h]; exact List.prefix_append _ _), hout _ hnotR]
  have hg : ∀ c r, fs₅.get (D ++ c :: r) = androidBundleMember (w.fs.get b.headerFile)
      (w.fs.get b.readmeFile) (b.androidLib w.fs ts) (c :: r) := fun c r => by
    rw [FS.write_get h₅, hg₄, hreadme, hr₃, hg₃, hheader, hout _ hnotH, hw₂, androidBundleMember_cons]
    simp only [List.append_cancel_left_eq, List.cons.injEq]
  -- the archive
  obtain ⟨-, hw⟩ := FS.makeArchive_eq_ok _ h₆
  rw [gztar_appendName (by decide)] at hw
  refine ⟨rfl, fs₅.subtree D, FS.get_of_write_rmtree (not_prefix_append_singleton (by decide)) hw h₇, ?_⟩
  rintro (_ | ⟨c, r⟩)
  · rfl
  · exact hg c r

end RVPNSEBuilder

/-- `android-arm64`, as the registry holds it. -/
def androidArm64 : Target :=
  ⟨"android-arm64", "aarch64-linux-android", .android, "arm64", some "arm64-v8a", some 21⟩

/-- A project `/proj` whose `dist/` holds a desktop package and whose `android-arm64` library
is built in release mode. -/
def androidArm64Built : FS :=
  (FS.root.putFile ["proj", "target", "aarch64-linux-android", "release", "librvpnse.so"] "").putFile
    ["proj", "dist", "rvpnse-linux-x64.tar.gz"] ""

/-- `android-arm64` alone, in a project without a header or a readme: the archive holds
`jniLibs/arm64-v8a/librvpnse.so`, a copy of the library, and `install.sh`. -/
theorem packageAndroidBundle_archive_arm64 :
    ∃ w', (⟨["proj"], .release, none⟩ : RVPNSEBuilder).packageAndroidBundle [androidArm64]
        ⟨androidArm64Built, []⟩ = .ok (some ["proj", "dist", "rvpnse-android.tar.gz"]) w' ∧
      ∃ m, w'.fs.get ["proj", "dist", "rvpnse-android.tar.gz"] = some (.archive .gztar m) ∧
        ∀ p, m p = androidBundleMember none none
          (fun x => if x = "arm64-v8a" then some (.file "") else none) p := by
  obtain ⟨r, w', hrun⟩ : ∃ r w', (⟨["proj"], .release, none⟩ : RVPNSEBuilder).packageAndroidBundle
      [androidArm64] ⟨androidArm64Built, []⟩ = .ok r w' := ⟨_, _, rfl⟩
  obtain ⟨rfl, m, hm, hmem⟩ := RVPNSEBuilder.packageAndroidBundle_archive _
    ((FS.isDir_iff _).mp (by decide)) (Option.isNone_iff_eq_none.mp (by decide)) hrun
  have hlib : (⟨["proj"], .release, none⟩ : RVPNSEBuilder).androidLib androidArm64Built [androidArm64] =
      fun x => if x = "arm64-v8a" then some (.file "") else none := by
    funext x
    by_cases hx : x = "arm64-v8a"
    · subst hx; rfl
    · simp [RVPNSEBuilder.androidLib, androidArm64, Ne.symm hx, hx]
  refine ⟨w', hrun, m, hm, fun p => (hmem p).trans ?_⟩
  rw [hlib]
  rfl

end RvpnseTools.Build
