import RvpnseTools.Build.Frame
import RvpnseTools.Build.Package

/-!
# What each packager leaves in `dist/`

Run on a fresh staging directory below `dist/`, each packager leaves exactly
one new entry there: its archive. The archive of a desktop target holds
exactly the library it was staged from, under its own name, and the project's
header and readme where they exist (`packageTarget_archive`); the Android archive holds a
`jniLibs/<arch>/librvpnse.so` for each Android target whose library exists.
The iOS packager is the exception: when a `lipo` call fails it returns before
archiving, and its staging directory stays in `dist/`.

## Implementation notes

Whether a `lipo` call failed is read off the calls a run appends to the log,
each replayed against the host with the calls before it (`Host.lipoFailed`).
The archive names are checked once over the registry.
-/

namespace RvpnseTools.Build

/-- Whether a command runs `lipo`. -/
def isLipo (cmd : Cmd) : Bool := cmd.head? == some (.text "lipo")

/-- Whether a `lipo` call of `log` exits nonzero, each call made after `hist` and the
calls before it in `log`. -/
def Host.lipoFailed (h : Host) : List Call → List Call → Bool
  | _, [] => false
  | hist, c :: log => (isLipo c.1 && (h.run hist c).returncode != 0) || h.lipoFailed (hist ++ [c]) log

theorem Host.lipoFailed_append (h : Host) (hist l₁ l₂ : List Call) :
    h.lipoFailed hist (l₁ ++ l₂) = (h.lipoFailed hist l₁ || h.lipoFailed (hist ++ l₁) l₂) := by
  induction l₁ generalizing hist with
  | nil => simp [Host.lipoFailed]
  | cons c l₁ ih => simp [Host.lipoFailed, ih, Bool.or_assoc]

@[simp] theorem isLipo_lipoCreate (out : Path) (paths : List Path) :
    isLipo (RVPNSEBuilder.lipoCreate out paths) = true := by
  simp [isLipo, RVPNSEBuilder.lipoCreate]

/-- The setup installs triples and merges nothing. -/
theorem isLipo_of_mem_rustupCalls (h : Host) : ∀ c ∈ RVPNSEBuilder.rustupCalls h, isLipo c.1 = false := by
  intro c hc
  obtain ⟨p, -, rfl⟩ := List.mem_map.mp hc
  simp [isLipo, RVPNSEBuilder.rustupAdd]

theorem Host.lipoFailed_of_not_lipo (h : Host) {hist log : List Call}
    (hlog : ∀ c ∈ log, isLipo c.1 = false) : h.lipoFailed hist log = false := by
  induction log generalizing hist with
  | nil => rfl
  | cons c log ih =>
    simp [Host.lipoFailed, hlog c (.head _), ih fun c' hc' => hlog c' (.tail _ hc')]

/-- The members of a desktop package, given the library's name and what lies at the library,
the project's header and its readme. -/
def packageMember (libName : String) (lib header readme : Option Entry) : Path → Option Entry
  | [c] => if c = libName then lib else if c = "rvpnse.h" then header
      else if c = "README.md" then readme else none
  | _ => none

/-- The members of a desktop package in the order the staging writes them, last first. -/
theorem packageMember_cons {libName c : String} {r : Path} {lib header readme : Option Entry}
    (hL : libName ≠ "rvpnse.h" ∧ libName ≠ "README.md") :
    packageMember libName lib header readme (c :: r) =
      if c = "README.md" ∧ r = [] then readme else if c = "rvpnse.h" ∧ r = [] then header
      else if c = libName ∧ r = [] then lib else none := by
  cases r with
  | cons => simp [packageMember]
  | nil =>
    by_cases hc : c = libName
    · subst hc
      simp [packageMember, hL.1, hL.2]
    · by_cases hh : c = "rvpnse.h"
      · subst hh
        simp [packageMember, hc]
      · simp [packageMember, hc, hh]

/-- `windows-x64`, as the registry holds it. -/
def windowsX64 : Target := ⟨"windows-x64", "x86_64-pc-windows-msvc", .windows, "x64", none, none⟩

/-- A project `/proj` with a header, no readme and a `windows-x64` library built in
release mode, whose `dist/` holds the iOS archive. -/
def windowsX64Built : FS :=
  ((FS.root.putFile ["proj", "target", "x86_64-pc-windows-msvc", "release", "rvpnse.dll"] "").putFile
    ["proj", "include", "rvpnse.h"] "h").putFile ["proj", "dist", "rvpnse-ios.tar.gz"] ""

namespace RVPNSEBuilder

/-- Distinct registry entries have distinct archive names. -/
theorem targets_archiveName_injective :
    ∀ p ∈ targets, ∀ q ∈ targets, archiveName p.2 = archiveName q.2 → p.2 = q.2 := by decide

/-- No archive name is the name of a staging directory. -/
theorem targets_archiveName_ne_packageName :
    ∀ p ∈ targets, ∀ q ∈ targets, archiveName p.2 ≠ "rvpnse-" ++ q.2.name := by decide

/-- No archive name is taken by a bundle. -/
theorem targets_archiveName_not_bundle : ∀ p ∈ targets,
    archiveName p.2 ∉ ["rvpnse-android", "rvpnse-android.tar.gz", "rvpnse-ios", "rvpnse-ios.tar.gz"] := by
  decide

/-- `with_suffix("")` takes each archive name back to the base `make_archive` extends. -/
theorem targets_archiveName_base : ∀ p ∈ targets,
    (if p.2.platform = .windows then stripSuffix (archiveName p.2) ++ ".zip"
      else stripSuffix (stripSuffix (archiveName p.2)) ++ ".tar.gz") = archiveName p.2 := by
  decide

theorem getLibraryName_not_mem : getLibraryName t ∉ ["rvpnse.h", "README.md"] := by
  unfold getLibraryName
  split_ifs <;> decide

/-- A gzip-tar archive named `name` is written at `p ++ [name]`. -/
theorem gztar_appendName {p : Path} {name : String}
    (h : stripSuffix (stripSuffix name) ++ ".tar.gz" = name) :
    (p ++ [name]).withoutSuffix.withoutSuffix.appendName ArchiveFormat.gztar.ext = p ++ [name] := by
  simp [ArchiveFormat.ext, h]

theorem not_prefix_append_singleton {p : Path} {x y : String} (hxy : x ≠ y) : ¬ p ++ [x] <+: p ++ [y] :=
  (Path.apart_append_cons p [] [] hxy).1

variable (h : Host) (b : RVPNSEBuilder)

/-- What lies in `dist/` is apart from what lies in `target/`. -/
theorem apart_outputDir_buildDir (r r' : Path) : Path.Apart (b.outputDir ++ r) (b.buildDir ++ r') := by
  simpa [outputDir, buildDir] using
    Path.apart_append_cons b.projectRoot r r' (show "dist" ≠ "target" by decide)

theorem not_outputDir_below_headerFile : ¬ b.outputDir <+: b.headerFile := by
  simp [outputDir, headerFile]

theorem not_outputDir_below_readmeFile : ¬ b.outputDir <+: b.readmeFile := by
  simp [outputDir, readmeFile]

theorem outputArea_lipoCreate (o : Path) (paths : List Path) :
    b.outputArea (lipoCreate o paths) = some o := rfl

/-- `if src.exists(): shutil.copy2(src, dst)` into a directory writes one path at most. -/
theorem copyIfExists_eq_ok {src dst : Path} {w w' : World} (hd : w.fs.get dst = some .dir)
    (hc : copyIfExists src dst w = .ok () w') :
    w'.calls = w.calls ∧ w.fs.ModifiesOnly (· = dst ++ [FS.baseName src]) w'.fs := by
  unfold copyIfExists at hc
  rw [Py.pathExists_bind] at hc
  split at hc
  · obtain ⟨fs, hfs, rfl⟩ := (Py.onFS_eq_ok _ _).mp hc
    exact ⟨rfl, FS.modifiesOnly_copy2 hd hfs⟩
  · cases hc
    exact ⟨rfl, .refl _⟩

/-- `copyIfExists` into a directory sets the path of the source's name, to nothing when the
source is missing. -/
theorem copyIfExists_get_into {src d : Path} {w w' : World} (hd : w.fs.get d = some .dir)
    (hnew : w.fs.get (d ++ [FS.baseName src]) = none) (hc : copyIfExists src d w = .ok () w') (q : Path) :
    w'.fs.get q = if q = d ++ [FS.baseName src] then w.fs.get src else w.fs.get q := by
  unfold copyIfExists at hc
  rw [Py.pathExists_bind] at hc
  split at hc
  next =>
    obtain ⟨fs, hcp, rfl⟩ := (Py.onFS_eq_ok _ _).mp hc
    exact FS.copy2_into_get hd hcp q
  next hs =>
    simp only [Py.pure_apply, EStateM.Result.ok.injEq] at hc
    obtain ⟨-, rfl⟩ := hc
    split_ifs with hq
    · rw [hq, hnew, eq_comm]
      simpa [FS.pathExists] using hs
    · rfl

theorem within_copyIfExists (src : Path) {d : Path} : Py.Within d (copyIfExists src d) :=
  (Py.within_pathExists _).bind fun _ =>
    .ite (Py.within_onFS fun _ _ h => .of_copy2_into h) (Py.within_pure _)

/-- What `_package_target` does when the library exists: stage the library, the header and the
readme in the package directory, archive it in the platform's format and remove it. -/
theorem packageTarget_inv {t : Target} {r : Option Path} {w w' : World}
    (hlib : w.fs.pathExists (b.libPath t (getLibraryName t)) = true)
    (hb : packageTarget b t w = .ok r w') :
    ∃ fs₁ fs₂ w₃ w₄ fs₅, w.fs.mkdir (b.packageDir t) true true = .ok fs₁ ∧
      fs₁.copy2 (b.libPath t (getLibraryName t)) (b.packageDir t) = .ok fs₂ ∧
      copyIfExists b.headerFile (b.packageDir t) ⟨fs₂, w.calls⟩ = .ok () w₃ ∧
      copyIfExists b.readmeFile (b.packageDir t) w₃ = .ok () w₄ ∧
      (if t.platform = .windows then w₄.fs.makeArchive (b.archivePath t).withoutSuffix .zip (b.packageDir t)
        else w₄.fs.makeArchive (b.archivePath t).withoutSuffix.withoutSuffix .gztar (b.packageDir t)) =
          .ok fs₅ ∧
      fs₅.rmtree (b.packageDir t) = .ok w'.fs ∧ w'.calls = w₄.calls ∧ r = some (b.archivePath t) := by
  unfold packageTarget at hb
  simp only [Py.pathExists_bind, hlib, Bool.not_true, Bool.false_eq_true, if_false, pure_bind] at hb
  obtain ⟨fs₁, h₁, hb⟩ := Py.onFS_bind_eq_ok.mp hb
  obtain ⟨fs₂, h₂, hb⟩ := Py.onFS_bind_eq_ok.mp hb
  obtain ⟨⟨⟩, w₃, h₃, hb⟩ := (Py.bind_eq_ok _).mp hb
  obtain ⟨⟨⟩, w₄, h₄, hb⟩ := (Py.bind_eq_ok _).mp hb
  refine ⟨fs₁, fs₂, w₃, w₄, ?_⟩
  split at hb <;> rename_i hwin <;>
    obtain ⟨fs₅, h₅, hb⟩ := Py.onFS_bind_eq_ok.mp hb <;>
    obtain ⟨fs₆, h₆, hb⟩ := Py.onFS_bind_eq_ok.mp hb <;> cases hb <;>
    exact ⟨fs₅, h₁, h₂, h₃, h₄, by simpa [hwin] using h₅, h₆, rfl, rfl⟩

/-- The archive step of `_package_target` writes the archive of the package directory at the
archive path, in the platform's format. -/
theorem packageTarget_archive_write {t : Target} {fs fs' : FS} (ht : (t.name, t) ∈ targets)
    (h : (if t.platform = .windows then fs.makeArchive (b.archivePath t).withoutSuffix .zip (b.packageDir t)
      else fs.makeArchive (b.archivePath t).withoutSuffix.withoutSuffix .gztar (b.packageDir t)) = .ok fs') :
    fs.write (b.archivePath t) (.archive (archiveFormat t) (fs.subtree (b.packageDir t))) = .ok fs' := by
  have hname := targets_archiveName_base _ ht
  split at h <;> rename_i hwin <;> obtain ⟨-, hw⟩ := FS.makeArchive_eq_ok _ h <;>
    simp only [hwin, if_true, if_false, archivePath, Path.withoutSuffix_append_singleton,
      Path.appendName_append_singleton, ArchiveFormat.ext] at hname hw <;>
    rw [hname] at hw <;> simpa [archiveFormat, hwin, archivePath] using hw

/-- The staging of `_package_target` in a fresh package directory: the directory then holds
the library, and the header and readme where they exist, and nothing else changed. -/
theorem packageTarget_staged {t : Target} {fs₁ fs₂ : FS} {w w₃ w₄ : World}
    (hdist : w.fs.get b.outputDir = some .dir) (hdir : w.fs.get (b.packageDir t) = none)
    (h₁ : w.fs.mkdir (b.packageDir t) true true = .ok fs₁)
    (h₂ : fs₁.copy2 (b.libPath t (getLibraryName t)) (b.packageDir t) = .ok fs₂)
    (h₃ : copyIfExists b.headerFile (b.packageDir t) ⟨fs₂, w.calls⟩ = .ok () w₃)
    (h₄ : copyIfExists b.readmeFile (b.packageDir t) w₃ = .ok () w₄) :
    w₄.calls = w.calls ∧ w.fs.ModifiesOnly (b.packageDir t <+: ·) w₄.fs ∧
      ∀ p, w₄.fs.subtree (b.packageDir t) p = packageMember (getLibraryName t)
        (w.fs.get (b.libPath t (getLibraryName t))) (w.fs.get b.headerFile) (w.fs.get b.readmeFile) p := by
  set dir := b.packageDir t
  set lib := b.libPath t (getLibraryName t)
  have hL : getLibraryName t ≠ "rvpnse.h" ∧ getLibraryName t ≠ "README.md" := by
    simpa using @getLibraryName_not_mem t
  have hbase : FS.baseName lib = getLibraryName t := by simp [lib, FS.baseName, libPath]
  have below : ∀ {x : String} q, q = dir ++ [x] → dir <+: q := fun _ h => h ▸ List.prefix_append _ _
  -- each step writes one path in the package directory
  have hd₁ : fs₁.get dir = some .dir := FS.get_of_mkdir h₁
  have hm₁ : w.fs.ModifiesOnly (dir <+: ·) fs₁ := FS.modifiesOnly_mkdir_below hdist h₁
  have hg₂ := FS.copy2_into_get hd₁ h₂
  have hm₂ := hm₁.trans ((FS.modifiesOnly_copy2 hd₁ h₂).mono below)
  have hd₂ : fs₂.get dir = some .dir := (FS.modifiesOnly_copy2 hd₁ h₂ dir (by simp)).trans hd₁
  have hfresh : ∀ c r, fs₁.get (dir ++ c :: r) = none := fun c r => by
    rw [FS.mkdir_child_get hdist h₁, if_neg (by simp [dir, packageDir])]
    exact w.fs.get_eq_none_below hdir (List.prefix_append _ _)
  have hbH : FS.baseName b.headerFile = "rvpnse.h" := by simp [headerFile, FS.baseName]
  have hbR : FS.baseName b.readmeFile = "README.md" := by simp [readmeFile, FS.baseName]
  have hg₃ := copyIfExists_get_into hd₂ (by simp [hg₂, hbase, hbH, hL.1.symm, hfresh]) h₃
  obtain ⟨hc₃, hm₃'⟩ := copyIfExists_eq_ok hd₂ h₃
  have hm₃ := hm₂.trans (hm₃'.mono below)
  have hd₃ : w₃.fs.get dir = some .dir := (hm₃' dir (by simp)).trans hd₂
  have hg₄ := copyIfExists_get_into hd₃
    (by simp [hg₃, hg₂, hbase, hbH, hbR, hL.2.symm, hfresh]) h₄
  obtain ⟨hc₄, hm₄'⟩ := copyIfExists_eq_ok hd₃ h₄
  have hdirH : ¬ dir <+: b.headerFile := fun h => not_outputDir_below_headerFile b ((List.prefix_append _ _).trans h)
  have hdirR : ¬ dir <+: b.readmeFile := fun h => not_outputDir_below_readmeFile b ((List.prefix_append _ _).trans h)
  refine ⟨hc₄.trans hc₃, hm₃.trans (hm₄'.mono below), ?_⟩
  rintro (_ | ⟨c, r⟩)
  · rfl
  · rw [FS.subtree_cons, hg₄, hm₃ _ hdirR, hg₃, hm₂ _ hdirH, hg₂, hm₁ lib (apart_outputDir_buildDir b _ _).1,
      hfresh, packageMember_cons hL]
    simp [hbase, hbH, hbR]

theorem not_packageDir_below_archivePath {t : Target} (ht : (t.name, t) ∈ targets) :
    ¬ b.packageDir t <+: b.archivePath t := by
  simpa [packageDir, archivePath] using @not_prefix_append_singleton b.outputDir _ _
    (targets_archiveName_ne_packageName _ ht _ ht).symm

/-- A desktop package leaves one new entry: the archive of a staging directory that held the
target's library. -/
theorem packageTarget_eq_ok {t : Target} {r : Option Path} {w w' : World} (ht : (t.name, t) ∈ targets)
    (hdist : w.fs.get b.outputDir = some .dir) (hdir : w.fs.get (b.packageDir t) = none)
    (hlib : w.fs.pathExists (b.libPath t (getLibraryName t)) = true)
    (hb : packageTarget b t w = .ok r w') :
    w'.calls = w.calls ∧ ∃ m, m [getLibraryName t] = w.fs.get (b.libPath t (getLibraryName t)) ∧
      ∀ q, w'.fs.get q =
        if q = b.archivePath t then some (.archive (archiveFormat t) m) else w.fs.get q := by
  obtain ⟨fs₁, fs₂, w₃, w₄, fs₅, h₁, h₂, h₃, h₄, h₅, h₆, hc, -⟩ := packageTarget_inv b hlib hb
  obtain ⟨hc₄, hstage, hmem⟩ := packageTarget_staged b hdist hdir h₁ h₂ h₃ h₄
  exact ⟨hc.trans hc₄, _, (hmem _).trans (by simp [packageMember]), FS.get_of_stage_archive hdir hstage
    (not_packageDir_below_archivePath b ht) (packageTarget_archive_write b ht h₅) h₆⟩

/-- When `_package_target` returns a path, the target's library was there, and the path then
holds an archive, zip on Windows and gzip-tar elsewhere, of exactly the library under its own
name and the project's header and readme where they exist; nothing else changed. -/
theorem packageTarget_archive {t : Target} {a : Path} {w w' : World} (ht : (t.name, t) ∈ targets)
    (hdist : w.fs.get b.outputDir = some .dir) (hdir : w.fs.get (b.packageDir t) = none)
    (hb : packageTarget b t w = .ok (some a) w') :
    a = b.archivePath t ∧ w.fs.pathExists (b.libPath t (getLibraryName t)) = true ∧
      ∃ m, (∀ q, w'.fs.get q = if q = a then some (.archive (archiveFormat t) m) else w.fs.get q) ∧
        ∀ p, m p = packageMember (getLibraryName t) (w.fs.get (b.libPath t (getLibraryName t)))
          (w.fs.get b.headerFile) (w.fs.get b.readmeFile) p := by
  have hlib : w.fs.pathExists (b.libPath t (getLibraryName t)) = true := by
    by_contra hn
    unfold packageTarget at hb
    simp [Py.pathExists_bind, hn] at hb
  obtain ⟨fs₁, fs₂, w₃, w₄, fs₅, h₁, h₂, h₃, h₄, h₅, h₆, -, hr⟩ := packageTarget_inv b hlib hb
  obtain ⟨-, hstage, hmem⟩ := packageTarget_staged b hdist hdir h₁ h₂ h₃ h₄
  cases Option.some.inj hr
  exact ⟨rfl, hlib, _, FS.get_of_stage_archive hdir hstage (not_packageDir_below_archivePath b ht)
    (packageTarget_archive_write b ht h₅) h₆, hmem⟩

/-- `windows-x64` in a project with a header and no readme: the zip archive holds the DLL and
the header. -/
theorem packageTarget_archive_windowsX64 :
    ∃ w', packageTarget ⟨["proj"], .release, none⟩ windowsX64 ⟨windowsX64Built, []⟩ =
        .ok (some ["proj", "dist", "rvpnse-windows-x64.zip"]) w' ∧
      ∃ m, w'.fs.get ["proj", "dist", "rvpnse-windows-x64.zip"] = some (.archive .zip m) ∧
        ∀ p, m p = packageMember "rvpnse.dll" (some (.file "")) (some (.file "h")) none p := by
  obtain ⟨w', hrun⟩ : ∃ w', packageTarget ⟨["proj"], .release, none⟩ windowsX64 ⟨windowsX64Built, []⟩ =
      .ok (some ["proj", "dist", "rvpnse-windows-x64.zip"]) w' := ⟨_, rfl⟩
  obtain ⟨-, -, m, hm, hmem⟩ := packageTarget_archive _ (by decide)
    ((FS.isDir_iff _).mp (by decide)) (Option.isNone_iff_eq_none.mp (by decide)) hrun
  exact ⟨w', hrun, m, by simpa using hm _, hmem⟩

/-- The member `jniLibs/<x>/librvpnse.so` of the Android bundle. -/
def androidMember (b : RVPNSEBuilder) (x : String) : Path := b.androidBundleDir ++ ["jniLibs", x, "librvpnse.so"]

/-- One library of the Android bundle: after it, `jniLibs/<x>/librvpnse.so` exists exactly
when it did or `x` is the target's architecture and its library exists. -/
theorem addAndroidLibrary_eq_ok {t : Target} {w w' : World} (hb : addAndroidLibrary b t w = .ok () w') :
    w'.calls = w.calls ∧ w.fs.Within b.androidBundleDir w'.fs ∧
      ∀ x, (w'.fs.get (b.androidMember x)).isSome ↔ (w.fs.get (b.androidMember x)).isSome ∨
        (w.fs.pathExists (b.libPath t "librvpnse.so") = true ∧ t.androidArch = some x) := by
  unfold addAndroidLibrary at hb
  rw [Py.pathExists_bind] at hb
  split at hb
  · rename_i hlib
    cases ha : t.androidArch with
    | none => simp [ha] at hb
    | some a =>
      simp only [ha] at hb
      obtain ⟨fs₁, h₁, hb⟩ := Py.onFS_bind_eq_ok.mp hb
      obtain ⟨fs₂, h₂, rfl⟩ := (Py.onFS_eq_ok _ _).mp hb
      have hdst : b.androidBundleDir ++ ["jniLibs", a] ++ ["librvpnse.so"] = b.androidMember a := by
        simp [androidMember]
      refine ⟨rfl, (FS.Within.of_mkdir (List.prefix_append _ _) h₁).trans
        (.of_copy2 (by simp : b.androidBundleDir ++ ["jniLibs"] <+:
          b.androidBundleDir ++ ["jniLibs", a] ++ ["librvpnse.so"]) h₂),
        fun x => ?_⟩
      by_cases hx : a = x
      · subst hx
        simpa [hlib, ha, ← hdst] using FS.copy2_get_isSome h₂
      · have hne : ¬ b.androidBundleDir ++ ["jniLibs", a] ++ ["librvpnse.so"] <+: b.androidMember x := by
          simpa [androidMember] using hx
        have hne' : ¬ b.androidMember x <+: b.androidBundleDir ++ ["jniLibs", a] :=
          not_prefix_of_length_lt (by simp [androidMember])
        simp only [FS.modifiesOnly_of_copy2 h₂ _ hne, FS.modifiesOnly_of_mkdir h₁ _ hne',
          Option.some.injEq, hx, and_false, or_false]
  · cases hb
    exact ⟨rfl, .refl _, by simp_all⟩

/-- The copy loop of `_package_android_bundle`, by induction over the targets. -/
theorem forM_addAndroidLibrary_eq_ok {ts : List Target} {w w' : World}
    (hbundle : w.fs.get b.androidBundleDir = some .dir) (hb : ts.forM (addAndroidLibrary b) w = .ok () w') :
    w'.calls = w.calls ∧ w.fs.Within b.androidBundleDir w'.fs ∧
      ∀ x, (w'.fs.get (b.androidMember x)).isSome ↔ (w.fs.get (b.androidMember x)).isSome ∨
        ∃ t ∈ ts, w.fs.pathExists (b.libPath t "librvpnse.so") = true ∧ t.androidArch = some x := by
  induction ts generalizing w with
  | nil =>
    cases hb
    exact ⟨rfl, .refl _, by simp⟩
  | cons t ts ih =>
    obtain ⟨⟨⟩, w₁, h₁, hb⟩ := (Py.bind_eq_ok _).mp hb
    obtain ⟨hc₁, hw₁, hx₁⟩ := addAndroidLibrary_eq_ok b h₁
    obtain ⟨hc, hw, hx⟩ := ih (hw₁.get_dir hbundle) hb
    have hlib : ∀ t', w₁.fs.pathExists (b.libPath t' "librvpnse.so") = w.fs.pathExists (b.libPath t' "librvpnse.so") :=
      fun t' => congrArg Option.isSome (hw₁.get_of_not_below hbundle
        (apart_outputDir_buildDir b ["rvpnse-android"] [t'.rustTarget, b.mode.value, "librvpnse.so"]).1)
    refine ⟨hc.trans hc₁, hw₁.trans hw, fun x => ?_⟩
    simp only [hx, hx₁, hlib, List.mem_cons, exists_eq_or_imp, or_assoc]

/-- The Android bundle leaves one new entry, its archive, which has a
`jniLibs/<x>/librvpnse.so` exactly for the architectures of the targets whose library exists. -/
theorem packageAndroidBundle_eq_ok {ts : List Target} {r : Option Path} {w w' : World}
    (hdist : w.fs.get b.outputDir = some .dir) (hdir : w.fs.get b.androidBundleDir = none)
    (hb : packageAndroidBundle b ts w = .ok r w') :
    w'.calls = w.calls ∧ ∃ m,
      (∀ x, (m ["jniLibs", x, "librvpnse.so"]).isSome ↔
        ∃ t ∈ ts, w.fs.pathExists (b.libPath t "librvpnse.so") = true ∧ t.androidArch = some x) ∧
      ∀ q, w'.fs.get q =
        if q = b.outputDir ++ ["rvpnse-android.tar.gz"] then some (.archive .gztar m) else w.fs.get q := by
  unfold packageAndroidBundle at hb
  set dir := b.androidBundleDir
  obtain ⟨fs₁, h₁, hb⟩ := Py.onFS_bind_eq_ok.mp hb
  obtain ⟨⟨⟩, w₂, h₂, hb⟩ := (Py.bind_eq_ok _).mp hb
  obtain ⟨⟨⟩, w₃, h₃, hb⟩ := (Py.bind_eq_ok _).mp hb
  obtain ⟨⟨⟩, w₄, h₄, hb⟩ := (Py.bind_eq_ok _).mp hb
  obtain ⟨fs₅, h₅, hb⟩ := Py.onFS_bind_eq_ok.mp hb
  obtain ⟨fs₆, h₆, hb⟩ := Py.onFS_bind_eq_ok.mp hb
  obtain ⟨fs₇, h₇, hb⟩ := Py.onFS_bind_eq_ok.mp hb
  cases hb
  have hm₁ : w.fs.ModifiesOnly (dir <+: ·) fs₁ :=
    FS.modifiesOnly_mkdir_below hdist (by simpa [dir, androidBundleDir] using h₁ :
      w.fs.mkdir (b.outputDir ++ "rvpnse-android" :: ["jniLibs"]) true true = .ok fs₁)
  have hdir₁ : fs₁.get dir = some .dir :=
    fs₁.dir_of_ancestor (FS.get_of_mkdir h₁) (List.prefix_append _ _)
  have hmem₁ : ∀ x, fs₁.get (b.androidMember x) = none := fun x => by
    rw [FS.modifiesOnly_of_mkdir h₁ _ (not_prefix_of_length_lt (by simp [androidMember]))]
    exact w.fs.get_eq_none_below hdir (List.prefix_append _ _)
  obtain ⟨hc₂, hw₂, hx₂⟩ := forM_addAndroidLibrary_eq_ok b hdir₁ h₂
  have hdir₂ := hw₂.get_dir hdir₁
  obtain ⟨hc₃, hm₃⟩ := copyIfExists_eq_ok hdir₂ h₃
  obtain ⟨hc₄, hm₄⟩ := copyIfExists_eq_ok ((hm₃ dir (by simp)).trans hdir₂) h₄
  have hm₅ := FS.modifiesOnly_write h₅
  have hmem : ∀ x, fs₅.subtree dir ["jniLibs", x, "librvpnse.so"] = w₂.fs.get (b.androidMember x) :=
    fun x => by
      rw [FS.subtree_cons, hm₅ _ (by simp), hm₄ _ (by simp [readmeFile, FS.baseName]),
        hm₃ _ (by simp [headerFile, FS.baseName])]
      rfl
  have hstage : w.fs.ModifiesOnly (dir <+: ·) fs₅ :=
    (((hm₁.trans (hw₂.modifiesOnly hdir₁)).trans (hm₃.mono fun _ h => h ▸ List.prefix_append _ _)).trans
      (hm₄.mono fun _ h => h ▸ List.prefix_append _ _)).trans (hm₅.mono fun _ h => h ▸ List.prefix_append _ _)
  obtain ⟨-, hw⟩ := FS.makeArchive_eq_ok _ h₆
  rw [gztar_appendName (by decide)] at hw
  refine ⟨hc₄.trans (hc₃.trans hc₂), fs₅.subtree dir, fun x => ?_,
    FS.get_of_stage_archive hdir hstage (not_prefix_append_singleton (by decide)) hw h₇⟩
  simp only [hmem, hx₂, hmem₁, Option.isSome_none, Bool.false_eq_true, false_or]
  refine exists_congr fun t => and_congr_right fun _ => ?_
  rw [FS.pathExists, FS.pathExists, hm₁ (b.libPath t "librvpnse.so")
    (apart_outputDir_buildDir b ["rvpnse-android"] [t.rustTarget, b.mode.value, "librvpnse.so"]).1]

/-- Each framework block writes only inside its framework directory, so strictly below the
iOS staging directory and below every `d` with `d ++ [x]` a prefix of that directory. -/
theorem within_makeFramework {d : Path} {x name : String} (hd : d ++ [x] <+: b.iosBundleDir ++ [name])
    (group : List (Target × Path)) : Py.Within d (makeFramework h b name group) := by
  have hfw : d ++ [x] <+: b.iosBundleDir ++ [name] ++ ["rVPNSE"] := hd.trans (List.prefix_append _ _)
  unfold makeFramework
  dsimp only
  refine .ite (Py.within_pure _) ((Py.within_pure _).bind fun _ => ?_)
  refine (Py.within_onFS fun _ _ h => .of_mkdir ((List.prefix_append _ _).trans hd) h).bind fun _ => ?_
  split
  · exact (Py.within_onFS fun _ _ h => .of_copy2 hfw h).bind fun _ => Py.within_pure _
  · exact within_runCommand h b none fun a ha => by
      rw [outputArea_lipoCreate, Option.some.injEq] at ha
      exact ha ▸ hfw

/-- A framework block calls at most one process, a `lipo`, and reports `False` exactly when
that call fails. -/
theorem makeFramework_calls {name : String} {group : List (Target × Path)} {ok : Bool} {w w' : World}
    (hb : makeFramework h b name group w = .ok ok w') :
    ∃ run, w'.calls = w.calls ++ run ∧ (∀ c ∈ run, isLipo c.1 = true) ∧
      h.lipoFailed w.calls run = !ok := by
  unfold makeFramework at hb
  dsimp only at hb
  split at hb
  · cases hb
    exact ⟨[], by simp, by simp, rfl⟩
  · rw [pure_bind] at hb
    obtain ⟨fs₁, -, hb⟩ := Py.onFS_bind_eq_ok.mp hb
    split at hb
    · obtain ⟨fs₂, -, hb⟩ := Py.onFS_bind_eq_ok.mp hb
      cases hb
      exact ⟨[], by simp, by simp, rfl⟩
    · rw [runCommand_apply] at hb
      cases hb
      exact ⟨_, rfl, by simp [lipoCreate, isLipo], by simp [Host.lipoFailed, lipoCreate, isLipo, bne]⟩

/-- The metadata of a framework lies inside it. -/
theorem within_addFrameworkMetadata {d : Path} {x name : String} (hd : d ++ [x] <+: b.iosBundleDir ++ [name]) :
    Py.Within d (addFrameworkMetadata b name) := by
  have hfw : ∀ r, d ++ [x] <+: b.iosBundleDir ++ [name] ++ r := fun r => hd.trans (List.prefix_append _ r)
  unfold addFrameworkMetadata
  dsimp only
  refine (Py.within_pathExists _).bind fun _ => .ite ?_ (Py.within_pure _)
  refine (Py.within_onFS fun _ _ h => .of_write (hfw _) h).bind fun _ => ?_
  refine (Py.within_onFS fun _ _ h => .of_mkdir ((List.prefix_append _ _).trans (hfw _)) h).bind
    fun _ => (Py.within_pathExists _).bind fun _ => .ite ?_ (Py.within_pure _)
  exact (Py.within_onFS fun _ _ h => .of_copy2 (hfw _) h).bind fun _ =>
    Py.within_onFS fun _ _ h => .of_write ((hfw ["Headers"]).trans (List.prefix_append _ _)) h

/-- Both groups are empty exactly when no target has its library. -/
theorem iosGroups_empty_iff {fs : FS} {ts : List Target} :
    ((iosGroups b fs ts).1.isEmpty = true ∧ (iosGroups b fs ts).2.isEmpty = true) ↔
      ∀ t ∈ ts, fs.pathExists (b.iosLibPath t) = false := by
  simp only [iosGroups, List.isEmpty_iff, List.map_eq_nil_iff, List.filter_eq_nil_iff, List.mem_filter]
  constructor
  · rintro ⟨hd, hs⟩ t ht
    by_contra hl
    by_cases htd : t.rustTarget = iosDeviceTriple
    · exact hd t ⟨ht, by simpa using hl⟩ (by simpa using htd)
    · exact hs t ⟨ht, by simpa using hl⟩ (by simpa using htd)
  · intro hno
    exact ⟨fun t ⟨ht, hl⟩ => absurd (hno t ht) (by simpa using hl),
      fun t ⟨ht, hl⟩ => absurd (hno t ht) (by simpa using hl)⟩

/-- The staging directory holds no library, so the grouping after its `mkdir` reads the
libraries as they were. -/
theorem iosGroups_mkdir {fs fs₁ : FS} {ts : List Target} (hdist : fs.get b.outputDir = some .dir)
    (h₁ : fs.mkdir b.iosBundleDir true true = .ok fs₁) : iosGroups b fs₁ ts = iosGroups b fs ts := by
  have hlib : ∀ t, fs₁.pathExists (b.iosLibPath t) = fs.pathExists (b.iosLibPath t) := fun t => by
    rw [FS.pathExists, FS.pathExists, FS.modifiesOnly_mkdir_below hdist h₁ (b.iosLibPath t)
      (apart_outputDir_buildDir b ["rvpnse-ios"] [t.rustTarget, b.mode.value, "librvpnse.dylib"]).1]
  simp only [iosGroups, hlib]

/-- With no library present, `_package_ios_bundle` creates the staging directory and returns
`None`, leaving the directory behind. -/
theorem packageIosBundle_of_no_lib {ts : List Target} {r : Option Path} {w w' : World}
    (hdist : w.fs.get b.outputDir = some .dir) (hno : ∀ t ∈ ts, w.fs.pathExists (b.iosLibPath t) = false)
    (hb : packageIosBundle h b ts w = .ok r w') :
    r = none ∧ w.fs.mkdir b.iosBundleDir true true = .ok w'.fs ∧ w'.calls = w.calls := by
  unfold packageIosBundle at hb
  obtain ⟨fs₁, h₁, hb⟩ := Py.onFS_bind_eq_ok.mp hb
  simp only [Py.get_bind, iosGroups_mkdir b hdist h₁, (iosGroups_empty_iff b).mpr hno, and_self, if_true,
    Py.pure_apply, EStateM.Result.ok.injEq] at hb
  obtain ⟨rfl, rfl⟩ := hb
  exact ⟨rfl, h₁, rfl⟩

/-- What `_package_ios_bundle` does once some library is present: create the staging
directory, run the device framework block, stop if its `lipo` failed, run the simulator
block, stop if its `lipo` failed, and otherwise add the metadata, readme and installer,
archive the staging directory and remove it. -/
theorem packageIosBundle_inv {ts : List Target} {r : Option Path} {w w' : World}
    (hdist : w.fs.get b.outputDir = some .dir) (hex : ∃ t ∈ ts, w.fs.pathExists (b.iosLibPath t) = true)
    (hb : packageIosBundle h b ts w = .ok r w') :
    ∃ fs₁ ok₁ w₂, w.fs.mkdir b.iosBundleDir true true = .ok fs₁ ∧
      makeFramework h b "rVPNSE-Device.framework" (iosGroups b w.fs ts).1 ⟨fs₁, w.calls⟩ = .ok ok₁ w₂ ∧
      (ok₁ = false ∧ r = none ∧ w' = w₂ ∨ ok₁ = true ∧ ∃ ok₂ w₃,
        makeFramework h b "rVPNSE-Simulator.framework" (iosGroups b w.fs ts).2 w₂ = .ok ok₂ w₃ ∧
        (ok₂ = false ∧ r = none ∧ w' = w₃ ∨ ok₂ = true ∧ r = some (b.outputDir ++ ["rvpnse-ios.tar.gz"]) ∧
          ∃ w₄ w₅ fs₆ fs₇,
          frameworkNames.forM (addFrameworkMetadata b) w₃ = .ok () w₄ ∧
          copyIfExists b.readmeFile b.iosBundleDir w₄ = .ok () w₅ ∧
          w₅.fs.writeText (b.iosBundleDir ++ ["install.sh"]) iosInstallScript = .ok fs₆ ∧
          fs₆.makeArchive (b.outputDir ++ ["rvpnse-ios.tar.gz"]).withoutSuffix.withoutSuffix .gztar
            b.iosBundleDir = .ok fs₇ ∧
          fs₇.rmtree b.iosBundleDir = .ok w'.fs ∧ w'.calls = w₅.calls)) := by
  unfold packageIosBundle at hb
  obtain ⟨fs₁, h₁, hb⟩ := Py.onFS_bind_eq_ok.mp hb
  have hne : ¬ ((iosGroups b w.fs ts).1.isEmpty = true ∧ (iosGroups b w.fs ts).2.isEmpty = true) :=
    fun he => let ⟨t, ht, hl⟩ := hex; by rw [(iosGroups_empty_iff b).mp he t ht] at hl; cases hl
  simp only [Py.get_bind, iosGroups_mkdir b hdist h₁, hne, if_false, pure_bind] at hb
  obtain ⟨ok₁, w₂, h₂, hb⟩ := (Py.bind_eq_ok _).mp hb
  refine ⟨fs₁, ok₁, w₂, h₁, h₂, ?_⟩
  cases ok₁
  · simp only [Bool.not_false, if_true, Py.pure_apply, EStateM.Result.ok.injEq] at hb
    exact .inl ⟨rfl, hb.1.symm, hb.2.symm⟩
  simp only [Bool.not_true, Bool.false_eq_true, if_false, pure_bind] at hb
  obtain ⟨ok₂, w₃, h₃, hb⟩ := (Py.bind_eq_ok _).mp hb
  refine .inr ⟨rfl, ok₂, w₃, h₃, ?_⟩
  cases ok₂
  · simp only [Bool.not_false, if_true, Py.pure_apply, EStateM.Result.ok.injEq] at hb
    exact .inl ⟨rfl, hb.1.symm, hb.2.symm⟩
  simp only [Bool.not_true, Bool.false_eq_true, if_false, pure_bind] at hb
  obtain ⟨⟨⟩, w₄, h₄, hb⟩ := (Py.bind_eq_ok _).mp hb
  obtain ⟨⟨⟩, w₅, h₅, hb⟩ := (Py.bind_eq_ok _).mp hb
  obtain ⟨fs₆, h₆, hb⟩ := Py.onFS_bind_eq_ok.mp hb
  obtain ⟨fs₇, h₇, hb⟩ := Py.onFS_bind_eq_ok.mp hb
  obtain ⟨fs₈, h₈, hb⟩ := Py.onFS_bind_eq_ok.mp hb
  cases hb
  exact .inr ⟨rfl, rfl, w₄, w₅, fs₆, fs₇, h₄, h₅, h₆, h₇, h₈, rfl⟩

/-- The iOS bundle, from a fresh staging directory and some library present: when no
`lipo` call fails it leaves one new entry, its archive; when one fails it leaves the staging
directory and changes nothing else. -/
theorem packageIosBundle_eq_ok {ts : List Target} {r : Option Path} {w w' : World}
    (hdist : w.fs.get b.outputDir = some .dir) (hdir : w.fs.get b.iosBundleDir = none)
    (hex : ∃ t ∈ ts, w.fs.pathExists (b.iosLibPath t) = true)
    (hb : packageIosBundle h b ts w = .ok r w') :
    ∃ run, w'.calls = w.calls ++ run ∧ (∀ c ∈ run, isLipo c.1 = true) ∧
      if h.lipoFailed w.calls run then
        w'.fs.get b.iosBundleDir = some .dir ∧ ∀ q, ¬ b.iosBundleDir <+: q → w'.fs.get q = w.fs.get q
      else ∃ m, ∀ q, w'.fs.get q =
        if q = b.outputDir ++ ["rvpnse-ios.tar.gz"] then some (.archive .gztar m) else w.fs.get q := by
  obtain ⟨fs₁, ok₁, w₂, h₁, h₂, hrest⟩ := packageIosBundle_inv h b hdist hex hb
  set dir := b.iosBundleDir
  have hm₁ : w.fs.ModifiesOnly (dir <+: ·) fs₁ := FS.modifiesOnly_mkdir_below hdist h₁
  have hdir₁ : fs₁.get dir = some .dir := FS.get_of_mkdir h₁
  have hw₂ := within_makeFramework h b List.prefix_rfl _ _ _ _ h₂
  obtain ⟨run₁, hc₂, hl₂, hf₂⟩ := makeFramework_calls h b h₂
  have hout₂ : ∀ q, ¬ dir <+: q → w₂.fs.get q = w.fs.get q := fun q hq =>
    (hw₂.get_of_not_below hdir₁ hq).trans (hm₁ q hq)
  rcases hrest with ⟨rfl, -, rfl⟩ | ⟨rfl, ok₂, w₃, h₃, hrest⟩
  · exact ⟨run₁, hc₂, hl₂, by rw [hf₂]; exact ⟨hw₂.get_dir hdir₁, hout₂⟩⟩
  have hw₃ := within_makeFramework h b List.prefix_rfl _ _ _ _ h₃
  obtain ⟨run₂, hc₃, hl₃, hf₃⟩ := makeFramework_calls h b h₃
  have hdir₂ := hw₂.get_dir hdir₁
  have hcalls : w₃.calls = w.calls ++ (run₁ ++ run₂) := by rw [hc₃, hc₂, List.append_assoc]
  have hlipo : ∀ c ∈ run₁ ++ run₂, isLipo c.1 = true := fun c hc =>
    (List.mem_append.mp hc).elim (hl₂ c) (hl₃ c)
  have hfail : h.lipoFailed w.calls (run₁ ++ run₂) = !ok₂ := by
    rw [Host.lipoFailed_append, hf₂, ← hf₃, hc₂]
    rfl
  rcases hrest with ⟨rfl, -, rfl⟩ | ⟨rfl, -, w₄, w₅, fs₆, fs₇, h₄, h₅, h₆, h₇, h₈, hc⟩
  · refine ⟨run₁ ++ run₂, hcalls, hlipo, ?_⟩
    rw [hfail]
    exact ⟨hw₃.get_dir hdir₂, fun q hq => (hw₃.get_of_not_below hdir₂ hq).trans (hout₂ q hq)⟩
  have hw₆ : w.fs.ModifiesOnly (dir <+: ·) fs₆ :=
    hm₁.trans ((((hw₂.trans hw₃).trans (Py.Within.forM (fun _ => within_addFrameworkMetadata b List.prefix_rfl) _ _ _ _ h₄)).trans
      ((within_copyIfExists b.readmeFile _ _ _ h₅).trans (.of_write List.prefix_rfl h₆))).modifiesOnly hdir₁)
  obtain ⟨-, hw⟩ := FS.makeArchive_eq_ok _ h₇
  rw [gztar_appendName (by decide)] at hw
  refine ⟨run₁ ++ run₂, ?_, hlipo, ?_⟩
  · rw [hc, ← hcalls, (keepsCalls_copyIfExists _ _).calls_eq h₅,
      (Py.KeepsCalls.forM (keepsCalls_addFrameworkMetadata b) _).calls_eq h₄]
  · rw [hfail]
    exact ⟨_, FS.get_of_stage_archive hdir hw₆ (not_prefix_append_singleton (by decide)) hw h₈⟩

end RVPNSEBuilder

end RvpnseTools.Build
