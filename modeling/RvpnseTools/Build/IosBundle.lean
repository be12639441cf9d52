import RvpnseTools.Build.PackageSpec
import RvpnseTools.Build.Ios

/-!
# The members of the iOS archive

`_package_ios_bundle` stages `dist/rvpnse-ios`, fills it and archives it as
`rvpnse-ios.tar.gz`. When it returns the archive's path, the archive holds, away
from the framework binaries, exactly: a framework directory for each nonempty
group, with `Info.plist` and `Headers/`, which holds the header and the module
map when the project has the header; the project's readme when it has one; and
`install.sh` (`packageIosBundle_archive`). A group of one library is copied to
its framework's binary.

## Implementation notes

Every staging step creates one directory or writes one file, which
`FS.write_get`, `FS.mkdir_child_get` and `FS.copy2_into_get` state as an update
at one path; the members are read off their composition. What a `lipo` call writes
below a binary is up to the host, so the layout is stated away from the
binaries.
-/

namespace RvpnseTools.Build

/-- The members of a framework directory away from its binary, given what lies at the
project's header. -/
def frameworkMember (header : Option Entry) (r : Path) : Option Entry :=
  if r = [] then some .dir
  else if r = ["Info.plist"] then some (.file infoPlistContent)
  else if r = ["Headers"] then some .dir
  else if r = ["Headers", "rvpnse.h"] then header
  else if r = ["Headers", "module.modulemap"] then header.map fun _ => .file moduleMapContent
  else none

/-- The members of the iOS archive away from the framework binaries, given what lies at the
project's readme and header and which groups are nonempty. -/
def iosBundleMember (readme header : Option Entry) (device simulator : Bool) : Path → Option Entry
  | [] => none
  | c :: r =>
      if c = "rVPNSE-Device.framework" then (if device then frameworkMember header r else none)
      else if c = "rVPNSE-Simulator.framework" then (if simulator then frameworkMember header r else none)
      else if c = "README.md" ∧ r = [] then readme
      else if c = "install.sh" ∧ r = [] then some (.file iosInstallScript)
      else none

/-- `frameworkMember` with its cases in the order the metadata block writes them, last first. -/
theorem frameworkMember_eq (header : Option Entry) (r : Path) : frameworkMember header r =
    if r = ["Headers", "module.modulemap"] then header.map fun _ => .file moduleMapContent
    else if r = ["Headers", "rvpnse.h"] then header
    else if r = ["Headers"] then some .dir
    else if r = ["Info.plist"] then some (.file infoPlistContent)
    else if r = [] then some .dir else none := by
  unfold frameworkMember
  by_cases h₁ : r = ["Headers", "module.modulemap"]
  · simp [h₁]
  by_cases h₂ : r = ["Headers", "rvpnse.h"]
  · simp [h₂]
  by_cases h₃ : r = ["Headers"]
  · simp [h₃]
  by_cases h₄ : r = ["Info.plist"]
  · simp [h₄]
  simp only [h₁, h₂, h₃, h₄, if_false]

namespace RVPNSEBuilder

variable (h : Host) (b : RVPNSEBuilder)

/-- A framework block makes its directory when its group is nonempty and changes nothing
else there away from the binary. -/
theorem makeFramework_members {name : String} {group : List (Target × Path)} {ok : Bool} {w w' : World}
    (hD : w.fs.get b.iosBundleDir = some .dir) (hfw : w.fs.get (b.iosBundleDir ++ [name]) = none)
    (hb : makeFramework h b name group w = .ok ok w') :
    w.fs.ModifiesOnly (b.iosBundleDir ++ [name] <+: ·) w'.fs ∧
      ∀ r, ¬ ["rVPNSE"] <+: r → w'.fs.get (b.iosBundleDir ++ name :: r) =
        if !group.isEmpty then (if r = [] then some .dir else none) else none := by
  have hbelow : ∀ r, w.fs.get (b.iosBundleDir ++ name :: r) = none := fun r =>
    w.fs.get_eq_none_below hfw ((prefix_append_cons_iff _ _ _ _).mpr List.nil_prefix)
  unfold makeFramework at hb
  dsimp only at hb
  split at hb
  · cases hb
    exact ⟨.refl _, fun r _ => by simp [*]⟩
  rename_i hne
  rw [pure_bind] at hb
  obtain ⟨fs₁, h₁, hb⟩ := Py.onFS_bind_eq_ok.mp hb
  have hg₁ := FS.mkdir_child_get hD h₁
  have hstep : fs₁.ModifiesOnly (b.iosBundleDir ++ [name] ++ ["rVPNSE"] <+: ·) w'.fs := by
    split at hb
    · obtain ⟨fs₂, h₂, hb⟩ := Py.onFS_bind_eq_ok.mp hb
      cases hb
      exact FS.modifiesOnly_of_copy2 h₂
    · rw [runCommand_apply] at hb
      cases hb
      exact FS.modifiesOnly_putFiles_below (FS.get_of_mkdir h₁) _
  refine ⟨fun q hq => ?_, fun r hr => ?_⟩
  · rw [hstep q fun h' => hq ((List.prefix_append _ _).trans h'), hg₁,
      if_neg fun h' : q = _ => hq (h' ▸ List.prefix_rfl)]
  · have hr' : ¬ b.iosBundleDir ++ [name] ++ ["rVPNSE"] <+: b.iosBundleDir ++ name :: r := by
      simpa [prefix_append_cons_iff] using hr
    rw [hstep _ hr', hg₁, hbelow]
    cases r <;> simp [hne]

/-- A group of one library puts a copy of it at the framework's binary. -/
theorem makeFramework_single {name : String} {t : Target} {lib : Path} {ok : Bool} {w w' : World}
    (hD : w.fs.get b.iosBundleDir = some .dir) (hfw : w.fs.get (b.iosBundleDir ++ [name]) = none)
    (hb : makeFramework h b name [(t, lib)] w = .ok ok w') :
    w'.fs.get (b.iosBundleDir ++ [name, "rVPNSE"]) = w.fs.get lib := by
  simp only [makeFramework, List.isEmpty_cons, Bool.false_eq_true, if_false, pure_bind] at hb
  obtain ⟨fs₁, h₁, hb⟩ := Py.onFS_bind_eq_ok.mp hb
  obtain ⟨fs₂, h₂, hb⟩ := Py.onFS_bind_eq_ok.mp hb
  cases hb
  have hg₁ := FS.mkdir_child_get hD h₁
  have hbin : fs₁.isDir (b.iosBundleDir ++ [name] ++ ["rVPNSE"]) = false := by
    have hn : w.fs.get (b.iosBundleDir ++ [name, "rVPNSE"]) = none :=
      w.fs.get_eq_none_below hfw ((prefix_append_cons_iff _ _ _ _).mpr List.nil_prefix)
    simp [FS.isDir, hg₁, hn]
  obtain ⟨e, hs, hne, -⟩ := FS.copy2_eq_ok _ h₂
  rw [FS.copy2_onto_get hbin h₂, if_pos (by simp), hg₁, if_neg]
  rintro rfl
  rw [hg₁, if_pos rfl] at hs
  exact hne (Option.some.inj hs).symm

theorem headerFile_not_below : ¬ b.iosBundleDir <+: b.headerFile := fun h =>
  not_outputDir_below_headerFile b ((List.prefix_append _ _).trans h)

theorem readmeFile_not_below : ¬ b.iosBundleDir <+: b.readmeFile := fun h =>
  not_outputDir_below_readmeFile b ((List.prefix_append _ _).trans h)

/-- The metadata block fills a framework directory that exists with `Info.plist` and
`Headers/`, and the header and the module map when the project has the header; a missing
one it leaves alone. -/
theorem addFrameworkMetadata_members {name : String} {present : Bool} {w w' : World}
    (hfw : ∀ r, ¬ ["rVPNSE"] <+: r → w.fs.get (b.iosBundleDir ++ name :: r) =
      if present then (if r = [] then some .dir else none) else none)
    (hb : addFrameworkMetadata b name w = .ok () w') :
    w.fs.ModifiesOnly (fun q => ∃ r, q = b.iosBundleDir ++ name :: r ∧ ¬ ["rVPNSE"] <+: r) w'.fs ∧
      ∀ r, ¬ ["rVPNSE"] <+: r → w'.fs.get (b.iosBundleDir ++ name :: r) =
        if present then frameworkMember (w.fs.get b.headerFile) r else none := by
  have hdir := hfw [] (by decide)
  have hex : w.fs.pathExists (b.iosBundleDir ++ [name]) = present := by
    cases present <;> simp_all [FS.pathExists]
  unfold addFrameworkMetadata at hb
  dsimp only at hb
  rw [Py.pathExists_bind, hex] at hb
  cases present
  · simp only [Bool.false_eq_true, if_false, Py.pure_apply, EStateM.Result.ok.injEq] at hb
    obtain ⟨-, rfl⟩ := hb
    exact ⟨.refl _, fun r hr => by rw [hfw r hr]; rfl⟩
  simp only [if_true] at hdir hb
  obtain ⟨fs₁, h₁, hb⟩ := Py.onFS_bind_eq_ok.mp hb
  obtain ⟨fs₂, h₂, hb⟩ := Py.onFS_bind_eq_ok.mp hb
  rw [Py.pathExists_bind] at hb
  have hg₁ : ∀ q, fs₁.get q = if q = b.iosBundleDir ++ [name, "Info.plist"] then
      some (.file infoPlistContent) else w.fs.get q := by
    simpa only [List.append_assoc, List.singleton_append] using FS.write_get h₁
  have hdir₁ : fs₁.get (b.iosBundleDir ++ [name]) = some .dir := by simp [hg₁, hdir]
  have hg₂ : ∀ q, fs₂.get q = if q = b.iosBundleDir ++ [name, "Headers"] then some .dir else fs₁.get q := by
    simpa only [List.append_assoc, List.singleton_append] using FS.mkdir_child_get hdir₁ h₂
  have hnb : ∀ r, b.headerFile ≠ b.iosBundleDir ++ r := fun r he =>
    headerFile_not_below b (he ▸ List.prefix_append _ _)
  have hhd : fs₂.get b.headerFile = w.fs.get b.headerFile := by simp [hg₂, hg₁, hnb]
  have hfin : ∀ q, w'.fs.get q =
      if q = b.iosBundleDir ++ [name, "Headers", "module.modulemap"] then
        (w.fs.get b.headerFile).map fun _ => .file moduleMapContent
      else if q = b.iosBundleDir ++ [name, "Headers", "rvpnse.h"] then w.fs.get b.headerFile
      else fs₂.get q := by
    split at hb
    next hh =>
      obtain ⟨fs₃, h₃, hb⟩ := Py.onFS_bind_eq_ok.mp hb
      obtain ⟨fs₄, h₄, rfl⟩ := (Py.onFS_eq_ok _ _).mp hb
      have hbase : FS.baseName b.headerFile = "rvpnse.h" := by simp [FS.baseName, headerFile]
      have hH : fs₂.get (b.iosBundleDir ++ [name] ++ ["Headers"]) = some .dir := by simp [hg₂]
      have hh' : (w.fs.get b.headerFile).isSome = true := by rw [← hhd]; exact hh
      obtain ⟨e, he⟩ := Option.isSome_iff_exists.mp hh'
      intro q
      rw [FS.write_get h₄, FS.copy2_into_get hH h₃, hbase, hhd, he]
      simp only [List.append_assoc, List.singleton_append, List.cons_append, List.nil_append, Option.map_some']
    next hh =>
      simp only [Py.pure_apply, EStateM.Result.ok.injEq] at hb
      obtain ⟨-, rfl⟩ := hb
      have hnone : w.fs.get b.headerFile = none := by simpa [hhd, FS.pathExists] using hh
      intro q
      split_ifs with h₁ h₂ <;> simp only [hnone, Option.map_none'] <;> subst q
      · simp [hg₂, hg₁, hfw ["Headers", "module.modulemap"] (by decide)]
      · simp [hg₂, hg₁, hfw ["Headers", "rvpnse.h"] (by decide)]
  refine ⟨fun q hq => ?_, fun r hr => ?_⟩
  · have hne : ∀ r, ¬ ["rVPNSE"] <+: r → q ≠ b.iosBundleDir ++ name :: r := fun r hr he => hq ⟨r, he, hr⟩
    rw [hfin, if_neg (hne _ (by decide)), if_neg (hne _ (by decide)), hg₂, if_neg (hne _ (by decide)),
      hg₁, if_neg (hne _ (by decide))]
  · rw [hfin, hg₂, hg₁, hfw r hr, frameworkMember_eq]
    simp only [List.append_cancel_left_eq, List.cons.injEq, true_and, if_true]

/-- The staging directory after the two framework blocks and the metadata loop, from a fresh
one: each nonempty group has its framework with its metadata, nothing else lies there away
from the binaries, and a group of one library has a copy of it as its binary. -/
theorem stageFrameworks_members {device simulator : List (Target × Path)} {fs₁ : FS} {calls : List Call}
    {ok₁ ok₂ : Bool} {w₂ w₃ w₄ : World} (hD : fs₁.get b.iosBundleDir = some .dir)
    (hnew : ∀ c r, fs₁.get (b.iosBundleDir ++ c :: r) = none)
    (h₂ : makeFramework h b "rVPNSE-Device.framework" device ⟨fs₁, calls⟩ = .ok ok₁ w₂)
    (h₃ : makeFramework h b "rVPNSE-Simulator.framework" simulator w₂ = .ok ok₂ w₃)
    (h₄ : frameworkNames.forM (addFrameworkMetadata b) w₃ = .ok () w₄) :
    fs₁.Within b.iosBundleDir w₄.fs ∧
      (∀ c r, (∀ n ∈ frameworkNames, c = n → ¬ ["rVPNSE"] <+: r) →
        w₄.fs.get (b.iosBundleDir ++ c :: r) =
          if c = "rVPNSE-Device.framework" then
            (if !device.isEmpty then frameworkMember (fs₁.get b.headerFile) r else none)
          else if c = "rVPNSE-Simulator.framework" then
            (if !simulator.isEmpty then frameworkMember (fs₁.get b.headerFile) r else none)
          else none) ∧
      (∀ t, device = [(t, b.iosLibPath t)] →
        w₄.fs.get (b.iosBundleDir ++ ["rVPNSE-Device.framework", "rVPNSE"]) = fs₁.get (b.iosLibPath t)) ∧
      (∀ t, simulator = [(t, b.iosLibPath t)] →
        w₄.fs.get (b.iosBundleDir ++ ["rVPNSE-Simulator.framework", "rVPNSE"]) = fs₁.get (b.iosLibPath t)) := by
  set D := b.iosBundleDir
  have hapart : ∀ {c n : String} {r : Path}, c ≠ n → ¬ D ++ [n] <+: D ++ c :: r := fun hc =>
    (Path.apart_append_cons D [] _ (Ne.symm hc)).1
  have hother : ∀ {c n : String} {r : Path}, c ≠ n →
      ¬ ∃ r', D ++ c :: r = D ++ n :: r' ∧ ¬ ["rVPNSE"] <+: r' := fun hc ⟨_, he, _⟩ =>
    hc (List.cons.inj (List.append_cancel_left he)).1
  have hbinary : ∀ {n : String}, ¬ ∃ r', D ++ [n, "rVPNSE"] = D ++ n :: r' ∧ ¬ ["rVPNSE"] <+: r' :=
    fun ⟨_, he, hr'⟩ => hr' ((List.cons.inj (List.append_cancel_left he)).2 ▸ List.prefix_rfl)
  have hout : ∀ {fs : FS} (q : Path), fs₁.Within D fs → ¬ D <+: q → fs.get q = fs₁.get q :=
    fun _ hw hq => hw.get_of_not_below hD hq
  have hlib : ∀ t, ¬ D <+: b.iosLibPath t := fun t =>
    (apart_outputDir_buildDir b ["rvpnse-ios"] [t.rustTarget, b.mode.value, "librvpnse.dylib"]).1
  -- the two framework blocks
  obtain ⟨fr₂, mem₂⟩ := makeFramework_members h b hD (hnew _ []) h₂
  have hwf₂ : fs₁.Within D w₂.fs := within_makeFramework h b List.prefix_rfl _ _ _ _ h₂
  have hsim₂ : w₂.fs.get (D ++ ["rVPNSE-Simulator.framework"]) = none := by
    rw [fr₂ _ (hapart (by decide)), hnew]
  obtain ⟨fr₃, mem₃⟩ := makeFramework_members h b (hwf₂.get_dir hD) hsim₂ h₃
  have hwf₃ : fs₁.Within D w₃.fs := hwf₂.trans (within_makeFramework h b List.prefix_rfl _ _ _ _ h₃)
  -- the metadata loop
  simp only [frameworkNames, List.forM_cons, List.forM_nil] at h₄
  obtain ⟨⟨⟩, w₃', h₄', h₄⟩ := (Py.bind_eq_ok _).mp h₄
  obtain ⟨⟨⟩, w₄', h₄'', h₄⟩ := (Py.bind_eq_ok _).mp h₄
  cases h₄
  obtain ⟨fr₄', mem₄'⟩ := addFrameworkMetadata_members b (fun r hr => by
    rw [fr₃ _ (hapart (by decide)), mem₂ r hr]) h₄'
  have hwf₄' : fs₁.Within D w₃'.fs := hwf₃.trans (within_addFrameworkMetadata b List.prefix_rfl _ _ _ h₄')
  obtain ⟨fr₄, mem₄⟩ := addFrameworkMetadata_members b (fun r hr => by
    rw [fr₄' _ (hother (by decide)), mem₃ r hr]) h₄''
  refine ⟨hwf₄'.trans (within_addFrameworkMetadata b List.prefix_rfl _ _ _ h₄''), fun c r hr => ?_,
    fun t ht => ?_, fun t ht => ?_⟩
  · by_cases hc : c = "rVPNSE-Device.framework"
    · subst hc
      rw [if_pos rfl, fr₄ _ (hother (by decide)), mem₄' r (hr _ (.head _) rfl),
        hout _ hwf₃ (headerFile_not_below b)]
    by_cases hc' : c = "rVPNSE-Simulator.framework"
    · subst hc'
      rw [if_neg hc, if_pos rfl, mem₄ r (hr _ (.tail _ (.head _)) rfl), hout _ hwf₄' (headerFile_not_below b)]
    rw [if_neg hc, if_neg hc', fr₄ _ (hother hc'), fr₄' _ (hother hc), fr₃ _ (hapart hc'), fr₂ _ (hapart hc),
      hnew]
  · subst ht
    rw [fr₄ _ (hother (by decide)), fr₄' _ hbinary, fr₃ _ (hapart (by decide)),
      makeFramework_single h b hD (hnew _ []) h₂]
  · subst ht
    rw [fr₄ _ hbinary, fr₄' _ (hother (by decide)), makeFramework_single h b (hwf₂.get_dir hD) hsim₂ h₃,
      hout _ hwf₂ (hlib t)]

/-- When `_package_ios_bundle`, from a fresh staging directory and a library for every target,
returns an archive, the archive holds exactly the members `iosBundleMember` names away from
the framework binaries, and a group of one library has a copy of it as its binary. -/
theorem packageIosBundle_archive {ts : List Target} {a : Path} {w w' : World}
    (hdist : w.fs.get b.outputDir = some .dir) (hdir : w.fs.get b.iosBundleDir = none)
    (hlibs : ∀ t ∈ ts, w.fs.pathExists (b.iosLibPath t) = true) (hts : ts ≠ [])
    (hb : packageIosBundle h b ts w = .ok (some a) w') :
    a = b.outputDir ++ ["rvpnse-ios.tar.gz"] ∧ ∃ m, w'.fs.get a = some (.archive .gztar m) ∧
      (∀ p, (∀ n ∈ frameworkNames, ¬ [n, "rVPNSE"] <+: p) →
        m p = iosBundleMember (w.fs.get b.readmeFile) (w.fs.get b.headerFile)
          (!(iosGroups b w.fs ts).1.isEmpty) (!(iosGroups b w.fs ts).2.isEmpty) p) ∧
      (∀ t, (iosGroups b w.fs ts).1 = [(t, b.iosLibPath t)] →
        m ["rVPNSE-Device.framework", "rVPNSE"] = w.fs.get (b.iosLibPath t)) ∧
      (∀ t, (iosGroups b w.fs ts).2 = [(t, b.iosLibPath t)] →
        m ["rVPNSE-Simulator.framework", "rVPNSE"] = w.fs.get (b.iosLibPath t)) := by
  obtain ⟨t₀, ht₀⟩ := List.exists_mem_of_ne_nil ts hts
  obtain ⟨fs₁, ok₁, w₂, h₁, h₂, hrest⟩ := packageIosBundle_inv h b hdist ⟨t₀, ht₀, hlibs t₀ ht₀⟩ hb
  rcases hrest with ⟨-, hr, -⟩ | ⟨rfl, ok₂, w₃, h₃, hrest⟩
  · cases hr
  rcases hrest with ⟨-, hr, -⟩ | ⟨rfl, hr, w₄, w₅, fs₆, fs₇, h₄, h₅, h₆, h₇, h₈, -⟩
  · cases hr
  cases hr
  set D := b.iosBundleDir
  -- the fresh staging directory
  have hg₁ : ∀ q, fs₁.get q = if q = D then some .dir else w.fs.get q := FS.mkdir_child_get hdist h₁
  have hD₁ : fs₁.get D = some .dir := by rw [hg₁, if_pos rfl]
  have hnew : ∀ c r, fs₁.get (D ++ c :: r) = none := fun c r => by
    rw [hg₁, if_neg (by simp), w.fs.get_eq_none_below hdir (List.prefix_append _ _)]
  have hout : ∀ q, ¬ D <+: q → fs₁.get q = w.fs.get q := fun q hq =>
    (hg₁ q).trans (if_neg fun h' : q = D => hq (h' ▸ List.prefix_rfl))
  have hlib : ∀ t, ¬ D <+: b.iosLibPath t := fun t =>
    (apart_outputDir_buildDir b ["rvpnse-ios"] [t.rustTarget, b.mode.value, "librvpnse.dylib"]).1
  obtain ⟨hwf₄, hmem, hdev, hsim⟩ := stageFrameworks_members h b hD₁ hnew h₂ h₃ h₄
  rw [hout _ (headerFile_not_below b)] at hmem
  -- the readme, the installer and the archive
  have hreadme : FS.baseName b.readmeFile = "README.md" := by simp [FS.baseName, readmeFile]
  have hg₅ := copyIfExists_get_into (hwf₄.get_dir hD₁) (by rw [hreadme, hmem _ _ (by simp)]; simp) h₅
  rw [hreadme, hwf₄.get_of_not_below hD₁ (readmeFile_not_below b), hout _ (readmeFile_not_below b)] at hg₅
  have hg₆ : ∀ c r, fs₆.get (D ++ c :: r) =
      if c = "install.sh" ∧ r = [] then some (.file iosInstallScript)
      else if c = "README.md" ∧ r = [] then w.fs.get b.readmeFile else w₄.fs.get (D ++ c :: r) := by
    intro c r
    simp only [FS.write_get h₆, hg₅, List.append_cancel_left_eq, List.cons.injEq]
  obtain ⟨-, hw⟩ := FS.makeArchive_eq_ok _ h₇
  rw [gztar_appendName (by decide)] at hw
  refine ⟨rfl, fs₆.subtree D, FS.get_of_write_rmtree (not_prefix_append_singleton (by decide)) hw h₈,
    fun p hp => ?_, fun t ht => ?_, fun t ht => ?_⟩
  · cases p with
    | nil => rfl
    | cons c r =>
        have hr : ∀ n ∈ frameworkNames, c = n → ¬ ["rVPNSE"] <+: r := fun n hn hc hpre =>
          hp n hn (hc ▸ List.cons_prefix_cons.mpr ⟨rfl, hpre⟩)
        rw [FS.subtree_cons, hg₆, hmem c r hr, iosBundleMember]
        by_cases hd : c = "rVPNSE-Device.framework"
        · simp [hd]
        by_cases hs : c = "rVPNSE-Simulator.framework"
        · simp [hs]
        by_cases hi : c = "install.sh" ∧ r = [] <;> simp [hi, hd, hs]
  · rw [FS.subtree_cons, hg₆, if_neg (by simp), if_neg (by simp), hdev t ht, hout _ (hlib t)]
  · rw [FS.subtree_cons, hg₆, if_neg (by simp), if_neg (by simp), hsim t ht, hout _ (hlib t)]

end RVPNSEBuilder

/-- `ios-arm64` alone, in a project without a readme or a header: the archive holds the device
framework, with `Info.plist`, an empty `Headers/` and a copy of the library, and `install.sh`. -/
theorem packageIosBundle_archive_arm64 :
    ∃ w', (⟨["proj"], .release, none⟩ : RVPNSEBuilder).packageIosBundle macHost [iosArm64]
        ⟨iosArm64Built, []⟩ = .ok (some ["proj", "dist", "rvpnse-ios.tar.gz"]) w' ∧
      ∃ m, w'.fs.get ["proj", "dist", "rvpnse-ios.tar.gz"] = some (.archive .gztar m) ∧
        (∀ p, (∀ n ∈ RVPNSEBuilder.frameworkNames, ¬ [n, "rVPNSE"] <+: p) →
          m p = iosBundleMember none none true false p) ∧
        m ["rVPNSE-Device.framework", "rVPNSE"] = some (.file "") := by
  obtain ⟨w', hrun⟩ : ∃ w', (⟨["proj"], .release, none⟩ : RVPNSEBuilder).packageIosBundle macHost [iosArm64]
      ⟨iosArm64Built, []⟩ = .ok (some ["proj", "dist", "rvpnse-ios.tar.gz"]) w' := ⟨_, rfl⟩
  obtain ⟨-, m, hm, hmem, hdev, -⟩ := RVPNSEBuilder.packageIosBundle_archive macHost _
    ((FS.isDir_iff _).mp (by decide)) (Option.isNone_iff_eq_none.mp (by decide)) (by decide)
    (List.cons_ne_nil _ _) hrun
  exact ⟨w', hrun, m, hm, fun p hp => (hmem p hp).trans rfl, (hdev iosArm64 rfl).trans rfl⟩

end RvpnseTools.Build
