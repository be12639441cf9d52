import RvpnseTools.Build.Package

/-!
# The frameworks of the iOS bundle

`_package_ios_bundle` files each requested iOS target whose library exists
under the device group (triple `aarch64-apple-ios`) or the simulator group,
then copies a group of one entry and merges a longer group with one `lipo`
call. It counts entries, not distinct triples, and `build` passes repeated
names through: a batch naming `ios-arm64` twice gives a device group of two
entries with one library, which goes to `lipo` twice instead of being copied.
-/

namespace RvpnseTools.Build

namespace RVPNSEBuilder

variable (h : Host) (b : RVPNSEBuilder)

/-- The bundle steps after both frameworks start no process. -/
theorem keepsCalls_iosBundleTail :
    Py.KeepsCalls (do
      frameworkNames.forM (addFrameworkMetadata b)
      copyIfExists b.readmeFile b.iosBundleDir
      Py.onFS fun fs => fs.writeText (b.iosBundleDir ++ ["install.sh"]) iosInstallScript
      Py.onFS fun fs => fs.makeArchive (b.outputDir ++ [stripSuffix (stripSuffix "rvpnse-ios.tar.gz")])
        .gztar b.iosBundleDir
      (fun _ => some (b.outputDir ++ ["rvpnse-ios.tar.gz"])) <$>
        Py.onFS fun fs => fs.rmtree b.iosBundleDir) :=
  (Py.KeepsCalls.forM (keepsCalls_addFrameworkMetadata b) _).bind fun _ =>
    (keepsCalls_copyIfExists _ _).bind fun _ => (Py.keepsCalls_onFS _).bind fun _ =>
      (Py.keepsCalls_onFS _).bind fun _ => (Py.keepsCalls_onFS _).map _

/-- A device target requested twice makes the one process of the bundle a `lipo` that
merges its library with itself. -/
theorem packageIosBundle_repeated_device (t : Target) (w : World)
    (ht : t.rustTarget = iosDeviceTriple)
    (hdist : w.fs.get b.outputDir = some .dir) (hbundle : w.fs.get b.iosBundleDir = none)
    (hlib : w.fs.pathExists (b.iosLibPath t) = true) :
    (Py.after (packageIosBundle h b [t, t] w)).calls =
      w.calls ++ [(lipoCreate (b.iosBundleDir ++ ["rVPNSE-Device.framework", "rVPNSE"])
        [b.iosLibPath t, b.iosLibPath t], h.environ)] := by
  have hf₁ : w.fs.prefixesFree b.iosBundleDir = true := FS.prefixesFree_append_singleton _ hdist hbundle
  set fs₁ := w.fs.mkdirs b.iosBundleDir hf₁ with hfs₁
  have happ : Path.Apart b.iosBundleDir (b.iosLibPath t) := by
    simpa [iosBundleDir, outputDir, iosLibPath, libPath, buildDir] using
      Path.apart_append_cons b.projectRoot ["rvpnse-ios"] [t.rustTarget, b.mode.value, "librvpnse.dylib"]
        (show "dist" ≠ "target" by decide)
  have hgroups : iosGroups b fs₁ [t, t] = ([(t, b.iosLibPath t), (t, b.iosLibPath t)], []) := by
    have : fs₁.pathExists (b.iosLibPath t) = true := by
      rwa [FS.pathExists, hfs₁, FS.mkdirs_get_of_apart _ _ happ]
    simp [iosGroups, this, ht]
  have hdir₁ : fs₁.get b.iosBundleDir = some .dir := by simp [hfs₁, hbundle]
  have hfw : fs₁.get (b.iosBundleDir ++ ["rVPNSE-Device.framework"]) = none := by
    have : ¬ b.iosBundleDir ++ ["rVPNSE-Device.framework"] <+: b.iosBundleDir :=
      not_prefix_of_length_lt (by simp)
    simp [hfs₁, this, w.fs.get_eq_none_below hbundle (List.prefix_append _ _)]
  have hf₂ := FS.prefixesFree_append_singleton _ hdir₁ hfw
  simp only [packageIosBundle, Py.bind_apply, Py.onFS_apply,
    FS.mkdir_parents_of_get_none _ hbundle hf₁, Py.get_apply, ← hfs₁, hgroups]
  simp [makeFramework, FS.mkdir_parents_of_get_none _ hfw hf₂]
  exact Py.KeepsCalls.ite (keepsCalls_iosBundleTail b) (Py.keepsCalls_pure _) _

end RVPNSEBuilder

/-- `ios-arm64`, as the registry holds it. -/
def iosArm64 : Target := ⟨"ios-arm64", "aarch64-apple-ios", .ios, "arm64", none, none⟩

/-- A project `/proj` whose `dist/` holds a desktop package and whose `ios-arm64` library
is built in release mode. -/
def iosArm64Built : FS :=
  (FS.root.putFile ["proj", "target", "aarch64-apple-ios", "release", "librvpnse.dylib"] "").putFile
    ["proj", "dist", "rvpnse-linux-x64.tar.gz"] ""

/-- A macOS host with `cargo`, whose every process exits with 0 and writes nothing. -/
def macHost : Host := ⟨fun _ => true, "Darwin", "arm64", [], ["home"], ["proj"], fun _ _ => ⟨0, []⟩⟩

theorem packageIosBundle_ios_arm64_twice :
    (Py.after ((⟨["proj"], .release, none⟩ : RVPNSEBuilder).packageIosBundle macHost
      [iosArm64, iosArm64] ⟨iosArm64Built, []⟩)).calls =
      [(RVPNSEBuilder.lipoCreate ["proj", "dist", "rvpnse-ios", "rVPNSE-Device.framework", "rVPNSE"]
        [["proj", "target", "aarch64-apple-ios", "release", "librvpnse.dylib"],
         ["proj", "target", "aarch64-apple-ios", "release", "librvpnse.dylib"]], [])] :=
  RVPNSEBuilder.packageIosBundle_repeated_device macHost _ iosArm64 ⟨iosArm64Built, []⟩ rfl
    ((FS.isDir_iff _).mp (by decide)) (Option.isNone_iff_eq_none.mp (by decide)) (by decide)

end RvpnseTools.Build
