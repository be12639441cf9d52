import RvpnseTools.Build.Host

/-!
# The packagers of `tools/build.py`

Three policies turn built libraries into deliverables under `dist/`: one
archive per desktop target, one Android bundle of `jniLibs/<arch>` libraries,
and one iOS bundle of a device and a simulator framework. Each builds a
staging directory, archives it, and removes it.

## Implementation notes

The installer scripts and framework metadata are the source's texts, kept
verbatim as lists of lines. The two framework blocks of
`_package_ios_bundle` differ only in their directory and group, and are one
definition here.
-/

namespace RvpnseTools.Build

/-- The `install.sh` of the Android bundle. -/
def androidInstallScript : String := "\n".intercalate
  ["#!/bin/bash",
   "# rVPNSE Android Library Installer",
   "",
   "set -e",
   "",
   "if [ -z \"$1\" ]; then",
   "    echo \"Usage: $0 <flutter_project_path>\"",
   "    echo \"Example: $0 /path/to/WorxVPN\"",
   "    exit 1",
   "fi",
   "",
   "FLUTTER_PROJECT=\"$1\"",
   "JNI_LIBS_DIR=\"$FLUTTER_PROJECT/android/app/src/main/jniLibs\"",
   "",
   "if [ ! -d \"$FLUTTER_PROJECT\" ]; then",
   "    echo \"Error: Flutter project not found: $FLUTTER_PROJECT\"",
   "    exit 1",
   "fi",
   "",
   "echo \"Installing rVPNSE Android libraries to $JNI_LIBS_DIR\"",
   "",
   "# Remove old libraries",
   "rm -rf \"$JNI_LIBS_DIR\"",
   "mkdir -p \"$JNI_LIBS_DIR\"",
   "",
   "# Copy new libraries",
   "cp -r jniLibs/* \"$JNI_LIBS_DIR/\"",
   "",
   "echo \"Installation complete!\"",
   "echo \"Libraries installed:\"",
   "find \"$JNI_LIBS_DIR\" -name \"*.so\" -type f",
   ""]

/-- `info_plist_content`: the `Info.plist` of each framework. -/
def infoPlistContent : String := "\n".intercalate
  ["<?xml version=\"1.0\" encoding=\"UTF-8\"?>",
   "<!DOCTYPE plist PUBLIC \"-//Apple//DTD PLIST 1.0//EN\" \"http://www.apple.com/DTDs/PropertyList-1.0.dtd\">",
   "<plist version=\"1.0\">",
   "<dict>",
   "    <key>CFBundleDevelopmentRegion</key>",
   "    <string>en</string>",
   "    <key>CFBundleExecutable</key>",
   "    <string>rVPNSE</string>",
   "    <key>CFBundleIdentifier</key>",
   "    <string>com.devstroop.rvpnse</string>",
   "    <key>CFBundleInfoDictionaryVersion</key>",
   "    <string>6.0</string>",
   "    <key>CFBundleName</key>",
   "    <string>rVPNSE</string>",
   "    <key>CFBundlePackageType</key>",
   "    <string>FMWK</string>",
   "    <key>CFBundleShortVersionString</key>",
   "    <string>1.0.0</string>",
   "    <key>CFBundleSignature</key>",
   "    <string>????</string>",
   "    <key>CFBundleVersion</key>",
   "    <string>1</string>",
   "    <key>MinimumOSVersion</key>",
   "    <string>11.0</string>",
   "</dict>",
   "</plist>"]

/-- `module_map_content`: the module map naming the public header. -/
def moduleMapContent : String := "\n".intercalate
  ["framework module rVPNSE \x7b",
   "    header \"rvpnse.h\"",
   "    export *",
   "\x7d"]

/-- The `install.sh` of the iOS bundle. -/
def iosInstallScript : String := "\n".intercalate
  ["#!/bin/bash",
   "# rVPNSE iOS Framework Installer",
   "",
   "set -e",
   "",
   "if [ -z \"$1\" ]; then",
   "    echo \"Usage: $0 <ios_project_path>\"",
   "    echo \"Example: $0 /path/to/WorxVPN/ios\"",
   "    exit 1",
   "fi",
   "",
   "IOS_PROJECT=\"$1\"",
   "DEVICE_FRAMEWORK=\"rVPNSE-Device.framework\"",
   "SIMULATOR_FRAMEWORK=\"rVPNSE-Simulator.framework\"",
   "",
   "if [ ! -d \"$IOS_PROJECT\" ]; then",
   "    echo \"Error: iOS project not found: $IOS_PROJECT\"",
   "    exit 1",
   "fi",
   "",
   "# Find the Runner.xcodeproj",
   "XCODEPROJ=$(find \"$IOS_PROJECT\" -name \"*.xcodeproj\" | head -n 1)",
   "if [ -z \"$XCODEPROJ\" ]; then",
   "    echo \"Error: No Xcode project found in $IOS_PROJECT\"",
   "    exit 1",
   "fi",
   "",
   "FRAMEWORKS_DIR=\"$IOS_PROJECT/Frameworks\"",
   "mkdir -p \"$FRAMEWORKS_DIR\"",
   "",
   "echo \"Installing rVPNSE frameworks to $FRAMEWORKS_DIR\"",
   "",
   "# Remove old frameworks",
   "rm -rf \"$FRAMEWORKS_DIR/$DEVICE_FRAMEWORK\"",
   "rm -rf \"$FRAMEWORKS_DIR/$SIMULATOR_FRAMEWORK\"",
   "",
   "# Copy new frameworks",
   "if [ -d \"$DEVICE_FRAMEWORK\" ]; then",
   "    cp -r \"$DEVICE_FRAMEWORK\" \"$FRAMEWORKS_DIR/\"",
   "    echo \"Device framework installed\"",
   "fi",
   "",
   "if [ -d \"$SIMULATOR_FRAMEWORK\" ]; then",
   "    cp -r \"$SIMULATOR_FRAMEWORK\" \"$FRAMEWORKS_DIR/\"",
   "    echo \"Simulator framework installed\"",
   "fi",
   "",
   "echo \"Installation complete!\"",
   "echo \"\"",
   "echo \"Manual steps required:\"",
   "echo \"1. Open your iOS project in Xcode\"",
   "echo \"2. Add the appropriate framework to your project:\"",
   "echo \"   - Use rVPNSE-Device.framework for device builds\"",
   "echo \"   - Use rVPNSE-Simulator.framework for simulator builds\"",
   "echo \"3. Embed the framework in your target\"",
   "echo \"4. Consider creating build phases to automatically select the correct framework\"",
   ""]

namespace RVPNSEBuilder

/-- `self.project_root / "include" / "rvpnse.h"`. -/
def headerFile (b : RVPNSEBuilder) : Path := b.projectRoot ++ ["include", "rvpnse.h"]

/-- `self.project_root / "README.md"`. -/
def readmeFile (b : RVPNSEBuilder) : Path := b.projectRoot ++ ["README.md"]

/-- `self.build_dir / target.rust_target / mode_dir / lib`. -/
def libPath (b : RVPNSEBuilder) (t : Target) (lib : String) : Path :=
  b.buildDir ++ [t.rustTarget, b.mode.value, lib]

/-- The staging directory of a desktop package. -/
def packageDir (b : RVPNSEBuilder) (t : Target) : Path := b.outputDir ++ ["rvpnse-" ++ t.name]

/-- The file name of a desktop archive: `rvpnse-<name>.zip` on Windows, `.tar.gz` elsewhere. -/
def archiveName (t : Target) : String :=
  if t.platform = .windows then "rvpnse-" ++ t.name ++ ".zip" else "rvpnse-" ++ t.name ++ ".tar.gz"

/-- The format `_package_target` archives a desktop target in. -/
def archiveFormat (t : Target) : ArchiveFormat := if t.platform = .windows then .zip else .gztar

/-- The archive `_package_target` reports for a desktop target. -/
def archivePath (b : RVPNSEBuilder) (t : Target) : Path := b.outputDir ++ [archiveName t]

/-- The staging directory of the Android bundle. -/
def androidBundleDir (b : RVPNSEBuilder) : Path := b.outputDir ++ ["rvpnse-android"]

/-- The staging directory of the iOS bundle. -/
def iosBundleDir (b : RVPNSEBuilder) : Path := b.outputDir ++ ["rvpnse-ios"]

/-- The two framework directories, in the order the metadata loop visits them. -/
def frameworkNames : List String := ["rVPNSE-Device.framework", "rVPNSE-Simulator.framework"]

variable (h : Host) (b : RVPNSEBuilder)

/-- `if src.exists(): shutil.copy2(src, dst)`. -/
def copyIfExists (src dst : Path) : Py Unit := do
  if ← Py.pathExists src then Py.onFS (·.copy2 src dst)

/-- `_package_target`: stage the library, header and readme, archive them as zip
on Windows and gzip-tar elsewhere, and remove the staging directory. -/
def packageTarget (t : Target) : Py (Option Path) := do
  let lib := b.libPath t (getLibraryName t)
  if !(← Py.pathExists lib) then return none
  let dir := b.packageDir t
  Py.onFS (·.mkdir dir true true)
  Py.onFS (·.copy2 lib dir)
  copyIfExists b.headerFile dir
  copyIfExists b.readmeFile dir
  let archive := b.archivePath t
  if t.platform = .windows then Py.onFS (·.makeArchive archive.withoutSuffix .zip dir)
  else Py.onFS (·.makeArchive archive.withoutSuffix.withoutSuffix .gztar dir)
  Py.onFS (·.rmtree dir)
  return some archive

/-- One iteration of the copy loop of `_package_android_bundle`. -/
def addAndroidLibrary (t : Target) : Py Unit := do
  let lib := b.libPath t "librvpnse.so"
  if ← Py.pathExists lib then
    let some arch := t.androidArch
      | throw (.typeError "unsupported operand type(s) for /: PosixPath and NoneType")
    let archDir := b.androidBundleDir ++ ["jniLibs", arch]
    Py.onFS (·.mkdir archDir false true)
    Py.onFS (·.copy2 lib (archDir ++ ["librvpnse.so"]))

/-- `_package_android_bundle`: one `jniLibs/<arch>/librvpnse.so` per target whose
library exists, with header, readme and installer, archived as gzip-tar. -/
def packageAndroidBundle (androidTargets : List Target) : Py (Option Path) := do
  let dir := b.androidBundleDir
  Py.onFS (·.mkdir (dir ++ ["jniLibs"]) true true)
  androidTargets.forM (addAndroidLibrary b)
  copyIfExists b.headerFile dir
  copyIfExists b.readmeFile dir
  Py.onFS (·.writeText (dir ++ ["install.sh"]) androidInstallScript)
  let archive := b.outputDir ++ ["rvpnse-android.tar.gz"]
  Py.onFS (·.makeArchive archive.withoutSuffix.withoutSuffix .gztar dir)
  Py.onFS (·.rmtree dir)
  return some archive

/-- The library an iOS target contributes. -/
def iosLibPath (b : RVPNSEBuilder) (t : Target) : Path := b.libPath t "librvpnse.dylib"

/-- The grouping loop of `_package_ios_bundle`: the targets whose library exists,
split into the device triple and all others, each with its library path. -/
def iosGroups (fs : FS) (ts : List Target) : List (Target × Path) × List (Target × Path) :=
  let found := ts.filter fun t => fs.pathExists (b.iosLibPath t)
  ((found.filter (·.rustTarget = iosDeviceTriple)).map fun t => (t, b.iosLibPath t),
   (found.filter (·.rustTarget ≠ iosDeviceTriple)).map fun t => (t, b.iosLibPath t))

/-- The `lipo` command that merges `paths` into `out`. -/
def lipoCreate (out : Path) (paths : List Path) : Cmd :=
  [.text "lipo", .text "-create", .text "-output", .path out] ++ paths.map .path

/-- Either framework block of `_package_ios_bundle`: create the framework, then
copy a single library or merge several with `lipo`. False when `lipo` fails. -/
def makeFramework (name : String) (group : List (Target × Path)) : Py Bool := do
  if group.isEmpty then return true
  let fw := b.iosBundleDir ++ [name]
  Py.onFS (·.mkdir fw true true)
  match group with
  | [(_, lib)] => Py.onFS (·.copy2 lib (fw ++ ["rVPNSE"])); return true
  | _ => runCommand h b (lipoCreate (fw ++ ["rVPNSE"]) (group.map (·.2))) none

/-- One iteration of the metadata loop of `_package_ios_bundle`. -/
def addFrameworkMetadata (name : String) : Py Unit := do
  let fw := b.iosBundleDir ++ [name]
  if ← Py.pathExists fw then
    Py.onFS (·.writeText (fw ++ ["Info.plist"]) infoPlistContent)
    let headers := fw ++ ["Headers"]
    Py.onFS (·.mkdir headers false true)
    if ← Py.pathExists b.headerFile then
      Py.onFS (·.copy2 b.headerFile headers)
      Py.onFS (·.writeText (headers ++ ["module.modulemap"]) moduleMapContent)

theorem keepsCalls_copyIfExists (src dst : Path) : Py.KeepsCalls (copyIfExists src dst) :=
  (Py.keepsCalls_pathExists _).bind fun _ => .ite (Py.keepsCalls_onFS _) (Py.keepsCalls_pure _)

theorem keepsCalls_addFrameworkMetadata (name : String) : Py.KeepsCalls (addFrameworkMetadata b name) :=
  (Py.keepsCalls_pathExists _).bind fun _ => .ite
    ((Py.keepsCalls_onFS _).bind fun _ => (Py.keepsCalls_onFS _).bind fun _ =>
      (Py.keepsCalls_pathExists _).bind fun _ => .ite
        ((Py.keepsCalls_onFS _).bind fun _ => Py.keepsCalls_onFS _) (Py.keepsCalls_pure _))
    (Py.keepsCalls_pure _)

/-- `_package_ios_bundle`: a device framework from `aarch64-apple-ios` and a
simulator framework from the other triples, with metadata, readme and
installer, archived as gzip-tar. `None` when no library exists or `lipo` fails. -/
def packageIosBundle (iosTargets : List Target) : Py (Option Path) := do
  let dir := b.iosBundleDir
  Py.onFS (·.mkdir dir true true)
  let (device, simulator) := iosGroups b (← get).fs iosTargets
  if device.isEmpty ∧ simulator.isEmpty then return none
  if !(← makeFramework h b "rVPNSE-Device.framework" device) then return none
  if !(← makeFramework h b "rVPNSE-Simulator.framework" simulator) then return none
  frameworkNames.forM (addFrameworkMetadata b)
  copyIfExists b.readmeFile dir
  Py.onFS (·.writeText (dir ++ ["install.sh"]) iosInstallScript)
  let archive := b.outputDir ++ ["rvpnse-ios.tar.gz"]
  Py.onFS (·.makeArchive archive.withoutSuffix.withoutSuffix .gztar dir)
  Py.onFS (·.rmtree dir)
  return some archive

end RVPNSEBuilder

end RvpnseTools.Build
