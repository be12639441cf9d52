import Mathlib.Data.List.Nodup

/-!
# The target registry of `tools/build.py`

`TARGETS` is an ordered dictionary from a symbolic name to a `Target`. The
builder only ever reads it: it validates requested names against its keys,
looks each name up once per occurrence, and iterates over all its triples to
install them with `rustup`.

## Implementation notes

The dictionary is a list of pairs in source order; `lookup` returns the first
match, which is the only one since the keys are distinct. `Optional` fields of
the dataclass are `Option`s, and `min_api` is a natural number.
-/

namespace RvpnseTools.Build

/-- `BuildMode`: the optimisation mode, whose `value` names the output directory. -/
inductive BuildMode where
  | debug
  | release
  deriving DecidableEq, Repr

/-- `BuildMode.value`. -/
def BuildMode.value : BuildMode → String
  | .debug => "debug"
  | .release => "release"

/-- `Platform`: the five OS families. -/
inductive Platform where
  | linux
  | macos
  | windows
  | android
  | ios
  deriving DecidableEq, Repr

/-- `Platform.value`. -/
def Platform.value : Platform → String
  | .linux => "linux"
  | .macos => "macos"
  | .windows => "windows"
  | .android => "android"
  | .ios => "ios"

/-- `Target`: one entry of the registry. -/
structure Target where
  name : String
  rustTarget : String
  platform : Platform
  arch : String
  androidArch : Option String := none
  minApi : Option Nat := none
  deriving DecidableEq, Repr

/-- `TARGETS`, in source order. -/
def targets : List (String × Target) :=
  [("linux-x64", ⟨"linux-x64", "x86_64-unknown-linux-gnu", .linux, "x64", none, none⟩),
   ("macos-x64", ⟨"macos-x64", "x86_64-apple-darwin", .macos, "x64", none, none⟩),
   ("macos-arm64", ⟨"macos-arm64", "aarch64-apple-darwin", .macos, "arm64", none, none⟩),
   ("windows-x64", ⟨"windows-x64", "x86_64-pc-windows-msvc", .windows, "x64", none, none⟩),
   ("android-arm64",
     ⟨"android-arm64", "aarch64-linux-android", .android, "arm64", some "arm64-v8a", some 21⟩),
   ("android-arm",
     ⟨"android-arm", "armv7-linux-androideabi", .android, "arm", some "armeabi-v7a", some 19⟩),
   ("android-x64",
     ⟨"android-x64", "x86_64-linux-android", .android, "x64", some "x86_64", some 21⟩),
   ("android-x86", ⟨"android-x86", "i686-linux-android", .android, "x86", some "x86", some 19⟩),
   ("ios-arm64", ⟨"ios-arm64", "aarch64-apple-ios", .ios, "arm64", none, none⟩),
   ("ios-x64-sim", ⟨"ios-x64-sim", "x86_64-apple-ios", .ios, "x64", none, none⟩),
   ("ios-arm64-sim", ⟨"ios-arm64-sim", "aarch64-apple-ios-sim", .ios, "arm64", none, none⟩)]

/-- `TARGETS[name]`, or `none` where Python raises `KeyError`. -/
def lookupTarget (name : String) : Option Target := targets.lookup name

/-- `name in TARGETS`. -/
def isTarget (name : String) : Bool := (lookupTarget name).isSome

/-- `_get_library_name`: three file-name shapes by OS family. -/
def getLibraryName (t : Target) : String :=
  if t.platform = .windows then "rvpnse.dll"
  else if t.platform = .macos ∨ t.platform = .ios then "librvpnse.dylib"
  else "librvpnse.so"

/-- The one triple the iOS bundler files under the device framework. -/
def iosDeviceTriple : String := "aarch64-apple-ios"

/-- A desktop target is one that is packaged on its own. -/
def Target.isDesktop (t : Target) : Bool := t.platform ≠ .android ∧ t.platform ≠ .ios

theorem mem_targets_of_lookupTarget {n : String} {t : Target} (h : lookupTarget n = some t) :
    (n, t) ∈ targets := by
  obtain ⟨l₁, l₂, hl, -⟩ := List.lookup_eq_some_iff.mp h
  simp [hl]

/-- Every entry is filed under its own name. -/
theorem targets_name : ∀ p ∈ targets, p.2.name = p.1 := by decide

/-- No two entries share a compiler triple. -/
theorem targets_rustTarget_nodup : (targets.map (·.2.rustTarget)).Nodup := by decide

theorem lookupTarget_name {n : String} {t : Target} (h : lookupTarget n = some t) : t.name = n :=
  targets_name _ (mem_targets_of_lookupTarget h)

/-- Two looked-up entries with one triple are the same entry. -/
theorem eq_of_rustTarget_eq {n m : String} {t u : Target} (ht : lookupTarget n = some t)
    (hu : lookupTarget m = some u) (h : t.rustTarget = u.rustTarget) : t = u := by
  have hn := mem_targets_of_lookupTarget ht
  have hm := mem_targets_of_lookupTarget hu
  have := List.inj_on_of_nodup_map targets_rustTarget_nodup hn hm h
  simp only [Prod.mk.injEq] at this
  exact this.2

end RvpnseTools.Build
