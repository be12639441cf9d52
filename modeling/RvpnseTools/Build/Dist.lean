import RvpnseTools.Build.Noninterference
import RvpnseTools.Build.PackageSpec

/-!
# What `dist/` holds after a batch

`build` resets `dist/`, packages each desktop target as soon as it is built,
and bundles the Android and iOS targets after the loop. For any batch, repeated
names included, every archive in `dist/` belongs to a target one of whose builds
succeeded, each target recorded `True` has its library in `target/` and, on the
desktop, an archive holding it, and the only directory that can remain is the iOS
staging directory: left behind when a `lipo` call fails, and when no library of
the iOS targets is present after the loop.

## Implementation notes

A name can be requested, and so built, more than once, and the returned mapping
keeps only the last outcome of each. What `dist/` holds depends on the earlier
outcomes too, so the loop is described over the log `out` of every outcome in
request order, a record the script does not keep; the returned mapping is
`recordAll out`. `LoopLog` ties the two bundle lists to the log, and `DistInv`
describes `dist/` by the log and the libraries by the current mapping. Building
a target rebuilds its own triple only, so it leaves the libraries of the other
targets alone (`DistInv.frame`).
-/

namespace RvpnseTools.Build

/-- A requested name whose recorded result is `True` names `t` in the registry. -/
def Succeeded (results : List (String × Bool)) (t : Target) : Prop :=
  ∃ n, results.lookup n = some true ∧ lookupTarget n = some t

/-- Some build of the batch, logged in `out` as its name and outcome, succeeded for `t`. -/
def BuiltOnce (out : List (String × Bool)) (t : Target) : Prop :=
  ∃ n, (n, true) ∈ out ∧ lookupTarget n = some t

/-- The mapping the loop of `build` fills from the outcomes `out`, assigning each in turn. -/
def recordAll (out : List (String × Bool)) : List (String × Bool) :=
  out.foldl (fun results p => dictSet results p.1 p.2) []

@[simp] theorem recordAll_append_singleton (out : List (String × Bool)) (n : String) (success : Bool) :
    recordAll (out ++ [(n, success)]) = dictSet (recordAll out) n success := by
  simp [recordAll]

@[simp] theorem builtOnce_nil (t : Target) : ¬ BuiltOnce [] t := by
  simp [BuiltOnce]

theorem Succeeded.mem {results : List (String × Bool)} {t : Target} (h : Succeeded results t) :
    ∃ n, (n, t) ∈ targets :=
  let ⟨n, _, ht⟩ := h
  ⟨n, mem_targets_of_lookupTarget ht⟩

theorem BuiltOnce.mem {out : List (String × Bool)} {t : Target} (h : BuiltOnce out t) :
    ∃ n, (n, t) ∈ targets :=
  let ⟨n, _, ht⟩ := h
  ⟨n, mem_targets_of_lookupTarget ht⟩

/-- Logging an outcome adds its target when the outcome is `True`. -/
theorem builtOnce_append {out : List (String × Bool)} {n : String} {t : Target} {success : Bool}
    (ht : lookupTarget n = some t) (t' : Target) :
    BuiltOnce (out ++ [(n, success)]) t' ↔ BuiltOnce out t' ∨ (success = true ∧ t' = t) := by
  simp only [BuiltOnce, List.mem_append, List.mem_singleton, Prod.mk.injEq]
  constructor
  · rintro ⟨n', hn' | ⟨rfl, rfl⟩, ht'⟩
    · exact .inl ⟨n', hn', ht'⟩
    · exact .inr ⟨rfl, Option.some.inj (ht'.symm.trans ht)⟩
  · rintro (⟨n', hn', ht'⟩ | ⟨rfl, rfl⟩)
    · exact ⟨n', .inl hn', ht'⟩
    · exact ⟨n, .inr ⟨rfl, rfl⟩, ht⟩

/-- Assigning a name replaces the result of its target and keeps those of the others: the
registry gives each target one name. -/
theorem succeeded_dictSet {results : List (String × Bool)} {n : String} {t : Target} {success : Bool}
    (ht : lookupTarget n = some t) (t' : Target) :
    Succeeded (dictSet results n success) t' ↔
      (Succeeded results t' ∧ t' ≠ t) ∨ (success = true ∧ t' = t) := by
  simp only [Succeeded, lookup_dictSet]
  constructor
  · rintro ⟨n', hv, ht'⟩
    split_ifs at hv with hn
    · subst hn
      exact .inr ⟨Option.some.inj hv, Option.some.inj (ht'.symm.trans ht)⟩
    · exact .inl ⟨⟨n', hv, ht'⟩, fun he => hn (by rw [← lookupTarget_name ht', he, lookupTarget_name ht])⟩
  · rintro (⟨⟨n', hv, ht'⟩, hne⟩ | ⟨rfl, rfl⟩)
    · refine ⟨n', ?_, ht'⟩
      rwa [if_neg]
      rintro rfl
      exact hne (Option.some.inj (ht'.symm.trans ht))
    · exact ⟨n, by simp, ht⟩

namespace RVPNSEBuilder

variable (h : Host) (b : RVPNSEBuilder)

/-- What `dist/` holds once `build` has returned the mapping `results` after the outcomes
`out`, where `lipoFailed` says whether a `lipo` call of the run failed. -/
structure DistListing (out results : List (String × Bool)) (lipoFailed : Bool) (fs : FS) : Prop where
  /-- The entries of `dist/`: an archive per desktop target built once, the Android archive
  when an Android target was, the iOS archive when an iOS target was and has its library and
  no `lipo` failed, and otherwise, when an iOS target was built, the iOS staging directory. -/
  entries : ∀ c, (fs.get (b.outputDir ++ [c])).isSome ↔
    (∃ t, BuiltOnce out t ∧ t.isDesktop ∧ archiveName t = c) ∨
    (c = "rvpnse-android.tar.gz" ∧ ∃ t, BuiltOnce out t ∧ t.platform = .android) ∨
    (c = "rvpnse-ios.tar.gz" ∧ (∃ t, BuiltOnce out t ∧ t.platform = .ios ∧
      fs.pathExists (b.libPath t (getLibraryName t)) = true) ∧ lipoFailed = false) ∨
    (c = "rvpnse-ios" ∧ (∃ t, BuiltOnce out t ∧ t.platform = .ios) ∧ (lipoFailed = true ∨
      ∀ t, BuiltOnce out t → t.platform = .ios → fs.pathExists (b.libPath t (getLibraryName t)) = false))
  /-- The iOS staging directory is the only directory in `dist/`. -/
  dirs : ∀ c e, fs.get (b.outputDir ++ [c]) = some e → (e = .dir ↔ c = "rvpnse-ios")
  /-- Each desktop archive of a target recorded `True` holds the library in `target/`. -/
  desktop : ∀ t, Succeeded results t → t.isDesktop → ∃ m,
    fs.get (b.archivePath t) = some (.archive (archiveFormat t) m) ∧
      m [getLibraryName t] = fs.get (b.libPath t (getLibraryName t))
  /-- The Android archive has a `jniLibs/<x>/librvpnse.so` exactly for the architectures of
  the Android targets built once whose library is in `target/`. -/
  android : (∃ t, BuiltOnce out t ∧ t.platform = .android) → ∃ m,
    fs.get (b.outputDir ++ ["rvpnse-android.tar.gz"]) = some (.archive .gztar m) ∧
      ∀ x, (m ["jniLibs", x, "librvpnse.so"]).isSome ↔
        ∃ t, BuiltOnce out t ∧ t.platform = .android ∧
          fs.pathExists (b.libPath t (getLibraryName t)) = true ∧ t.androidArch = some x
  /-- Every target recorded `True` has its library in `target/`. -/
  libs : ∀ t, Succeeded results t → fs.pathExists (b.libPath t (getLibraryName t)) = true

/-- The result mapping and the bundle lists after the loop has logged the outcomes `out`. -/
structure LoopLog (out : List (String × Bool)) (s : LoopState) : Prop where
  results : s.results = recordAll out
  android : ∀ t, t ∈ s.androidTargets ↔ BuiltOnce out t ∧ t.platform = .android
  ios : ∀ t, t ∈ s.iosTargets ↔ BuiltOnce out t ∧ t.platform = .ios

/-- `dist/` during the loop: a directory of the archives of the desktop targets built once,
and every target recorded `True` in `results` has its library, archived when it is a desktop
target. -/
structure DistInv (out results : List (String × Bool)) (fs : FS) : Prop where
  dist : fs.get b.outputDir = some .dir
  entries : ∀ c, (fs.get (b.outputDir ++ [c])).isSome ↔
    ∃ t, BuiltOnce out t ∧ t.isDesktop ∧ archiveName t = c
  files : ∀ c, fs.get (b.outputDir ++ [c]) ≠ some .dir
  desktop : ∀ t, Succeeded results t → t.isDesktop → ∃ m,
    fs.get (b.archivePath t) = some (.archive (archiveFormat t) m) ∧
      m [getLibraryName t] = fs.get (b.libPath t (getLibraryName t))
  libs : ∀ t, Succeeded results t → fs.pathExists (b.libPath t (getLibraryName t)) = true

theorem LoopLog.init : LoopLog [] ⟨[], [], []⟩ :=
  ⟨rfl, fun _ => by simp, fun _ => by simp⟩

theorem LoopLog.record {out : List (String × Bool)} {s : LoopState} {n : String} {t : Target}
    (hl : LoopLog out s) (ht : lookupTarget n = some t) (success : Bool) :
    LoopLog (out ++ [(n, success)]) ⟨dictSet s.results n success,
      s.androidTargets ++ (if success ∧ t.platform = .android then [t] else []),
      s.iosTargets ++ (if success ∧ t.platform = .ios then [t] else [])⟩ := by
  refine ⟨by rw [recordAll_append_singleton, hl.results], fun t' => ?_, fun t' => ?_⟩ <;>
    simp only [List.mem_append, hl.android, hl.ios, builtOnce_append ht] <;>
    by_cases hs : success = true <;> simp only [hs] <;> aesop

/-- The loop starts from an empty `dist/`. -/
theorem DistInv.init {fs fs₀ : FS} (hmk : (fs.erase b.outputDir).mkdir b.outputDir true false = .ok fs₀) :
    DistInv b [] [] fs₀ := by
  have hchild : ∀ c, fs₀.get (b.outputDir ++ [c]) = none := fun c => by
    rw [FS.modifiesOnly_of_mkdir hmk _ (not_prefix_of_length_lt (by simp))]
    simp
  exact ⟨FS.get_of_mkdir hmk, fun c => by simp [hchild], fun c => by simp [hchild],
    fun _ ⟨_, h, _⟩ => by simp at h, fun _ ⟨_, h, _⟩ => by simp at h⟩

section DistInv

variable {b} {out out' results results' : List (String × Bool)} {fs fs' : FS} {t : Target}

/-- A library outside `dist/` is no path of `dist/`. -/
theorem libPath_ne_outputDir {t : Target} {lib : String} (r : Path) : b.libPath t lib ≠ b.outputDir ++ r :=
  fun h => (apart_outputDir_buildDir b r [t.rustTarget, b.mode.value, lib]).2 (h ▸ List.prefix_rfl)

/-- Building the triple `T` leaves `dist/` alone, and the libraries of the targets recorded
`True` in `results'` when each of them was recorded `True` before and has another triple. -/
theorem DistInv.frame {T : String} (hd : DistInv b out results fs)
    (hT : ∀ t', Succeeded results' t' → Succeeded results t' ∧ t'.rustTarget ≠ T)
    (hf : ∀ q, Path.Apart (b.buildDir ++ [T]) q → fs'.get q = fs.get q) : DistInv b out results' fs' := by
  have hdist : ∀ r, fs'.get (b.outputDir ++ r) = fs.get (b.outputDir ++ r) := fun r =>
    hf _ (apart_outputDir_buildDir b r [T]).symm
  have hlib : ∀ t', Succeeded results' t' →
      fs'.get (b.libPath t' (getLibraryName t')) = fs.get (b.libPath t' (getLibraryName t')) :=
    fun t' ht' => hf _ (Path.apart_append_cons b.buildDir [] [b.mode.value, _] (hT t' ht').2.symm)
  refine ⟨by simpa using (hdist []).trans (by simpa using hd.dist), fun c => ?_, fun c => ?_,
    fun t' ht' hdt => ?_, fun t' ht' => ?_⟩
  · rw [hdist]; exact hd.entries c
  · rw [hdist]; exact hd.files c
  · obtain ⟨m, hm, hml⟩ := hd.desktop t' (hT t' ht').1 hdt
    exact ⟨m, (hdist _).trans hm, hml.trans (hlib t' ht').symm⟩
  · rw [FS.pathExists, hlib t' ht']; exact hd.libs t' (hT t' ht').1

/-- Recording an outcome that packages nothing. -/
theorem DistInv.record {success : Bool} (hd : DistInv b out results fs)
    (hlib : success = true → fs.pathExists (b.libPath t (getLibraryName t)) = true)
    (hnd : ¬ (success = true ∧ t.isDesktop = true))
    (hsucc : ∀ t', Succeeded results' t' ↔ Succeeded results t' ∨ (success = true ∧ t' = t))
    (hbuilt : ∀ t', BuiltOnce out' t' ↔ BuiltOnce out t' ∨ (success = true ∧ t' = t)) :
    DistInv b out' results' fs := by
  have hold : ∀ t', Succeeded results' t' → t'.isDesktop = true → Succeeded results t' := by
    intro t' ht' hdt
    rcases (hsucc t').mp ht' with ht' | ⟨hs, rfl⟩
    · exact ht'
    · exact absurd ⟨hs, hdt⟩ hnd
  refine ⟨hd.dist, fun c => ?_, hd.files, fun t' ht' hdt => hd.desktop t' (hold t' ht' hdt) hdt,
    fun t' ht' => ?_⟩
  · rw [hd.entries]
    refine ⟨fun ⟨t', ht', hdt, hc⟩ => ⟨t', (hbuilt t').mpr (.inl ht'), hdt, hc⟩,
      fun ⟨t', ht', hdt, hc⟩ => ⟨t', ?_, hdt, hc⟩⟩
    rcases (hbuilt t').mp ht' with ht' | ⟨hs, rfl⟩
    · exact ht'
    · exact absurd ⟨hs, hdt⟩ hnd
  · rcases (hsucc t').mp ht' with ht' | ⟨hs, rfl⟩
    · exact hd.libs t' ht'
    · exact hlib hs

/-- No staging directory lies in `dist/` during the loop. -/
theorem DistInv.packageDir_none (hd : DistInv b out results fs) {n : String} (ht : (n, t) ∈ targets) :
    fs.get (b.packageDir t) = none := Option.not_isSome_iff_eq_none.mp fun hs => by
  obtain ⟨t', ht', -, hname⟩ := (hd.entries _).mp hs
  obtain ⟨n', hn'⟩ := ht'.mem
  exact targets_archiveName_ne_packageName _ hn' _ ht hname

/-- The bundles' names are no archive names of the registry. -/
theorem DistInv.bundle_none (hd : DistInv b out results fs) {c : String}
    (hc : c ∈ ["rvpnse-android", "rvpnse-android.tar.gz", "rvpnse-ios", "rvpnse-ios.tar.gz"]) :
    fs.get (b.outputDir ++ [c]) = none := Option.not_isSome_iff_eq_none.mp fun hs => by
  obtain ⟨t, ht, -, rfl⟩ := (hd.entries _).mp hs
  obtain ⟨n, hn⟩ := ht.mem
  exact targets_archiveName_not_bundle _ hn hc

/-- Recording a desktop target that succeeded, and packaging it, over any archive an earlier
build of it left. -/
theorem DistInv.package {calls : List Call} {r : Option Path} {w' : World} (hd : DistInv b out results fs)
    (ht : (t.name, t) ∈ targets) (hlib : fs.pathExists (b.libPath t (getLibraryName t)) = true)
    (hsucc : ∀ t', Succeeded results' t' ↔ Succeeded results t' ∨ t' = t)
    (hbuilt : ∀ t', BuiltOnce out' t' ↔ BuiltOnce out t' ∨ t' = t) (hdt : t.isDesktop = true)
    (hpk : packageTarget b t ⟨fs, calls⟩ = .ok r w') : DistInv b out' results' w'.fs ∧ w'.calls = calls := by
  obtain ⟨hcalls, m, hm, hget⟩ := packageTarget_eq_ok b ht hd.dist (hd.packageDir_none ht) hlib hpk
  refine ⟨?_, hcalls⟩
  have hlibs : ∀ t', w'.fs.get (b.libPath t' (getLibraryName t')) = fs.get (b.libPath t' (getLibraryName t')) :=
    fun t' => by simp only [hget, archivePath, libPath_ne_outputDir, if_false]
  have hA : ∀ c, (b.outputDir ++ [c] = b.archivePath t) ↔ c = archiveName t := by simp [archivePath]
  refine ⟨?_, fun c => ?_, fun c => ?_, fun t' ht' hdt' => ?_, fun t' ht' => ?_⟩
  · rw [hget, if_neg fun h => by simpa [archivePath] using congrArg List.length h]
    exact hd.dist
  · simp only [hget, hA]
    split_ifs with hc
    · exact ⟨fun _ => ⟨t, (hbuilt t).mpr (.inr rfl), hdt, hc.symm⟩, fun _ => rfl⟩
    · rw [hd.entries]
      refine ⟨fun ⟨t', ht', hdt', hn⟩ => ⟨t', (hbuilt t').mpr (.inl ht'), hdt', hn⟩,
        fun ⟨t', ht', hdt', hn⟩ => ?_⟩
      rcases (hbuilt t').mp ht' with ht' | rfl
      · exact ⟨t', ht', hdt', hn⟩
      · exact absurd hn.symm hc
  · simp only [hget, hA]
    split_ifs
    · simp
    · exact hd.files c
  · by_cases heq : t' = t
    · subst heq
      exact ⟨m, by simp [hget], by rw [hm, hlibs]⟩
    · have ht' := ((hsucc t').mp ht').resolve_right heq
      obtain ⟨m', hm', hml'⟩ := hd.desktop t' ht' hdt'
      obtain ⟨n', hn'⟩ := ht'.mem
      have hne : b.archivePath t' ≠ b.archivePath t := fun h' =>
        heq (targets_archiveName_injective _ hn' _ ht (by simpa [archivePath] using h'))
      exact ⟨m', by rw [hget, if_neg hne, hm'], by rw [hml', hlibs]⟩
  · rw [FS.pathExists, hlibs]
    rcases (hsucc t').mp ht' with ht' | rfl
    · exact hd.libs t' ht'
    · exact hlib

end DistInv

/-- A target's build changes nothing apart from `target/<triple>`, runs at most one process,
a `cargo`, and on success leaves the library. -/
theorem buildTarget_frame {t : Target} {success : Bool} {w w' : World}
    (hb : buildTarget h b t w = .ok success w') :
    (∀ q, Path.Apart (b.buildDir ++ [t.rustTarget]) q → w'.fs.get q = w.fs.get q) ∧
      (∃ run, w'.calls = w.calls ++ run ∧ ∀ c ∈ run, isLipo c.1 = false) ∧
      (success = true → w'.fs.pathExists (b.libPath t (getLibraryName t)) = true) := by
  obtain ⟨-, ⟨-, -, rfl, rfl⟩ | ⟨env, -, rfl, rfl⟩⟩ := buildTarget_eq_ok h b hb
  · exact ⟨fun q hq => FS.erase_get_of_apart _ hq, ⟨[], by simp, by simp⟩, by simp⟩
  · refine ⟨fun q hq => by rw [FS.putFiles_get_of_apart _ _ _ hq, FS.erase_get_of_apart _ hq],
      ⟨_, rfl, by simp [cargoBuild, isLipo]⟩, fun hs => ?_⟩
    simp only [Bool.and_eq_true] at hs
    exact hs.2

/-- One iteration of the loop logs its outcome, keeps both invariants and starts no `lipo`. -/
theorem buildStep_inv {out : List (String × Bool)} {s s' : LoopState} {n : String} {w w' : World}
    (hl : LoopLog out s) (hd : DistInv b out s.results w.fs) (hs : buildStep h b s n w = .ok s' w') :
    ∃ success, LoopLog (out ++ [(n, success)]) s' ∧ DistInv b (out ++ [(n, success)]) s'.results w'.fs ∧
      ∃ run, w'.calls = w.calls ++ run ∧ ∀ c ∈ run, isLipo c.1 = false := by
  obtain ⟨t, success, w₁, ht, hbt, hpk, rfl⟩ := buildStep_eq_ok h b hs
  obtain ⟨hframe, ⟨run, hc₁, hno⟩, hlib⟩ := buildTarget_frame h b hbt
  -- the rebuild of `t` voids what was known of it, as if `results[n] = False` came first
  have hd₁ : DistInv b out (dictSet s.results n false) w₁.fs := hd.frame (fun t' ht' => by
    obtain ⟨⟨n', hn', ht'⟩, hne⟩ := ((succeeded_dictSet ht t').mp ht').resolve_right (by simp)
    exact ⟨⟨n', hn', ht'⟩, fun heq => hne (eq_of_rustTarget_eq ht' ht heq)⟩) hframe
  have hsucc : ∀ t', Succeeded (dictSet s.results n success) t' ↔
      Succeeded (dictSet s.results n false) t' ∨ (success = true ∧ t' = t) := fun t' => by
    rw [succeeded_dictSet ht, succeeded_dictSet ht]
    simp
  refine ⟨success, hl.record ht success, ?_⟩
  split at hpk
  · obtain ⟨rfl, hdt⟩ := ‹_ ∧ _›
    obtain ⟨r, hpk⟩ := hpk
    obtain ⟨hd', hcalls⟩ := hd₁.package (lookupTarget_name ht ▸ mem_targets_of_lookupTarget ht)
      (hlib rfl) (fun t' => by simpa using hsucc t') (fun t' => by simpa using @builtOnce_append out n t true ht t') hdt hpk
    exact ⟨hd', run, hcalls.trans hc₁, hno⟩
  · subst hpk
    exact ⟨hd₁.record hlib ‹_› hsucc (builtOnce_append ht), run, hc₁, hno⟩

/-- The whole loop logs one outcome per name, keeps both invariants and starts no `lipo`. -/
theorem foldlM_buildStep_inv {names : List String} {out : List (String × Bool)} {s s' : LoopState}
    {w w' : World} (hl : LoopLog out s) (hd : DistInv b out s.results w.fs)
    (hf : names.foldlM (buildStep h b) s w = .ok s' w') :
    ∃ out', out'.map (·.1) = names ∧ LoopLog (out ++ out') s' ∧ DistInv b (out ++ out') s'.results w'.fs ∧
      ∃ run, w'.calls = w.calls ++ run ∧ ∀ c ∈ run, isLipo c.1 = false := by
  induction names generalizing out s w with
  | nil =>
    cases hf
    exact ⟨[], rfl, by simpa using hl, by simpa using hd, [], by simp, by simp⟩
  | cons n names ih =>
    obtain ⟨s₁, w₁, h₁, hf⟩ := (Py.bind_eq_ok _).mp hf
    obtain ⟨success, hl₁, hd₁, run₁, hc₁, hno₁⟩ := buildStep_inv h b hl hd h₁
    obtain ⟨out', hout', hl', hd', run₂, hc₂, hno₂⟩ := ih hl₁ hd₁ hf
    refine ⟨(n, success) :: out', by simp [hout'], by simpa using hl', by simpa using hd', run₁ ++ run₂,
      by rw [hc₂, hc₁, List.append_assoc], fun c hc => ?_⟩
    exact (List.mem_append.mp hc).elim (hno₁ c) (hno₂ c)

/-- The Android step after the loop leaves an archive exactly when an Android target
was built once, and changes nothing else. -/
theorem androidStage_eq_ok {out : List (String × Bool)} {s : LoopState} {k : Py Unit} {w w' : World}
    (hl : LoopLog out s) (hd : DistInv b out s.results w.fs)
    (hb : (if (!s.androidTargets.isEmpty) = true then
      (packageAndroidBundle b s.androidTargets >>= fun _ => k) else k) w = .ok () w') :
    ∃ w₂, k w₂ = .ok () w' ∧ w₂.calls = w.calls ∧
      w.fs.ModifiesOnly (· = b.outputDir ++ ["rvpnse-android.tar.gz"]) w₂.fs ∧
      ((∃ t, BuiltOnce out t ∧ t.platform = .android) → ∃ m,
        w₂.fs.get (b.outputDir ++ ["rvpnse-android.tar.gz"]) = some (.archive .gztar m) ∧
          ∀ x, (m ["jniLibs", x, "librvpnse.so"]).isSome ↔
            ∃ t, BuiltOnce out t ∧ t.platform = .android ∧
              w.fs.pathExists (b.libPath t (getLibraryName t)) = true ∧ t.androidArch = some x) ∧
      (¬ (∃ t, BuiltOnce out t ∧ t.platform = .android) →
        w₂.fs.get (b.outputDir ++ ["rvpnse-android.tar.gz"]) = none) := by
  have hA : (!s.androidTargets.isEmpty) = true ↔ ∃ t, BuiltOnce out t ∧ t.platform = .android := by
    rw [← exists_congr hl.android]
    cases s.androidTargets <;> simp
  split at hb
  · rename_i hne
    obtain ⟨r, w₂, h₂, hk⟩ := (Py.bind_eq_ok _).mp hb
    obtain ⟨hc, m, hm, hget⟩ := packageAndroidBundle_eq_ok b hd.dist (hd.bundle_none (by simp)) h₂
    refine ⟨w₂, hk, hc, fun q hq => by rw [hget, if_neg hq], fun _ => ⟨m, by simp [hget], fun x => ?_⟩,
      fun hno => absurd (hA.mp hne) hno⟩
    rw [hm]
    constructor
    · rintro ⟨t, ht, hlib, hx⟩
      obtain ⟨hs, hp⟩ := (hl.android t).mp ht
      exact ⟨t, hs, hp, by simpa [getLibraryName, hp] using hlib, hx⟩
    · rintro ⟨t, hs, hp, hlib, hx⟩
      exact ⟨t, (hl.android t).mpr ⟨hs, hp⟩, by simpa [getLibraryName, hp] using hlib, hx⟩
  · rename_i hne
    exact ⟨w, hb, rfl, .refl _, fun hex => absurd (hA.mpr hex) hne, fun _ => hd.bundle_none (by simp)⟩

/-- The iOS step after the loop: the iOS archive when some library is present and no `lipo`
call fails, the staging directory when one fails or no library is present, and nothing else
changed. -/
theorem iosStage_eq_ok {ts : List Target} {w w' : World}
    (hdist : w.fs.get b.outputDir = some .dir) (hdir : w.fs.get b.iosBundleDir = none)
    (harch : w.fs.get (b.outputDir ++ ["rvpnse-ios.tar.gz"]) = none)
    (hb : (if (!ts.isEmpty) = true then (packageIosBundle h b ts >>= fun _ => pure ()) else pure ()) w =
      .ok () w') :
    ∃ run, w'.calls = w.calls ++ run ∧
      w.fs.ModifiesOnly (fun q => q = b.outputDir ++ ["rvpnse-ios.tar.gz"] ∨ b.iosBundleDir <+: q) w'.fs ∧
      ((w'.fs.get (b.outputDir ++ ["rvpnse-ios.tar.gz"])).isSome ↔
        (∃ t ∈ ts, w.fs.pathExists (b.iosLibPath t) = true) ∧ h.lipoFailed w.calls run = false) ∧
      (∀ e, w'.fs.get (b.outputDir ++ ["rvpnse-ios.tar.gz"]) = some e → e ≠ .dir) ∧
      ((w'.fs.get b.iosBundleDir).isSome ↔ ts ≠ [] ∧
        (h.lipoFailed w.calls run = true ∨ ∀ t ∈ ts, w.fs.pathExists (b.iosLibPath t) = false)) ∧
      (∀ e, w'.fs.get b.iosBundleDir = some e → e = .dir) := by
  have hIA : ¬ b.iosBundleDir <+: b.outputDir ++ ["rvpnse-ios.tar.gz"] :=
    not_prefix_append_singleton (by decide)
  have hne : b.iosBundleDir ≠ b.outputDir ++ ["rvpnse-ios.tar.gz"] := fun h' => hIA (h' ▸ List.prefix_rfl)
  split at hb
  · rename_i hts
    have hts : ts ≠ [] := by cases ts <;> simp_all
    obtain ⟨r, w₁, h₁, hk⟩ := (Py.bind_eq_ok _).mp hb
    cases hk
    by_cases hex : ∃ t ∈ ts, w.fs.pathExists (b.iosLibPath t) = true
    · have hsome : ¬ ∀ t ∈ ts, w.fs.pathExists (b.iosLibPath t) = false := fun hno =>
        let ⟨t, ht, hl⟩ := hex; by rw [hno t ht] at hl; cases hl
      obtain ⟨run, hc, -, hres⟩ := packageIosBundle_eq_ok h b hdist hdir hex h₁
      refine ⟨run, hc, ?_⟩
      split at hres
      · rename_i hfail
        obtain ⟨hB, hout⟩ := hres
        refine ⟨fun q hq => hout q fun h' => hq (.inr h'), ?_⟩
        simp [hout _ hIA, harch, hB, hts, hfail]
      · rename_i hfail
        obtain ⟨m, hget⟩ := hres
        refine ⟨fun q hq => by rw [hget, if_neg fun h' => hq (.inl h')], ?_⟩
        simp [hget, hne, hdir, hex, hsome, hfail]
    · have hno : ∀ t ∈ ts, w.fs.pathExists (b.iosLibPath t) = false := fun t ht => by
        simpa using fun hl => hex ⟨t, ht, hl⟩
      obtain ⟨-, hmk, hc⟩ := packageIosBundle_of_no_lib h b hdist hno h₁
      have hg := FS.mkdir_child_get hdist hmk
      refine ⟨[], by simp [hc], fun q hq => by rw [hg, if_neg fun h' => hq (.inr (by rw [h']; exact List.prefix_rfl))], ?_⟩
      simpa [hg, hne.symm, harch, iosBundleDir, hts, Host.lipoFailed] using hno
  · rename_i hne
    cases hb
    have hts : ts = [] := by cases ts <;> simp_all
    exact ⟨[], by simp, .refl _, by simp [harch, hts], by simp [harch], by simp [hdir, hts], by simp [hdir]⟩

/-- After the loop, the two bundle steps turn `DistInv` into the listing of `dist/`. -/
theorem packageBundles_eq_ok {out : List (String × Bool)} {s : LoopState} {w w' : World}
    (hl : LoopLog out s) (hd : DistInv b out s.results w.fs) (hpb : packageBundles h b s w = .ok () w') :
    ∃ run, w'.calls = w.calls ++ run ∧ DistListing b out s.results (h.lipoFailed w.calls run) w'.fs := by
  unfold packageBundles at hpb
  simp only [pure_bind] at hpb
  obtain ⟨w₂, hk, hc₂, hm₂, hand, hnand⟩ := androidStage_eq_ok b hl hd hpb
  have hne : ∀ c, c ≠ "rvpnse-android.tar.gz" →
      w₂.fs.get (b.outputDir ++ [c]) = w.fs.get (b.outputDir ++ [c]) :=
    fun c hc => hm₂ _ fun h' => hc (by simpa using h')
  obtain ⟨run, hc', hm', hIA, hIAd, hIB, hIBd⟩ := iosStage_eq_ok h b
    ((hm₂ _ fun h' => by simpa using congrArg List.length h').trans hd.dist)
    ((hne _ (by decide)).trans (hd.bundle_none (by simp)))
    ((hne _ (by decide)).trans (hd.bundle_none (by simp))) hk
  refine ⟨run, by rw [hc', hc₂], ?_⟩
  rw [← hc₂]
  have hframe : ∀ q, q ≠ b.outputDir ++ ["rvpnse-android.tar.gz"] →
      q ≠ b.outputDir ++ ["rvpnse-ios.tar.gz"] → ¬ b.iosBundleDir <+: q → w'.fs.get q = w.fs.get q :=
    fun q h₁ h₂ h₃ => (hm' q fun h' => h'.elim h₂ h₃).trans (hm₂ q h₁)
  -- the bundle steps leave `target/` as the loop left it
  have hlib : ∀ t lib, w'.fs.get (b.libPath t lib) = w.fs.get (b.libPath t lib) := fun t lib =>
    hframe _ (libPath_ne_outputDir _) (libPath_ne_outputDir _)
      (apart_outputDir_buildDir b ["rvpnse-ios"] [t.rustTarget, b.mode.value, lib]).1
  have hios : ∀ t, t.platform = .ios →
      (w₂.fs.pathExists (b.iosLibPath t) = w'.fs.pathExists (b.libPath t (getLibraryName t))) := fun t hp => by
    rw [FS.pathExists, FS.pathExists, iosLibPath, hm₂ _ (libPath_ne_outputDir _), hlib,
      show getLibraryName t = "librvpnse.dylib" by simp [getLibraryName, hp]]
  have hIex : (∃ t ∈ s.iosTargets, w₂.fs.pathExists (b.iosLibPath t) = true) ↔
      ∃ t, BuiltOnce out t ∧ t.platform = .ios ∧ w'.fs.pathExists (b.libPath t (getLibraryName t)) = true :=
    exists_congr fun t => by
      rw [hl.ios, and_assoc]
      exact and_congr_right fun _ => and_congr_right fun hp => by rw [hios t hp]
  have hIno : (∀ t ∈ s.iosTargets, w₂.fs.pathExists (b.iosLibPath t) = false) ↔
      ∀ t, BuiltOnce out t → t.platform = .ios → w'.fs.pathExists (b.libPath t (getLibraryName t)) = false :=
    forall_congr' fun t => by
      rw [hl.ios, and_imp]
      exact imp_congr_right fun _ => imp_congr_right fun hp => by rw [hios t hp]
  have hI : s.iosTargets ≠ [] ↔ ∃ t, BuiltOnce out t ∧ t.platform = .ios := by
    rw [← exists_congr hl.ios]
    cases s.iosTargets <;> simp
  have hAA : w'.fs.get (b.outputDir ++ ["rvpnse-android.tar.gz"]) =
      w₂.fs.get (b.outputDir ++ ["rvpnse-android.tar.gz"]) :=
    hm' _ fun h' => h'.elim (fun h'' => by simp at h'') (not_prefix_append_singleton (by decide))
  have hdesk : ∀ c ∈ ["rvpnse-android", "rvpnse-android.tar.gz", "rvpnse-ios", "rvpnse-ios.tar.gz"],
      ¬ ∃ t, BuiltOnce out t ∧ t.isDesktop ∧ archiveName t = c := by
    rintro c hc ⟨t, ht, -, rfl⟩
    obtain ⟨n, hn⟩ := ht.mem
    exact targets_archiveName_not_bundle _ hn hc
  have hother : ∀ c, c ≠ "rvpnse-android.tar.gz" → c ≠ "rvpnse-ios.tar.gz" → c ≠ "rvpnse-ios" →
      w'.fs.get (b.outputDir ++ [c]) = w.fs.get (b.outputDir ++ [c]) := fun c hA hI hB =>
    hframe _ (fun h' => hA (by simpa using h')) (fun h' => hI (by simpa using h'))
      (not_prefix_append_singleton (Ne.symm hB))
  refine ⟨fun c => ?_, fun c e he => ?_, fun t ht hdt => ?_, fun hex => ?_, fun t ht => ?_⟩
  · by_cases hcA : c = "rvpnse-android.tar.gz"
    · subst hcA
      by_cases hex : ∃ t, BuiltOnce out t ∧ t.platform = .android
      · obtain ⟨m, hm, -⟩ := hand hex
        simp [hAA, hm, hex, hdesk _ (by simp : "rvpnse-android.tar.gz" ∈ _)]
      · simp [hAA, hnand hex, hex, hdesk _ (by simp : "rvpnse-android.tar.gz" ∈ _)]
    by_cases hcI : c = "rvpnse-ios.tar.gz"
    · subst hcI
      simp [hIA, hIex, hdesk _ (by simp : "rvpnse-ios.tar.gz" ∈ _)]
    by_cases hcB : c = "rvpnse-ios"
    · subst hcB
      simp [iosBundleDir] at hIB
      simp [hIB, hI, hIno, hdesk _ (by simp : "rvpnse-ios" ∈ _)]
    rw [hother c hcA hcI hcB, hd.entries]
    simp [hcA, hcI, hcB]
  · by_cases hcA : c = "rvpnse-android.tar.gz"
    · subst hcA
      rw [hAA] at he
      by_cases hex : ∃ t, BuiltOnce out t ∧ t.platform = .android
      · obtain ⟨m, hm, -⟩ := hand hex
        rw [hm] at he
        cases he
        simp
      · simp [hnand hex] at he
    by_cases hcI : c = "rvpnse-ios.tar.gz"
    · subst hcI
      simp [hIAd e he]
    by_cases hcB : c = "rvpnse-ios"
    · subst hcB
      simp [hIBd e he]
    rw [hother c hcA hcI hcB] at he
    exact ⟨fun h' => (hd.files c (h' ▸ he)).elim, fun h' => (hcB h').elim⟩
  · obtain ⟨m, hm, hml⟩ := hd.desktop t ht hdt
    obtain ⟨n, hn⟩ := ht.mem
    have hnb : archiveName t ∉ ["rvpnse-android", "rvpnse-android.tar.gz", "rvpnse-ios", "rvpnse-ios.tar.gz"] :=
      targets_archiveName_not_bundle _ hn
    simp only [List.mem_cons, List.not_mem_nil, or_false, not_or] at hnb
    exact ⟨m, (hother _ hnb.2.1 hnb.2.2.2 hnb.2.2.1).trans hm, hml.trans (hlib t _).symm⟩
  · obtain ⟨m, hm, hmem⟩ := hand hex
    exact ⟨m, hAA.trans hm, fun x => by simp only [hmem, FS.pathExists, hlib]⟩
  · rw [FS.pathExists, hlib]
    exact hd.libs t ht

end RVPNSEBuilder

/-- A macOS host whose processes exit with 0 and leave a library in the triple they build,
except `lipo`, which fails. -/
def macLipoFails : Host :=
  ⟨fun _ => true, "Darwin", "arm64", [], ["home"], ["proj"], fun _ c =>
    if isLipo c.1 then ⟨1, []⟩ else ⟨0, [(["release", "librvpnse.dylib"], "")]⟩⟩

/-- A Linux host whose processes exit with 0 and leave a library the first time they are
run, and fail when the same call is repeated. -/
def linuxRebuildFails : Host :=
  ⟨fun _ => true, "Linux", "x86_64", [], ["home"], ["proj"], fun hist c =>
    if c ∈ hist then ⟨1, []⟩ else ⟨0, [(["release", "librvpnse.so"], "")]⟩⟩

/-- Both iOS simulator libraries are built and merging them with `lipo` fails: `build`
returns with `dist/rvpnse-ios` left as a directory. -/
theorem build_iosSim_of_lipo_failure :
    ∃ w', projBuilder.build macLipoFails ["ios-x64-sim", "ios-arm64-sim"] ⟨cargoProject, []⟩ =
      .ok [("ios-x64-sim", true), ("ios-arm64-sim", true)] w' ∧
      w'.fs.isDir ["proj", "dist", "rvpnse-ios"] = true := by
  have hc : macLipoFails.which "cargo" = true := rfl
  simp [RVPNSEBuilder.build, RVPNSEBuilder.setupRustEnvironment_apply, hc, Py.removeIfExists, isTarget,
    lookupTarget, targets, List.lookup_cons, RVPNSEBuilder.buildStep, RVPNSEBuilder.buildTarget, FS.pathExists,
    FS.mkdir, FS.prefixesFree, FS.isDir, FS.rmtree, cargoProject, FS.putFile_get, projBuilder,
    RVPNSEBuilder.outputDir, RVPNSEBuilder.buildDir, macLipoFails, RVPNSEBuilder.cargoBuild, Entry.isDir,
    isLipo, RVPNSEBuilder.outputArea, getLibraryName, RVPNSEBuilder.libPath, dictSet,
    RVPNSEBuilder.packageBundles, RVPNSEBuilder.packageIosBundle, RVPNSEBuilder.iosGroups,
    RVPNSEBuilder.iosLibPath, RVPNSEBuilder.makeFramework, RVPNSEBuilder.iosBundleDir, iosDeviceTriple,
    RVPNSEBuilder.lipoCreate, BuildMode.value]

/-- `linux-x64` requested twice, its second build failing: `build` records `False` and keeps
the archive packaged after the first build. -/
theorem build_linux_twice_of_rebuild_failure :
    ∃ w', projBuilder.build linuxRebuildFails ["linux-x64", "linux-x64"] ⟨cargoProject, []⟩ =
      .ok [("linux-x64", false)] w' ∧
      (w'.fs.get ["proj", "dist", "rvpnse-linux-x64.tar.gz"]).isSome = true := by
  have hc : linuxRebuildFails.which "cargo" = true := rfl
  have harchive : (Path.withoutSuffix ["proj", "dist", "rvpnse-linux-x64.tar.gz"]).withoutSuffix.appendName
      ArchiveFormat.gztar.ext = ["proj", "dist", "rvpnse-linux-x64.tar.gz"] :=
    @RVPNSEBuilder.gztar_appendName ["proj", "dist"] _ (by decide)
  simp [RVPNSEBuilder.build, RVPNSEBuilder.setupRustEnvironment_apply, hc, Py.removeIfExists, isTarget,
    lookupTarget, targets, List.lookup_cons, RVPNSEBuilder.buildStep, RVPNSEBuilder.buildTarget, FS.pathExists,
    FS.mkdir, FS.prefixesFree, FS.isDir, FS.rmtree, cargoProject, FS.putFile_get, projBuilder,
    RVPNSEBuilder.outputDir, RVPNSEBuilder.buildDir, linuxRebuildFails, RVPNSEBuilder.cargoBuild, Entry.isDir,
    RVPNSEBuilder.outputArea, getLibraryName, RVPNSEBuilder.libPath, dictSet, RVPNSEBuilder.packageBundles,
    BuildMode.value, RVPNSEBuilder.packageTarget, RVPNSEBuilder.copyIfExists, FS.copy2, FS.write,
    FS.makeArchive, RVPNSEBuilder.archivePath, RVPNSEBuilder.archiveName, RVPNSEBuilder.packageDir,
    RVPNSEBuilder.headerFile, RVPNSEBuilder.readmeFile, RVPNSEBuilder.rustupCalls, RVPNSEBuilder.rustupAdd,
    Target.isDesktop, harchive, FS.baseName]

namespace RVPNSEBuilder

variable (h : Host) (b : RVPNSEBuilder)

end RVPNSEBuilder

/-- Two runs that leave in `dist/` what a listing by the returned mapping alone excludes: a
failed `lipo` leaves the iOS staging directory, and a repeated desktop name whose second
build fails keeps the archive of its first. -/
theorem build_dist_failed_lipo_or_repeated_name :
    (∃ w', projBuilder.build macLipoFails ["ios-x64-sim", "ios-arm64-sim"] ⟨cargoProject, []⟩ =
      .ok [("ios-x64-sim", true), ("ios-arm64-sim", true)] w' ∧
      w'.fs.isDir ["proj", "dist", "rvpnse-ios"] = true) ∧
    (∃ w', projBuilder.build linuxRebuildFails ["linux-x64", "linux-x64"] ⟨cargoProject, []⟩ =
      .ok [("linux-x64", false)] w' ∧
      (w'.fs.get ["proj", "dist", "rvpnse-linux-x64.tar.gz"]).isSome = true) :=
  ⟨build_iosSim_of_lipo_failure, build_linux_twice_of_rebuild_failure⟩

end RvpnseTools.Build
