import RvpnseTools.Build.Dist

/-!
# The libraries behind the recorded results

`_build_target` trusts the file system over the exit status of `cargo`: a target
counts as built only when its library exists afterwards. The packagers write
only below `dist/`, and building a target touches only its own
`target/<triple>`, so when `build` returns, every name the mapping records as
`True` still has its library at `target/<triple>/<mode>/<library>`, repeated
names included.

## Implementation notes

Every packager is `Py.Within b.outputDir`. The loop keeps `LibsPresent`, read
through `List.lookup` as Python reads `results[name]`.
-/

namespace RvpnseTools.Build

namespace FS

variable {fs fs₁ : FS} {d : Path}

theorem Within.of_rmtree {p : Path} {x : String} (hp : d ++ [x] <+: p) (h : fs.rmtree p = .ok fs₁) :
    fs.Within d fs₁ := fun _ => by
  obtain ⟨-, rfl⟩ := (rmtree_eq_ok fs).mp h
  exact (modifiesOnly_erase p).mono fun _ hq => below_of_append_singleton (hp.trans hq)

theorem Within.of_makeArchive {y : String} {fmt : ArchiveFormat} {root : Path}
    (h : fs.makeArchive (d ++ [y]) fmt root = .ok fs₁) : fs.Within d fs₁ := by
  have hw := (makeArchive_eq_ok fs h).2
  rw [Path.appendName_append_singleton] at hw
  exact .of_write List.prefix_rfl hw

end FS

namespace RVPNSEBuilder

variable (h : Host) (b : RVPNSEBuilder)

theorem within_copyIfExists_below {d dst : Path} {x : String} (src : Path) (hd : d ++ [x] <+: dst) :
    Py.Within d (copyIfExists src dst) :=
  (Py.within_pathExists _).bind fun _ =>
    .ite (Py.within_onFS fun _ _ h => .of_copy2 hd h) (Py.within_pure _)

/-- A desktop package writes only below `dist/`. -/
theorem within_packageTarget (t : Target) : Py.Within b.outputDir (packageTarget b t) := by
  have hjp : ∀ a : Option Path,
      Py.Within b.outputDir (Py.onFS (·.rmtree (b.packageDir t)) >>= fun _ => pure a) := fun _ =>
    (Py.within_onFS fun _ _ h => .of_rmtree List.prefix_rfl h).bind fun _ => Py.within_pure _
  refine (Py.within_pathExists _).bind fun _ => .ite (Py.within_pure _) ?_
  refine (Py.within_onFS fun _ _ h => .of_mkdir (List.prefix_append _ _) h).bind fun _ =>
    (Py.within_onFS fun _ _ h => .of_copy2 List.prefix_rfl h).bind fun _ =>
      (within_copyIfExists_below _ List.prefix_rfl).bind fun _ =>
        (within_copyIfExists_below _ List.prefix_rfl).bind fun _ => .ite ?_ ?_
  all_goals
    refine (Py.within_onFS fun _ _ h => ?_).bind fun _ => hjp _
    simp only [archivePath, Path.withoutSuffix_append_singleton] at h
    exact .of_makeArchive h

theorem within_addAndroidLibrary (t : Target) : Py.Within b.outputDir (addAndroidLibrary b t) := by
  refine (Py.within_pathExists _).bind fun _ => .ite ?_ (Py.within_pure _)
  cases t.androidArch with
  | none => exact fun _ _ _ h => by cases h
  | some _ =>
      exact (Py.within_onFS fun _ _ h => .of_mkdir ((List.prefix_append _ _).trans
        (List.prefix_append _ _)) h).bind fun _ =>
          Py.within_onFS fun _ _ h => .of_copy2 ((List.prefix_append _ _).trans (List.prefix_append _ _)) h

/-- The Android bundle writes only below `dist/`. -/
theorem within_packageAndroidBundle (ts : List Target) :
    Py.Within b.outputDir (packageAndroidBundle b ts) := by
  refine (Py.within_onFS fun _ _ h => .of_mkdir ((List.prefix_append _ _).trans
    (List.prefix_append _ _)) h).bind fun _ =>
      (Py.Within.forM (within_addAndroidLibrary b) _).bind fun _ =>
        (within_copyIfExists_below _ List.prefix_rfl).bind fun _ =>
          (within_copyIfExists_below _ List.prefix_rfl).bind fun _ =>
            (Py.within_onFS fun _ _ h => .of_write (List.prefix_append _ _) h).bind fun _ =>
              (Py.within_onFS fun _ _ h => ?_).bind fun _ =>
                (Py.within_onFS fun _ _ h => .of_rmtree List.prefix_rfl h).map _
  simp only [Path.withoutSuffix_append_singleton] at h
  exact .of_makeArchive h

/-- The iOS bundle writes only below `dist/`. -/
theorem within_packageIosBundle (ts : List Target) :
    Py.Within b.outputDir (packageIosBundle h b ts) := by
  refine (Py.within_onFS fun _ _ h => .of_mkdir (List.prefix_append _ _) h).bind fun _ =>
    Py.within_get_bind fun w => ?_
  split
  dsimp only
  refine .ite (Py.within_pure _) ((Py.within_pure _).bind fun _ => ?_)
  refine (within_makeFramework h b (List.prefix_append _ _) _).bind fun _ =>
    .ite (Py.within_pure _) ((Py.within_pure _).bind fun _ => ?_)
  refine (within_makeFramework h b (List.prefix_append _ _) _).bind fun _ =>
    .ite (Py.within_pure _) ((Py.within_pure _).bind fun _ => ?_)
  refine (Py.Within.forM (fun _ => within_addFrameworkMetadata b (List.prefix_append _ _)) _).bind
    fun _ => (within_copyIfExists_below _ List.prefix_rfl).bind fun _ =>
      (Py.within_onFS fun _ _ h => .of_write (List.prefix_append _ _) h).bind fun _ =>
        (Py.within_onFS fun _ _ h => ?_).bind fun _ =>
          (Py.within_onFS fun _ _ h => .of_rmtree List.prefix_rfl h).bind fun _ => Py.within_pure _
  simp only [Path.withoutSuffix_append_singleton] at h
  exact .of_makeArchive h

/-- After the loop, `build` writes only below `dist/`. -/
theorem within_packageBundles (s : LoopState) : Py.Within b.outputDir (packageBundles h b s) := by
  have hios : Py.Within b.outputDir (if (!s.iosTargets.isEmpty) = true then
      (packageIosBundle h b s.iosTargets >>= fun _ => pure ()) else pure ()) :=
    .ite ((within_packageIosBundle h b _).bind fun _ => Py.within_pure _) (Py.within_pure _)
  unfold packageBundles
  simp only [pure_bind]
  exact .ite ((within_packageAndroidBundle b _).bind fun _ => hios) hios

/-- During the loop `dist/` is a directory, and every name recorded `True` has its library. -/
structure LibsPresent (results : List (String × Bool)) (fs : FS) : Prop where
  dist : fs.get b.outputDir = some .dir
  libs : ∀ n t, results.lookup n = some true → lookupTarget n = some t →
    fs.pathExists (b.libPath t (getLibraryName t)) = true

section LibsPresent

variable {b} {results : List (String × Bool)} {fs fs' : FS}

theorem not_outputDir_below_libPath (t : Target) (lib : String) : ¬ b.outputDir <+: b.libPath t lib := by
  simpa using (apart_outputDir_buildDir b [] [t.rustTarget, b.mode.value, lib]).1

/-- Writing below `dist/` keeps the invariant. -/
theorem LibsPresent.within (hp : LibsPresent b results fs) (hw : fs.Within b.outputDir fs') :
    LibsPresent b results fs' :=
  ⟨hw.get_dir hp.dist, fun n t hn ht => by
    rw [FS.pathExists, hw.get_of_not_below hp.dist (not_outputDir_below_libPath t _)]
    exact hp.libs n t hn ht⟩

/-- Building and recording one name keeps the invariant, also when the name was recorded
before: its old result is overwritten, and no other name shares its triple. -/
theorem LibsPresent.after_buildStep {s s' : LoopState} {n : String} {w w' : World}
    (hp : LibsPresent b s.results w.fs) (hs : buildStep h b s n w = .ok s' w') :
    LibsPresent b s'.results w'.fs := by
  obtain ⟨t, success, w₁, ht, hbt, hpk, rfl⟩ := buildStep_eq_ok h b hs
  obtain ⟨hframe, -, hlib⟩ := buildTarget_frame h b hbt
  have hdist := hframe _ (apart_outputDir_buildDir b [] [t.rustTarget]).symm
  rw [List.append_nil] at hdist
  have h₁ : LibsPresent b (dictSet s.results n success) w₁.fs := by
    refine ⟨hdist.trans hp.dist, fun m t' hm ht' => ?_⟩
    rw [lookup_dictSet] at hm
    split_ifs at hm with hmn
    · subst hmn
      obtain rfl := Option.some.inj (ht'.symm.trans ht)
      exact hlib (Option.some.inj hm)
    · have hne : t'.rustTarget ≠ t.rustTarget := fun heq => hmn (by
        rw [← lookupTarget_name ht', eq_of_rustTarget_eq ht' ht heq, lookupTarget_name ht])
      have hkeep := hframe (b.libPath t' (getLibraryName t'))
        (Path.apart_append_cons b.buildDir [] [b.mode.value, _] hne.symm)
      rw [FS.pathExists, hkeep]
      exact hp.libs m t' hm ht'
  split at hpk
  · obtain ⟨r, hpk⟩ := hpk
    exact h₁.within (within_packageTarget b t _ _ _ hpk)
  · exact hpk ▸ h₁

/-- The whole loop keeps the invariant, repeated names included. -/
theorem LibsPresent.after_loop {names : List String} {s s' : LoopState} {w w' : World}
    (hp : LibsPresent b s.results w.fs) (hf : names.foldlM (buildStep h b) s w = .ok s' w') :
    LibsPresent b s'.results w'.fs := by
  induction names generalizing s w with
  | nil =>
    cases hf
    exact hp
  | cons n names ih =>
    obtain ⟨s₁, w₁, h₁, hf⟩ := (Py.bind_eq_ok _).mp hf
    exact ih (hp.after_buildStep h h₁) hf

end LibsPresent

/-- With `cargo` found and every name from the registry, when `build` returns, every name
recorded `True` has its library at `target/<triple>/<mode>/<library>`, repeated names
included. -/
theorem build_true_library (names : List String) (w : World) {results : List (String × Bool)}
    {w' : World} (hc : h.which "cargo" = true) (hvalid : ∀ n ∈ names, isTarget n = true)
    (hb : build h b names w = .ok results w') :
    ∀ n t, results.lookup n = some true → lookupTarget n = some t →
      w'.fs.pathExists (b.libPath t (getLibraryName t)) = true := by
  obtain ⟨fs₀, s, w₁, -, hmk, hloop, hpb, rfl⟩ := build_eq_ok h b hc hvalid hb
  have hinit : LibsPresent b [] fs₀ := ⟨FS.get_of_mkdir hmk, fun _ _ hn => by cases hn⟩
  exact ((hinit.after_loop h hloop).within (within_packageBundles h b s _ _ _ hpb)).libs

end RVPNSEBuilder

theorem build_true_library_iosSim :
    ∃ w', projBuilder.build macLipoFails ["ios-x64-sim", "ios-arm64-sim"] ⟨cargoProject, []⟩ =
      .ok [("ios-x64-sim", true), ("ios-arm64-sim", true)] w' ∧
      ∀ n t, [("ios-x64-sim", true), ("ios-arm64-sim", true)].lookup n = some true →
        lookupTarget n = some t → w'.fs.pathExists (projBuilder.libPath t (getLibraryName t)) = true := by
  obtain ⟨w', hb, -⟩ := build_iosSim_of_lipo_failure
  exact ⟨w', hb, RVPNSEBuilder.build_true_library macLipoFails projBuilder _ _ rfl (by decide) hb⟩

end RvpnseTools.Build
