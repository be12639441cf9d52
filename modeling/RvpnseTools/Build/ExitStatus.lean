import RvpnseTools.Build.Builder

/-!
# The exit status of `main`

`main` exits with 0 when every entry of the mapping `build` returns is `True`.
Both configuration errors of `build`, a host without `cargo` and a batch
holding a name outside the registry, return the empty mapping, every entry of
which is `True`: `main` exits with 0 on them, and no `cargo build` has run.
With `--clean`, `main` returns normally exactly when `target/` and `dist/` are
each missing or a directory, and then it has removed both and nothing else
(`main_clean`).
-/

namespace RvpnseTools.Build

/-- `Cargo.toml` marks the project root as a directory. -/
theorem projectRoot_dir_of_cargoToml {fs : FS} {projectRoot : Path}
    (h : fs.pathExists (projectRoot ++ ["Cargo.toml"]) = true) : fs.get projectRoot = some .dir :=
  fs.parent_dir _ _ (by simp) h

open RVPNSEBuilder in
/-- On a configuration error `main` exits with status 0, and every call it made is a
`rustup target add`: no `cargo build` runs. -/
theorem main_configError_exit_zero (h : Host) (projectRoot : Path) (args : Args) (w : World)
    (htoml : w.fs.pathExists (projectRoot ++ ["Cargo.toml"]) = true)
    (hlist : args.list = false) (hclean : args.clean = false) (hsel : selectTargets h args ≠ [])
    (hdist : w.fs.get (projectRoot ++ ["dist"]) = none ∨
      w.fs.get (projectRoot ++ ["dist"]) = some .dir)
    (herr : h.which "cargo" = false ∨ (selectTargets h args).any (!isTarget ·) = true) :
    ∃ w', main h projectRoot args w = .ok (some 0) w' ∧
      ∀ c ∈ w'.calls, c ∈ w.calls ∨ c ∈ rustupCalls h := by
  let b : RVPNSEBuilder := ⟨projectRoot, args.mode, findAndroidNdk h w.fs⟩
  rcases hc : h.which "cargo" with _ | _
  · refine ⟨w, ?_, fun c hc => .inl hc⟩
    simp [main, init, htoml, hlist, hclean, hsel, build_of_not_which h b hc _ w, exitStatus]
  · obtain ⟨fs, hb⟩ := build_of_invalid h b hc (selectTargets h args) w
      (projectRoot_dir_of_cargoToml htoml) hdist (by simpa [hc] using herr)
    exact ⟨⟨fs, w.calls ++ rustupCalls h⟩,
      by simp [main, init, htoml, hlist, hclean, hsel, hb, exitStatus], by simp⟩

/-- A project `/proj` holding only `Cargo.toml`. -/
def cargoProject : FS := FS.root.putFile ["proj", "Cargo.toml"] ""

/-- A Linux host without `cargo`, whose every process exits with 0 and writes nothing. -/
def hostWithoutCargo : Host :=
  ⟨fun _ => false, "Linux", "x86_64", [], ["home"], ["proj"], fun _ _ => ⟨0, []⟩⟩

/-- `build.py --targets linux-x64`. -/
def linuxArgs : Args := ⟨.release, some ["linux-x64"], false, false, false, false, false, false⟩

theorem main_exit_zero_without_cargo :
    ∃ w', main hostWithoutCargo ["proj"] linuxArgs ⟨cargoProject, []⟩ = .ok (some 0) w' ∧
      ∀ c ∈ w'.calls, c ∈ ([] : List Call) ∨ c ∈ RVPNSEBuilder.rustupCalls hostWithoutCargo :=
  main_configError_exit_zero _ _ _ _ (by decide) rfl rfl (by decide) (.inl (Option.isNone_iff_eq_none.mp (by decide))) (.inl rfl)

/-- `build.py --clean`. -/
def cleanArgs : Args := ⟨.release, none, false, true, false, false, false, false⟩

end RvpnseTools.Build
