import RvpnseTools.Build.Dist
import RvpnseTools.Build.Ios
import RvpnseTools.Build.Batch

/-!
# The processes a batch starts

With `cargo` found and every name in the registry, `build` starts one
`rustup target add` per registry triple, then one `cargo build` per requested
name, in request order, skipping only an Android target when no NDK was found,
and after the loop nothing but `lipo`. Each `lipo` merges the libraries of
requested iOS device targets only, or of requested iOS simulator targets only,
never both. Its mapping lists each requested name once, in the order of first request.

## Implementation notes

A step of the loop records its `cargo` call and nothing else
(`buildStep_calls`); the packagers record nothing but `lipo`, each call on one
group of `iosGroups` (`packageBundles_calls`, with `UnmixedLipo`).
-/

namespace RvpnseTools.Build

namespace RVPNSEBuilder

variable (h : Host) (b : RVPNSEBuilder)

/-- Whether `_build_target` runs `cargo` for `t`: for every target but an Android one
when no NDK was found. -/
def runsCargo (t : Target) : Bool := !(decide (t.platform = .android) && b.androidNdkRoot.isNone)

/-- The targets `build` runs `cargo` for, in request order. -/
def cargoTargets (names : List String) : List Target :=
  (names.filterMap lookupTarget).filter b.runsCargo

/-- A `lipo` call that merges the libraries of device targets of `ts` only, or of simulator
targets of `ts` only. -/
def UnmixedLipo (ts : List Target) (c : Call) : Prop :=
  ∃ out paths, c.1 = lipoCreate out paths ∧
    ((∀ p ∈ paths, ∃ t ∈ ts, t.rustTarget = iosDeviceTriple ∧ p = b.iosLibPath t) ∨
      ∀ p ∈ paths, ∃ t ∈ ts, t.rustTarget ≠ iosDeviceTriple ∧ p = b.iosLibPath t)

theorem UnmixedLipo.isLipo {ts : List Target} {c : Call} (hc : UnmixedLipo b ts c) :
    isLipo c.1 = true := by
  obtain ⟨out, paths, heq, -⟩ := hc
  rw [heq, isLipo_lipoCreate]

theorem UnmixedLipo.mono {ts ts' : List Target} (hts : ∀ t ∈ ts, t ∈ ts') {c : Call}
    (hc : UnmixedLipo b ts c) : UnmixedLipo b ts' c := by
  obtain ⟨out, paths, heq, hd | hs⟩ := hc
  · exact ⟨out, paths, heq, .inl fun p hp =>
      let ⟨t, ht, hx⟩ := hd p hp
      ⟨t, hts t ht, hx⟩⟩
  · exact ⟨out, paths, heq, .inr fun p hp =>
      let ⟨t, ht, hx⟩ := hs p hp
      ⟨t, hts t ht, hx⟩⟩

theorem isLipo_cargoBuild (t : Target) : isLipo (b.cargoBuild t) = false := by
  unfold cargoBuild
  split <;> rfl

theorem keepsCalls_packageTarget (t : Target) : Py.KeepsCalls (packageTarget b t) :=
  (Py.keepsCalls_pathExists _).bind fun _ => .ite (Py.keepsCalls_pure _)
    ((Py.keepsCalls_onFS _).bind fun _ => (Py.keepsCalls_onFS _).bind fun _ =>
      (keepsCalls_copyIfExists _ _).bind fun _ => (keepsCalls_copyIfExists _ _).bind fun _ =>
        have hjp : ∀ {α : Type} (a : α) (p : Path),
            Py.KeepsCalls (Py.onFS (·.rmtree p) >>= fun _ => pure a) := fun _ _ =>
          (Py.keepsCalls_onFS _).bind fun _ => Py.keepsCalls_pure _
        .ite ((Py.keepsCalls_onFS _).bind fun _ => hjp _ _) ((Py.keepsCalls_onFS _).bind fun _ => hjp _ _))

theorem keepsCalls_addAndroidLibrary (t : Target) : Py.KeepsCalls (addAndroidLibrary b t) :=
  (Py.keepsCalls_pathExists _).bind fun _ => .ite
    (by
      cases t.androidArch with
      | none => exact fun _ => rfl
      | some _ => exact (Py.keepsCalls_onFS _).bind fun _ => Py.keepsCalls_onFS _)
    (Py.keepsCalls_pure _)

theorem keepsCalls_packageAndroidBundle (ts : List Target) :
    Py.KeepsCalls (packageAndroidBundle b ts) :=
  (Py.keepsCalls_onFS _).bind fun _ => (Py.KeepsCalls.forM (keepsCalls_addAndroidLibrary b) _).bind fun _ =>
    (keepsCalls_copyIfExists _ _).bind fun _ => (keepsCalls_copyIfExists _ _).bind fun _ =>
      (Py.keepsCalls_onFS _).bind fun _ => (Py.keepsCalls_onFS _).bind fun _ =>
        (Py.keepsCalls_onFS _).map _

/-- A target's build records its `cargo` call, and nothing when it skips an Android target. -/
theorem buildTarget_calls {t : Target} {success : Bool} {w w' : World}
    (hb : buildTarget h b t w = .ok success w') :
    ∃ cargo, w'.calls = w.calls ++ cargo ∧
      cargo.map (·.1) = if b.runsCargo t then [b.cargoBuild t] else [] := by
  obtain ⟨-, ⟨hp, hn, -, rfl⟩ | ⟨env, henv, rfl, -⟩⟩ := buildTarget_eq_ok h b hb
  · exact ⟨[], by simp, by simp [runsCargo, hp, hn]⟩
  have hruns : b.runsCargo t = true := by
    by_cases hp : t.platform = .android
    · rw [if_pos hp, setupAndroidEnvironment_apply] at henv
      cases hn : b.androidNdkRoot with
      | none => simp [hn] at henv
      | some _ => simp [runsCargo, hn]
    · simp [runsCargo, hp]
  exact ⟨_, rfl, by simp [hruns]⟩

/-- One iteration of the loop records the `cargo` call of the name's target, if any. -/
theorem buildStep_calls {s s' : LoopState} {n : String} {w w' : World}
    (hs : buildStep h b s n w = .ok s' w') :
    ∃ t, lookupTarget n = some t ∧ ∃ cargo, w'.calls = w.calls ++ cargo ∧
      cargo.map (·.1) = if b.runsCargo t then [b.cargoBuild t] else [] := by
  obtain ⟨t, success, w₁, ht, hbt, hpk, -⟩ := buildStep_eq_ok h b hs
  obtain ⟨cargo, hc, hmap⟩ := buildTarget_calls h b hbt
  have hw' : w'.calls = w₁.calls := by
    split at hpk
    · obtain ⟨r, hr⟩ := hpk
      exact (keepsCalls_packageTarget b t).calls_eq hr
    · rw [hpk]
  exact ⟨t, ht, cargo, hw'.trans hc, hmap⟩

/-- The loop records one `cargo` call per name whose target runs `cargo`, in order. -/
theorem foldlM_buildStep_calls {names : List String} {s s' : LoopState} {w w' : World}
    (hf : names.foldlM (buildStep h b) s w = .ok s' w') :
    ∃ cargo, w'.calls = w.calls ++ cargo ∧ cargo.map (·.1) = (b.cargoTargets names).map b.cargoBuild := by
  induction names generalizing s w with
  | nil =>
      cases hf
      exact ⟨[], by simp, rfl⟩
  | cons n names ih =>
      rw [List.foldlM_cons] at hf
      obtain ⟨s₁, w₁, h₁, hf⟩ := (Py.bind_eq_ok _).mp hf
      obtain ⟨t, ht, cargo₁, hc₁, hm₁⟩ := buildStep_calls h b h₁
      obtain ⟨cargo₂, hc₂, hm₂⟩ := ih hf
      refine ⟨cargo₁ ++ cargo₂, by rw [hc₂, hc₁, List.append_assoc], ?_⟩
      rw [List.map_append, hm₁, hm₂]
      by_cases hr : b.runsCargo t <;> simp [cargoTargets, ht, List.filter_cons, hr]

/-- Either framework block calls `lipo` at most once, on the libraries of its group. -/
theorem makeFramework_lipo {name : String} {group : List (Target × Path)} {ok : Bool} {w w' : World}
    (hb : makeFramework h b name group w = .ok ok w') :
    ∃ run, w'.calls = w.calls ++ run ∧ ∀ c ∈ run, ∃ out, c.1 = lipoCreate out (group.map (·.2)) := by
  unfold makeFramework at hb
  dsimp only at hb
  split at hb
  · cases hb
    exact ⟨[], by simp, by simp⟩
  rw [pure_bind] at hb
  obtain ⟨fs₁, -, hb⟩ := Py.onFS_bind_eq_ok.mp hb
  split at hb
  · obtain ⟨fs₂, -, hb⟩ := Py.onFS_bind_eq_ok.mp hb
    cases hb
    exact ⟨[], by simp, by simp⟩
  · rw [runCommand_apply] at hb
    cases hb
    refine ⟨_, rfl, fun c hc => ?_⟩
    obtain rfl := List.mem_singleton.mp hc
    exact ⟨_, rfl⟩

theorem iosGroups_device (fs : FS) (ts : List Target) :
    ∀ e ∈ (iosGroups b fs ts).1, ∃ t ∈ ts, t.rustTarget = iosDeviceTriple ∧ e.2 = b.iosLibPath t := by
  intro e he
  simp only [iosGroups, List.mem_map, List.mem_filter, decide_eq_true_eq] at he
  obtain ⟨t, ⟨⟨ht, -⟩, hd⟩, rfl⟩ := he
  exact ⟨t, ht, hd, rfl⟩

theorem iosGroups_simulator (fs : FS) (ts : List Target) :
    ∀ e ∈ (iosGroups b fs ts).2, ∃ t ∈ ts, t.rustTarget ≠ iosDeviceTriple ∧ e.2 = b.iosLibPath t := by
  intro e he
  simp only [iosGroups, List.mem_map, List.mem_filter, decide_eq_true_eq] at he
  obtain ⟨t, ⟨⟨ht, -⟩, hd⟩, rfl⟩ := he
  exact ⟨t, ht, hd, rfl⟩

/-- The iOS bundle starts no process but `lipo`, and each `lipo` merges device libraries only
or simulator libraries only. -/
theorem packageIosBundle_lipo {ts : List Target} {r : Option Path} {w w' : World}
    (hb : packageIosBundle h b ts w = .ok r w') :
    ∃ run, w'.calls = w.calls ++ run ∧ ∀ c ∈ run, UnmixedLipo b ts c := by
  unfold packageIosBundle at hb
  obtain ⟨fs₁, -, hb⟩ := Py.onFS_bind_eq_ok.mp hb
  simp only [Py.get_bind] at hb
  have hdev := iosGroups_device b fs₁ ts
  have hsim := iosGroups_simulator b fs₁ ts
  rcases iosGroups b fs₁ ts with ⟨device, simulator⟩
  split at hb
  · cases hb
    exact ⟨[], by simp, by simp⟩
  rw [pure_bind] at hb
  obtain ⟨ok₁, w₂, h₂, hb⟩ := (Py.bind_eq_ok _).mp hb
  obtain ⟨run₁, hc₂, hl₂⟩ := makeFramework_lipo h b h₂
  have hu₁ : ∀ c ∈ run₁, UnmixedLipo b ts c := fun c hc =>
    let ⟨out, heq⟩ := hl₂ c hc
    ⟨out, _, heq, .inl fun p hp =>
      let ⟨e, he, hep⟩ := List.mem_map.mp hp
      hep ▸ hdev e he⟩
  split at hb
  · cases hb
    exact ⟨run₁, hc₂, hu₁⟩
  rw [pure_bind] at hb
  obtain ⟨ok₂, w₃, h₃, hb⟩ := (Py.bind_eq_ok _).mp hb
  obtain ⟨run₂, hc₃, hl₃⟩ := makeFramework_lipo h b h₃
  have hu : ∀ c ∈ run₁ ++ run₂, UnmixedLipo b ts c := fun c hc =>
    (List.mem_append.mp hc).elim (hu₁ c) fun hc =>
      let ⟨out, heq⟩ := hl₃ c hc
      ⟨out, _, heq, .inr fun p hp =>
        let ⟨e, he, hep⟩ := List.mem_map.mp hp
        hep ▸ hsim e he⟩
  have hcalls : w₃.calls = w.calls ++ (run₁ ++ run₂) := by rw [hc₃, hc₂, List.append_assoc]
  split at hb
  · cases hb
    exact ⟨_, hcalls, hu⟩
  rw [pure_bind] at hb
  refine ⟨_, (Py.KeepsCalls.calls_eq ?_ hb).trans hcalls, hu⟩
  exact (Py.KeepsCalls.forM (keepsCalls_addFrameworkMetadata b) _).bind fun _ =>
    (keepsCalls_copyIfExists _ _).bind fun _ => (Py.keepsCalls_onFS _).bind fun _ =>
      (Py.keepsCalls_onFS _).bind fun _ => (Py.keepsCalls_onFS _).bind fun _ => Py.keepsCalls_pure _

/-- After the loop, `build` starts no process but `lipo`, on device or simulator libraries
of the iOS targets it built. -/
theorem packageBundles_calls {s : LoopState} {w w' : World} (hpb : packageBundles h b s w = .ok () w') :
    ∃ run, w'.calls = w.calls ++ run ∧ ∀ c ∈ run, UnmixedLipo b s.iosTargets c := by
  unfold packageBundles at hpb
  simp only [pure_bind] at hpb
  obtain ⟨w₁, hk, hc₁⟩ : ∃ w₁, (if (!s.iosTargets.isEmpty) = true then
      (packageIosBundle h b s.iosTargets >>= fun _ => pure ()) else pure ()) w₁ = .ok () w' ∧
      w₁.calls = w.calls := by
    split at hpb
    · obtain ⟨_, w₁, h₁, hk⟩ := (Py.bind_eq_ok _).mp hpb
      exact ⟨w₁, hk, (keepsCalls_packageAndroidBundle b _).calls_eq h₁⟩
    · exact ⟨w, hpb, rfl⟩
  split at hk
  · obtain ⟨_, w₂, h₂, hk⟩ := (Py.bind_eq_ok _).mp hk
    cases hk
    obtain ⟨run, hc, hl⟩ := packageIosBundle_lipo h b h₂
    exact ⟨run, hc.trans (by rw [hc₁]), hl⟩
  · cases hk
    exact ⟨[], by simp [hc₁], by simp⟩

/-- With `cargo` found and every name in the registry, the mapping `build` returns has
the distinct requested names as keys, in first-request order. -/
theorem build_keys {targetNames : List String} {w w' : World} {results : List (String × Bool)}
    (hc : h.which "cargo" = true) (hvalid : ∀ n ∈ targetNames, isTarget n = true)
    (hb : build h b targetNames w = .ok results w') :
    results.map (·.1) = targetNames.eraseDups := by
  obtain ⟨fs₀, s, w₁, -, -, hl, -, rfl⟩ := build_eq_ok h b hc hvalid hb
  rw [foldlM_buildStep_keys h b hl, ← foldl_insertKey_eq_eraseDups]
  rfl

end RVPNSEBuilder

theorem build_keys_linux_twice :
    ∃ w', projBuilder.build linuxRebuildFails ["linux-x64", "linux-x64"] ⟨cargoProject, []⟩ =
      .ok [("linux-x64", false)] w' ∧
      [("linux-x64", false)].map (·.1) = ["linux-x64", "linux-x64"].eraseDups := by
  obtain ⟨w', hb, -⟩ := build_linux_twice_of_rebuild_failure
  exact ⟨w', hb, RVPNSEBuilder.build_keys linuxRebuildFails projBuilder rfl (by decide) hb⟩

namespace RVPNSEBuilder

variable (h : Host) (b : RVPNSEBuilder)

/-- With `cargo` found and every name in the registry, `build` starts `rustup` for each
registry triple, then `cargo` once per requested name in request order, an Android target
without an NDK aside, then nothing but `lipo`. -/
theorem build_calls (names : List String) (w : World) {results : List (String × Bool)} {w' : World}
    (hc : h.which "cargo" = true) (hvalid : ∀ n ∈ names, isTarget n = true)
    (hb : build h b names w = .ok results w') :
    ∃ cargo lipo, w'.calls = w.calls ++ rustupCalls h ++ cargo ++ lipo ∧
      cargo.map (·.1) = (b.cargoTargets names).map b.cargoBuild ∧ ∀ c ∈ lipo, isLipo c.1 = true := by
  obtain ⟨fs₀, s, w₁, -, -, hloop, hpb, -⟩ := build_eq_ok h b hc hvalid hb
  obtain ⟨cargo, hc₁, hm⟩ := foldlM_buildStep_calls h b hloop
  obtain ⟨lipo, hc₂, hl⟩ := packageBundles_calls h b hpb
  exact ⟨cargo, lipo, by rw [hc₂, hc₁], hm, fun c hc => (hl c hc).isLipo⟩

end RVPNSEBuilder

theorem build_calls_iosSim :
    ∃ w' cargo lipo, projBuilder.build macLipoFails ["ios-x64-sim", "ios-arm64-sim"] ⟨cargoProject, []⟩ =
      .ok [("ios-x64-sim", true), ("ios-arm64-sim", true)] w' ∧
      w'.calls = [] ++ RVPNSEBuilder.rustupCalls macLipoFails ++ cargo ++ lipo ∧
      cargo.map (·.1) = (projBuilder.cargoTargets ["ios-x64-sim", "ios-arm64-sim"]).map projBuilder.cargoBuild ∧
      ∀ c ∈ lipo, isLipo c.1 = true := by
  obtain ⟨w', hb, -⟩ := build_iosSim_of_lipo_failure
  obtain ⟨cargo, lipo, hc, hm, hl⟩ := RVPNSEBuilder.build_calls macLipoFails projBuilder _ _ rfl (by decide) hb
  exact ⟨w', cargo, lipo, hb, hc, hm, hl⟩

namespace RVPNSEBuilder

variable (h : Host) (b : RVPNSEBuilder)

/-- The loop puts on the iOS list only iOS targets of the names it handles. -/
theorem foldlM_buildStep_iosTargets {names : List String} {s s' : LoopState} {w w' : World}
    (hf : names.foldlM (buildStep h b) s w = .ok s' w') :
    ∀ t ∈ s'.iosTargets, t ∈ s.iosTargets ∨ t ∈ (names.filterMap lookupTarget).filter (·.platform = .ios) := by
  induction names generalizing s w with
  | nil =>
      cases hf
      exact fun t ht => .inl ht
  | cons n names ih =>
      rw [List.foldlM_cons] at hf
      obtain ⟨s₁, w₁, h₁, hf⟩ := (Py.bind_eq_ok _).mp hf
      obtain ⟨t₁, success, -, ht₁, -, -, rfl⟩ := buildStep_eq_ok h b h₁
      intro t ht
      rcases ih hf t ht with ht | ht
      · rcases List.mem_append.mp ht with ht | ht
        · exact .inl ht
        · split at ht
          · rename_i hcond
            rw [List.mem_singleton.mp ht]
            exact .inr (by simp [List.filterMap_cons, ht₁, hcond.2])
          · cases ht
      · exact .inr (by simp only [List.filterMap_cons, ht₁, List.filter_cons]; split_ifs <;> simp [ht])

/-- With `cargo` found and every name in the registry, each `lipo` call `build` starts
merges the libraries of requested iOS device targets only, or of requested iOS simulator
targets only. -/
theorem build_lipo_unmixed (names : List String) (w : World) {results : List (String × Bool)}
    {w' : World} (hc : h.which "cargo" = true) (hvalid : ∀ n ∈ names, isTarget n = true)
    (hb : build h b names w = .ok results w') :
    ∀ c ∈ w'.calls, isLipo c.1 = true →
      c ∈ w.calls ∨ UnmixedLipo b ((names.filterMap lookupTarget).filter (·.platform = .ios)) c := by
  obtain ⟨fs₀, s, w₁, -, -, hloop, hpb, -⟩ := build_eq_ok h b hc hvalid hb
  obtain ⟨cargo, hc₁, hm⟩ := foldlM_buildStep_calls h b hloop
  obtain ⟨lipo, hc₂, hl⟩ := packageBundles_calls h b hpb
  intro c hcw hlipo
  rw [hc₂, hc₁] at hcw
  simp only [List.mem_append] at hcw
  rcases hcw with ((hcw | hcw) | hcw) | hcw
  · exact .inl hcw
  · rw [isLipo_of_mem_rustupCalls h c hcw] at hlipo
    cases hlipo
  · have hmem : c.1 ∈ (b.cargoTargets names).map b.cargoBuild :=
      hm ▸ List.mem_map_of_mem (fun x : Call => x.1) hcw
    obtain ⟨t, -, ht⟩ := List.mem_map.mp hmem
    rw [← ht, isLipo_cargoBuild] at hlipo
    cases hlipo
  · exact .inr ((hl c hcw).mono b fun t ht =>
      (foldlM_buildStep_iosTargets h b hloop t ht).resolve_left (List.not_mem_nil t))

end RVPNSEBuilder

theorem build_lipo_unmixed_iosSim :
    ∃ w', projBuilder.build macLipoFails ["ios-x64-sim", "ios-arm64-sim"] ⟨cargoProject, []⟩ =
      .ok [("ios-x64-sim", true), ("ios-arm64-sim", true)] w' ∧
      ∀ c ∈ w'.calls, isLipo c.1 = true → c ∈ ([] : List Call) ∨
        projBuilder.UnmixedLipo ((["ios-x64-sim", "ios-arm64-sim"].filterMap lookupTarget).filter
          (·.platform = .ios)) c := by
  obtain ⟨w', hb, -⟩ := build_iosSim_of_lipo_failure
  exact ⟨w', hb, RVPNSEBuilder.build_lipo_unmixed macLipoFails projBuilder _ _ rfl (by decide) hb⟩

end RvpnseTools.Build
