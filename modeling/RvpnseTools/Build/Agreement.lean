import RvpnseTools.Build.Host

/-!
# Two runs that agree on a region

Two worlds agree on a set of paths when they have made the same calls and hold
the same entry at every path of the set. A computation respects a pair of
regions when, run from two worlds that agree on the first, it returns the same
value in both runs and leaves worlds that agree on the second. Each file-system
operation, each process and each combinator of Python code respects suitable
regions, so that a whole program's agreement is assembled from theirs.

## Implementation notes

Only runs that return in both worlds are compared: a run that raises in one
world says nothing about the other. A process receives the same call and the
same history in both runs, so the host answers it alike, and it writes the same
files; where the files land depends only on the entries along their paths.
-/

namespace RvpnseTools.Build

namespace FS

/-- Two states hold the same entry at every path of `R`. -/
def AgreeOn (R : Path → Prop) (fs₁ fs₂ : FS) : Prop := ∀ p, R p → fs₁.get p = fs₂.get p

variable {R : Path → Prop} {fs₁ fs₂ : FS} {p : Path}

theorem AgreeOn.erase (h : AgreeOn R fs₁ fs₂) (p : Path) : AgreeOn R (fs₁.erase p) (fs₂.erase p) :=
  fun q hq => by simp [h q hq]

theorem AgreeOn.mkdirs (h : AgreeOn R fs₁ fs₂) (hf₁ hf₂) :
    AgreeOn R (fs₁.mkdirs p hf₁) (fs₂.mkdirs p hf₂) :=
  fun q hq => by simp only [mkdirs_get]; rw [h q hq]

theorem AgreeOn.insert (h : AgreeOn R fs₁ fs₂) (e : Entry) (hp₁ he₁ hp₂ he₂) :
    AgreeOn R (fs₁.insert p e hp₁ he₁) (fs₂.insert p e hp₂ he₂) :=
  fun q hq => by simp [h q hq]

/-- Whether the prefixes of `p` leave room for a directory depends on them alone. -/
theorem prefixesFree_congr (h : ∀ q, q <+: p → fs₁.get q = fs₂.get q) :
    fs₁.prefixesFree p = fs₂.prefixesFree p := by
  refine Bool.eq_iff_iff.mpr ?_
  simp only [prefixesFree_iff]
  exact forall_congr' fun q => imp_congr_right fun hq => by rw [h q hq]

/-- A tool's write lands alike where the prefixes of its path agree. -/
theorem AgreeOn.putFile (h : AgreeOn R fs₁ fs₂) (hp : ∀ q, q <+: p → R q) (d : String) :
    AgreeOn R (fs₁.putFile p d) (fs₂.putFile p d) := fun q hq => by
  have hpre : fs₁.prefixesFree p.dropLast = fs₂.prefixesFree p.dropLast :=
    prefixesFree_congr fun q' hq' => h q' (hp q' (hq'.trans p.dropLast_prefix))
  have hdir : fs₁.isDir p = fs₂.isDir p := by rw [isDir, isDir, h p (hp p List.prefix_rfl)]
  simp only [putFile_get, hpre, hdir, h q hq]

theorem AgreeOn.putFiles (h : AgreeOn R fs₁ fs₂) (a : Path) (files : List (Path × String))
    (ha : ∀ f ∈ files, ∀ q, q <+: a ++ f.1 → R q) :
    AgreeOn R (fs₁.putFiles a files) (fs₂.putFiles a files) := by
  induction files generalizing fs₁ fs₂ with
  | nil => exact h
  | cons f files ih =>
    exact ih (h.putFile (ha f (.head _)) f.2) fun f' hf' => ha f' (.tail _ hf')

end FS

/-- Two worlds have made the same calls and agree on `R`. -/
def Agree (R : Path → Prop) (w₁ w₂ : World) : Prop := w₁.calls = w₂.calls ∧ w₁.fs.AgreeOn R w₂.fs

/-- Run from worlds agreeing on `R`, `x` returns alike in both and leaves worlds
agreeing on `R'`, whenever it returns in both. -/
def Respects {α : Type} (R R' : Path → Prop) (x : Py α) : Prop :=
  ∀ ⦃w₁ w₂ : World⦄ ⦃a₁ a₂ : α⦄ ⦃w₁' w₂' : World⦄, Agree R w₁ w₂ →
    x w₁ = .ok a₁ w₁' → x w₂ = .ok a₂ w₂' → a₁ = a₂ ∧ Agree R' w₁' w₂'

namespace Respects

variable {α β : Type} {R R' R'' : Path → Prop}

/-- Sequencing where the continuation need only be compared after results of `x`
satisfying `P`. -/
theorem bind_of {x : Py α} {f : α → Py β} (P : α → Prop) (hx : Respects R R' x)
    (hP : ∀ ⦃w a w'⦄, x w = .ok a w' → P a) (hf : ∀ a, P a → Respects R' R'' (f a)) :
    Respects R R'' (x >>= f) := fun w₁ w₂ b₁ b₂ w₁' w₂' hw h₁ h₂ => by
  obtain ⟨a₁, v₁, hx₁, hf₁⟩ := (Py.bind_eq_ok _).mp h₁
  obtain ⟨a₂, v₂, hx₂, hf₂⟩ := (Py.bind_eq_ok _).mp h₂
  obtain ⟨rfl, hv⟩ := hx hw hx₁ hx₂
  exact hf a₁ (hP hx₁) hv hf₁ hf₂

theorem bind {x : Py α} {f : α → Py β} (hx : Respects R R' x) (hf : ∀ a, Respects R' R'' (f a)) :
    Respects R R'' (x >>= f) :=
  bind_of (fun _ => True) hx (fun _ _ _ _ => trivial) fun a _ => hf a

theorem throw (e : Exc) : Respects R R' (throw e : Py α) := fun _ _ _ _ _ _ _ h₁ => by
  cases h₁

theorem pure (a : α) : Respects R R (pure a : Py α) := fun _ _ _ _ _ _ hw h₁ h₂ => by
  cases h₁; cases h₂; exact ⟨rfl, hw⟩

theorem map {x : Py α} (f : α → β) (hx : Respects R R' x) : Respects R R' (f <$> x) :=
  fun w₁ w₂ b₁ b₂ w₁' w₂' hw h₁ h₂ => by
    rw [Py.map_apply] at h₁ h₂
    split at h₁ <;> rename_i a₁ v₁ hx₁ <;> cases h₁
    split at h₂ <;> rename_i a₂ v₂ hx₂ <;> cases h₂
    obtain ⟨rfl, hv⟩ := hx hw hx₁ hx₂
    exact ⟨rfl, hv⟩

theorem ite {c : Prop} [Decidable c] {x y : Py α} (hx : Respects R R' x) (hy : Respects R R' y) :
    Respects R R' (if c then x else y) := by
  split <;> assumption

theorem mono {R₀ R₀' : Path → Prop} {x : Py α} (hx : Respects R R' x) (h₀ : ∀ p, R p → R₀ p)
    (h₀' : ∀ p, R₀' p → R' p) : Respects R₀ R₀' x := fun _ _ _ _ _ _ hw h₁ h₂ => by
  obtain ⟨rfl, hc, hfs⟩ := hx ⟨hw.1, fun p hp => hw.2 p (h₀ p hp)⟩ h₁ h₂
  exact ⟨rfl, hc, fun p hp => hfs p (h₀' p hp)⟩

theorem forM {γ : Type} {f : γ → Py PUnit} {l : List γ} (hf : ∀ a ∈ l, Respects R R (f a)) :
    Respects R R (l.forM f) := by
  induction l with
  | nil => exact pure _
  | cons a l ih =>
    exact (hf a (.head _)).bind fun _ => ih fun a' ha' => hf a' (.tail _ ha')

/-- A loop whose iteration over `a` takes the region of the elements so far to that of
one more, from any accumulator, takes the region of none to that of all. -/
theorem foldlM {σ γ : Type} {f : σ → γ → Py σ} (I : List γ → Path → Prop)
    (hf : ∀ s pre a, Respects (I pre) (I (pre ++ [a])) (f s a)) (pre l : List γ) (s : σ) :
    Respects (I pre) (I (pre ++ l)) (l.foldlM f s) := by
  induction l generalizing pre s with
  | nil => simpa using pure s
  | cons a l ih =>
    rw [List.foldlM_cons]
    exact (hf s pre a).bind fun s' => by simpa using ih (pre ++ [a]) s'

/-- A read of the world that leads to one computation in both runs. -/
theorem get_bind {f : World → Py α} (hf : ∀ w₁ w₂, Agree R w₁ w₂ → f w₁ = f w₂)
    (hf' : ∀ w, Respects R R' (f w)) : Respects R R' (get >>= f) :=
  fun w₁ w₂ _ _ _ _ hw h₁ h₂ => by
    simp only [Py.bind_apply, Py.get_apply] at h₁ h₂
    rw [hf w₁ w₂ hw] at h₁
    exact hf' w₂ hw h₁ h₂

end Respects

namespace Py

variable {R R' : Path → Prop}

theorem respects_pathExists {p : Path} (hp : R p) : Respects R R (pathExists p) :=
  fun w₁ w₂ _ _ _ _ hw h₁ h₂ => by
    cases h₁; cases h₂
    exact ⟨by rw [FS.pathExists, FS.pathExists, hw.2 p hp], hw⟩

/-- A file-system operation whose two successful results agree on `R'` whenever its
inputs agree on `R`. -/
theorem respects_onFS {f : FS → Except Exc FS}
    (hf : ∀ ⦃fs₁ fs₂ fs₁' fs₂'⦄, fs₁.AgreeOn R fs₂ → f fs₁ = .ok fs₁' → f fs₂ = .ok fs₂' →
      fs₁'.AgreeOn R' fs₂') :
    Respects R R' (onFS f) := fun w₁ w₂ _ _ _ _ hw h₁ h₂ => by
  obtain ⟨fs₁, hf₁, rfl⟩ := (onFS_eq_ok _ _).mp h₁
  obtain ⟨fs₂, hf₂, rfl⟩ := (onFS_eq_ok _ _).mp h₂
  exact ⟨rfl, hw.1, hf hw.2 hf₁ hf₂⟩

/-- After `if p.exists(): shutil.rmtree(p)` in both runs, nothing lies at or below `p`
in either. -/
theorem respects_removeIfExists (p : Path) :
    Respects R (fun q => R q ∨ p <+: q) (removeIfExists p) := fun w₁ w₂ _ _ _ _ hw h₁ h₂ => by
  obtain ⟨-, rfl⟩ := (removeIfExists_eq_ok _ _).mp h₁
  obtain ⟨-, rfl⟩ := (removeIfExists_eq_ok _ _).mp h₂
  refine ⟨rfl, hw.1, fun q hq => ?_⟩
  by_cases hpq : p <+: q
  · simp [hpq]
  · simpa [hpq] using hw.2 q (hq.resolve_right hpq)

end Py

namespace FS

variable {R : Path → Prop} {fs₁ fs₂ fs₁' fs₂' : FS}

theorem AgreeOn.rmtree {p : Path} (h : fs₁.AgreeOn R fs₂) (h₁ : fs₁.rmtree p = .ok fs₁')
    (h₂ : fs₂.rmtree p = .ok fs₂') : fs₁'.AgreeOn R fs₂' := by
  obtain ⟨-, rfl⟩ := (rmtree_eq_ok _).mp h₁
  obtain ⟨-, rfl⟩ := (rmtree_eq_ok _).mp h₂
  exact h.erase p

theorem AgreeOn.mkdir {p : Path} {parents existOk : Bool} (h : fs₁.AgreeOn R fs₂)
    (h₁ : fs₁.mkdir p parents existOk = .ok fs₁') (h₂ : fs₂.mkdir p parents existOk = .ok fs₂') :
    fs₁'.AgreeOn R fs₂' := by
  obtain ⟨_, rfl⟩ := mkdir_eq_ok _ h₁
  obtain ⟨_, rfl⟩ := mkdir_eq_ok _ h₂
  exact h.mkdirs _ _

theorem AgreeOn.write {p : Path} {e : Entry} (h : fs₁.AgreeOn R fs₂) (h₁ : fs₁.write p e = .ok fs₁')
    (h₂ : fs₂.write p e = .ok fs₂') : fs₁'.AgreeOn R fs₂' := by
  obtain ⟨_, _, rfl⟩ := write_eq_ok _ h₁
  obtain ⟨_, _, rfl⟩ := write_eq_ok _ h₂
  exact h.insert e _ _ _ _

/-- `copy2` copies alike when its source and destination agree. -/
theorem AgreeOn.copy2 {src dst : Path} (h : fs₁.AgreeOn R fs₂) (hsrc : R src) (hdst : R dst)
    (h₁ : fs₁.copy2 src dst = .ok fs₁') (h₂ : fs₂.copy2 src dst = .ok fs₂') : fs₁'.AgreeOn R fs₂' := by
  obtain ⟨e₁, he₁, -, hw₁⟩ := copy2_eq_ok _ h₁
  obtain ⟨e₂, he₂, -, hw₂⟩ := copy2_eq_ok _ h₂
  have he : e₁ = e₂ := Option.some_injective _ (he₁.symm.trans ((h src hsrc).trans he₂))
  have hd : fs₁.isDir dst = fs₂.isDir dst := by rw [isDir, isDir, h dst hdst]
  rw [he, hd] at hw₁
  exact h.write hw₁ hw₂

/-- An archive of a directory whose whole subtree agrees is written alike. -/
theorem AgreeOn.makeArchive {base root : Path} {fmt : ArchiveFormat} (h : fs₁.AgreeOn R fs₂)
    (hroot : ∀ q, R (root ++ q)) (h₁ : fs₁.makeArchive base fmt root = .ok fs₁')
    (h₂ : fs₂.makeArchive base fmt root = .ok fs₂') : fs₁'.AgreeOn R fs₂' := by
  have hsub : fs₁.subtree root = fs₂.subtree root := by
    funext q
    cases q with
    | nil => rfl
    | cons a q => exact h _ (hroot _)
  have hw₁ := (makeArchive_eq_ok _ h₁).2
  rw [hsub] at hw₁
  exact h.write hw₁ (makeArchive_eq_ok _ h₂).2

end FS

namespace Py

variable {R : Path → Prop}

theorem respects_mkdir (p : Path) (parents existOk : Bool) :
    Respects R R (onFS (·.mkdir p parents existOk)) :=
  respects_onFS fun _ _ _ _ h h₁ h₂ => h.mkdir h₁ h₂

theorem respects_rmtree (p : Path) : Respects R R (onFS (·.rmtree p)) :=
  respects_onFS fun _ _ _ _ h h₁ h₂ => h.rmtree h₁ h₂

theorem respects_writeText (p : Path) (s : String) : Respects R R (onFS (·.writeText p s)) :=
  respects_onFS fun _ _ _ _ h h₁ h₂ => h.write h₁ h₂

theorem respects_copy2 {src dst : Path} (hsrc : R src) (hdst : R dst) :
    Respects R R (onFS (·.copy2 src dst)) :=
  respects_onFS fun _ _ _ _ h h₁ h₂ => h.copy2 hsrc hdst h₁ h₂

theorem respects_makeArchive (base : Path) (fmt : ArchiveFormat) {root : Path}
    (hroot : ∀ q, R (root ++ q)) : Respects R R (onFS (·.makeArchive base fmt root)) :=
  respects_onFS fun _ _ _ _ h h₁ h₂ => h.makeArchive hroot h₁ h₂

end Py

namespace RVPNSEBuilder

variable (h : Host) (b : RVPNSEBuilder) {R : Path → Prop}

/-- A process started alike in both runs answers alike and writes alike, where the
prefixes of everything it may write agree. -/
theorem respects_runCommand (cmd : Cmd) (env : Option Env)
    (harea : ∀ a, b.outputArea cmd = some a → ∀ q r, q <+: a ++ r → R q) :
    Respects R R (runCommand h b cmd env) := fun w₁ w₂ _ _ _ _ hw h₁ h₂ => by
  rw [runCommand_apply] at h₁ h₂
  cases h₁; cases h₂
  rw [hw.1]
  refine ⟨rfl, rfl, ?_⟩
  split
  · rename_i a ha
    exact hw.2.putFiles a _ fun f _ q hq => harea a ha q f.1 hq
  · exact hw.2

end RVPNSEBuilder

end RvpnseTools.Build
