import RvpnseTools.Build.Host

/-!
# Frames: what a step of the builder leaves alone

Each packager stages its files in a directory of its own below `dist/`,
archives that directory and removes it. Two frames say what a step may touch:
`ModifiesOnly F` allows changes at the paths `F` only, and `Within d` allows
changes strictly below the directory `d`, which stays a directory. A `Py`
computation is `Within d` when each of its normal returns is.

## Implementation notes

`mkdir` and a tool's writes create missing ancestors. Below a directory `d`
every missing ancestor of a path under `d` lies strictly below `d`
(`below_of_missing`), which is what makes `Within d` compose.
-/

namespace RvpnseTools.Build

theorem prefix_append_cons_iff (D : Path) (n : String) (s r : Path) :
    D ++ n :: s <+: D ++ n :: r ↔ s <+: r := by
  rw [List.prefix_append_right_inj, List.cons_prefix_cons]
  simp

namespace FS

variable {fs fs₁ fs₂ : FS} {F G : Path → Prop} {d p q : Path}

/-- `fs'` agrees with `fs` off the paths `F`. -/
def ModifiesOnly (F : Path → Prop) (fs fs' : FS) : Prop := ∀ q, ¬ F q → fs'.get q = fs.get q

theorem ModifiesOnly.refl (fs : FS) : fs.ModifiesOnly F fs := fun _ _ => rfl

theorem ModifiesOnly.trans (h₁ : fs.ModifiesOnly F fs₁) (h₂ : fs₁.ModifiesOnly F fs₂) :
    fs.ModifiesOnly F fs₂ := fun q hq => (h₂ q hq).trans (h₁ q hq)

theorem ModifiesOnly.mono (h : fs.ModifiesOnly F fs₁) (hFG : ∀ q, F q → G q) :
    fs.ModifiesOnly G fs₁ := fun q hq => h q (hq ∘ hFG q)

theorem modifiesOnly_erase (p : Path) : fs.ModifiesOnly (p <+: ·) (fs.erase p) := fun q hq => by
  simp [hq]

theorem modifiesOnly_insert (e : Entry) (hp he) : fs.ModifiesOnly (· = p) (fs.insert p e hp he) :=
  fun q hq => by simp [hq]

/-- `mkdirs` fills in the missing prefixes and nothing else. -/
theorem modifiesOnly_mkdirs (hf) :
    fs.ModifiesOnly (fun q => q <+: p ∧ fs.get q = none) (fs.mkdirs p hf) := fun q hq => by
  rw [mkdirs_get, if_neg (by simpa only [Option.isNone_iff_eq_none] using hq)]

/-- A tool's write changes the written path and its missing prefixes. -/
theorem modifiesOnly_putFile (data : String) :
    fs.ModifiesOnly (fun q => q <+: p ∧ (q = p ∨ fs.get q = none)) (fs.putFile p data) := fun q hq => by
  rw [putFile_get]
  split_ifs with _ h₁ h₂
  · exact absurd ⟨h₁ ▸ List.prefix_rfl, .inl h₁⟩ hq
  · exact absurd ⟨h₂.1.trans p.dropLast_prefix, .inr (Option.isNone_iff_eq_none.mp h₂.2)⟩ hq
  all_goals rfl

theorem modifiesOnly_write {e : Entry} (h : fs.write p e = .ok fs₁) : fs.ModifiesOnly (· = p) fs₁ := by
  obtain ⟨hp, he, rfl⟩ := write_eq_ok fs h
  exact modifiesOnly_insert e hp he

theorem modifiesOnly_of_mkdir {parents existOk : Bool} (h : fs.mkdir p parents existOk = .ok fs₁) :
    fs.ModifiesOnly (· <+: p) fs₁ := by
  obtain ⟨hf, rfl⟩ := mkdir_eq_ok fs h
  exact (modifiesOnly_mkdirs hf).mono fun _ hq => hq.1

/-- A `mkdir` below the directory `d` creates only paths below the first new component. -/
theorem modifiesOnly_mkdir_below {parents existOk : Bool} {x : String} {r : Path}
    (hd : fs.get d = some .dir) (h : fs.mkdir (d ++ x :: r) parents existOk = .ok fs₁) :
    fs.ModifiesOnly (d ++ [x] <+: ·) fs₁ := by
  obtain ⟨hf, rfl⟩ := mkdir_eq_ok fs h
  refine (modifiesOnly_mkdirs hf).mono fun q ⟨hq, hn⟩ => ?_
  rcases List.prefix_or_prefix_of_prefix hq (by simp : d ++ [x] <+: d ++ x :: r) with h' | h'
  · rcases List.prefix_concat_iff.mp h' with rfl | h'
    · exact List.prefix_rfl
    · simp [fs.dir_of_ancestor hd h'] at hn
  · exact h'

/-- After a successful `mkdir` the path is a directory. -/
theorem get_of_mkdir {parents existOk : Bool} (h : fs.mkdir p parents existOk = .ok fs₁) :
    fs₁.get p = some .dir := by
  obtain ⟨hf, rfl⟩ := mkdir_eq_ok fs h
  rcases (prefixesFree_iff fs).mp hf p List.prefix_rfl with h | h <;> simp [h]

/-- `shutil.copy2` into a directory writes the file of the source's name there. -/
theorem modifiesOnly_copy2 {src : Path} (hd : fs.get d = some .dir) (h : fs.copy2 src d = .ok fs₁) :
    fs.ModifiesOnly (· = d ++ [baseName src]) fs₁ := by
  obtain ⟨e, -, -, hw⟩ := copy2_eq_ok fs h
  rw [show fs.isDir d = true from (isDir_iff fs).mpr hd, if_pos rfl] at hw
  exact modifiesOnly_write hw

/-- `shutil.copy2` into a directory puts the source's entry under the source's name. -/
theorem copy2_get_into {src : Path} (hd : fs.get d = some .dir) (h : fs.copy2 src d = .ok fs₁) :
    fs₁.get (d ++ [baseName src]) = fs.get src := by
  obtain ⟨e, hs, -, hw⟩ := copy2_eq_ok fs h
  rw [show fs.isDir d = true from (isDir_iff fs).mpr hd, if_pos rfl] at hw
  obtain ⟨hp, he, rfl⟩ := write_eq_ok fs hw
  simp [hs]

/-- `shutil.copy2` changes nothing off the subtree of its destination. -/
theorem modifiesOnly_of_copy2 {src dst : Path} (h : fs.copy2 src dst = .ok fs₁) :
    fs.ModifiesOnly (dst <+: ·) fs₁ := by
  obtain ⟨e, -, -, hw⟩ := copy2_eq_ok fs h
  refine (modifiesOnly_write hw).mono fun q hq => ?_
  subst hq
  split
  · exact List.prefix_append _ _
  · exact List.prefix_rfl

/-- After `shutil.copy2` something lies at the destination. -/
theorem copy2_get_isSome {src dst : Path} (h : fs.copy2 src dst = .ok fs₁) : (fs₁.get dst).isSome := by
  obtain ⟨e, -, -, hw⟩ := copy2_eq_ok fs h
  obtain ⟨hp, he, rfl⟩ := write_eq_ok fs hw
  by_cases hd : fs.isDir dst = true
  · simp [hd, (isDir_iff fs).mp hd]
  · simp [hd]

/-- Staging files in a fresh directory, archiving it at `a` and removing it leaves only
the archive. -/
theorem get_of_stage_archive {fs₃ : FS} {dir a : Path} {e : Entry} (hdir : fs.get dir = none)
    (hstage : fs.ModifiesOnly (dir <+: ·) fs₁) (ha : ¬ dir <+: a) (hw : fs₁.write a e = .ok fs₂)
    (hrm : fs₂.rmtree dir = .ok fs₃) (q : Path) : fs₃.get q = if q = a then some e else fs.get q := by
  obtain ⟨-, rfl⟩ := (rmtree_eq_ok fs₂).mp hrm
  obtain ⟨hp, he, rfl⟩ := write_eq_ok fs₁ hw
  by_cases hq : dir <+: q
  · have hqa : q ≠ a := fun h => ha (h ▸ hq)
    simp [hq, hqa, fs.get_eq_none_below hdir hq]
  · simp only [erase_get, hq, if_false, insert_get]
    split_ifs
    · rfl
    · exact hstage q hq

/-- A missing prefix of a path below the directory `d` lies strictly below `d`. -/
theorem below_of_missing (hd : fs.get d = some .dir) (hdp : d <+: p) (hqp : q <+: p)
    (hq : fs.get q = none) : d <+: q ∧ q ≠ d := by
  rcases List.prefix_or_prefix_of_prefix hqp hdp with h | h
  · simp [fs.dir_of_ancestor hd h] at hq
  · exact ⟨h, fun h' => by simp [h', hd] at hq⟩

theorem below_of_append_singleton {x : String} (h : d ++ [x] <+: p) : d <+: p ∧ p ≠ d :=
  ⟨(List.prefix_append d [x]).trans h, fun h' => by
    have := h.length_le
    simp only [h', List.length_append, List.length_singleton] at this
    omega⟩

/-- `fs'` changes only what lies strictly below `d`, when `d` is a directory of `fs`. -/
def Within (d : Path) (fs fs' : FS) : Prop :=
  fs.get d = some .dir → fs.ModifiesOnly (fun q => d <+: q ∧ q ≠ d) fs'

theorem Within.refl (fs : FS) : fs.Within d fs := fun _ => .refl fs

theorem Within.get_dir (h : fs.Within d fs₁) (hd : fs.get d = some .dir) : fs₁.get d = some .dir :=
  (h hd d fun h => h.2 rfl).trans hd

theorem Within.trans (h₁ : fs.Within d fs₁) (h₂ : fs₁.Within d fs₂) : fs.Within d fs₂ := fun hd =>
  (h₁ hd).trans (h₂ (h₁.get_dir hd))

/-- Off the subtree of `d` nothing changes. -/
theorem Within.get_of_not_below (h : fs.Within d fs₁) (hd : fs.get d = some .dir) (hq : ¬ d <+: q) :
    fs₁.get q = fs.get q :=
  h hd q fun h => hq h.1

theorem within_mkdirs (hdp : d <+: p) (hf) : fs.Within d (fs.mkdirs p hf) := fun hd =>
  (modifiesOnly_mkdirs hf).mono fun _ hq => below_of_missing hd hdp hq.1 hq.2

theorem within_putFile {x : String} (hp : d ++ [x] <+: p) (data : String) :
    fs.Within d (fs.putFile p data) := fun hd =>
  (modifiesOnly_putFile data).mono fun _ ⟨hqp, h⟩ =>
    h.elim (fun h => h ▸ below_of_append_singleton hp)
      (below_of_missing hd (below_of_append_singleton hp).1 hqp)

theorem within_putFiles {x : String} {a : Path} (ha : d ++ [x] <+: a) (files : List (Path × String)) :
    fs.Within d (fs.putFiles a files) := by
  induction files generalizing fs with
  | nil => exact .refl fs
  | cons f files ih => exact (within_putFile (ha.trans (List.prefix_append a f.1)) f.2).trans ih

theorem Within.of_mkdir {parents existOk : Bool} (hdp : d <+: p) (h : fs.mkdir p parents existOk = .ok fs₁) :
    fs.Within d fs₁ := by
  obtain ⟨hf, rfl⟩ := mkdir_eq_ok fs h
  exact within_mkdirs hdp hf

theorem Within.of_write {x : String} {e : Entry} (hp : d ++ [x] <+: p) (h : fs.write p e = .ok fs₁) :
    fs.Within d fs₁ := fun _ =>
  (modifiesOnly_write h).mono fun _ hq => hq ▸ below_of_append_singleton hp

theorem Within.modifiesOnly (h : fs.Within d fs₁) (hd : fs.get d = some .dir) :
    fs.ModifiesOnly (d <+: ·) fs₁ :=
  (h hd).mono fun _ h => h.1

theorem Within.of_copy2_into {src : Path} (h : fs.copy2 src d = .ok fs₁) : fs.Within d fs₁ := fun hd =>
  (modifiesOnly_copy2 hd h).mono fun _ hq => hq ▸ below_of_append_singleton List.prefix_rfl

theorem Within.of_copy2 {x : String} {src dst : Path} (hp : d ++ [x] <+: dst)
    (h : fs.copy2 src dst = .ok fs₁) : fs.Within d fs₁ := by
  obtain ⟨e, -, -, hw⟩ := copy2_eq_ok fs h
  split at hw
  · exact .of_write (hp.trans (List.prefix_append _ _)) hw
  · exact .of_write hp hw

/-- A write sets one path. -/
theorem write_get {e : Entry} (h : fs.write p e = .ok fs₁) (q : Path) :
    fs₁.get q = if q = p then some e else fs.get q := by
  obtain ⟨hp, he, rfl⟩ := write_eq_ok fs h
  rfl

/-- An entry written off a directory outlives the removal of the directory. -/
theorem get_of_write_rmtree {e : Entry} (ha : ¬ d <+: p) (hw : fs.write p e = .ok fs₁)
    (hrm : fs₁.rmtree d = .ok fs₂) : fs₂.get p = some e := by
  obtain ⟨-, rfl⟩ := (rmtree_eq_ok fs₁).mp hrm
  rw [erase_get, if_neg ha, write_get hw, if_pos rfl]

/-- Creating a child of a directory sets one path. -/
theorem mkdir_child_get {x : String} {parents existOk : Bool} (hd : fs.get d = some .dir)
    (h : fs.mkdir (d ++ [x]) parents existOk = .ok fs₁) (q : Path) :
    fs₁.get q = if q = d ++ [x] then some .dir else fs.get q := by
  split_ifs with hq
  · exact hq ▸ get_of_mkdir h
  · by_cases hb : d ++ [x] <+: q
    · exact modifiesOnly_of_mkdir h q fun h' => hq (h'.eq_of_length (le_antisymm h'.length_le hb.length_le))
    · exact modifiesOnly_mkdir_below hd h q hb

/-- `shutil.copy2` into a directory sets one path. -/
theorem copy2_into_get {src : Path} (hd : fs.get d = some .dir) (h : fs.copy2 src d = .ok fs₁) (q : Path) :
    fs₁.get q = if q = d ++ [baseName src] then fs.get src else fs.get q := by
  split_ifs with hq
  · exact hq ▸ copy2_get_into hd h
  · exact modifiesOnly_copy2 hd h q hq

/-- `shutil.copy2` onto a path that is no directory sets that path. -/
theorem copy2_onto_get {src dst : Path} (hd : fs.isDir dst = false) (h : fs.copy2 src dst = .ok fs₁)
    (q : Path) : fs₁.get q = if q = dst then fs.get src else fs.get q := by
  obtain ⟨e, hs, -, hw⟩ := copy2_eq_ok fs h
  simp only [hd, Bool.false_eq_true, if_false] at hw
  rw [write_get hw, hs]

/-- A tool writing at `d ++ [x]`, with `d` a directory, changes only what lies below `d ++ [x]`. -/
theorem modifiesOnly_putFiles_below {x : String} (hd : fs.get d = some .dir) (files : List (Path × String)) :
    fs.ModifiesOnly (d ++ [x] <+: ·) (fs.putFiles (d ++ [x]) files) := fun q hq => by
  rcases fs.putFiles_get_eq_or_below (d ++ [x]) files q with h | ⟨f, -, hf⟩
  · exact h
  by_cases hdq : d <+: q ∧ q ≠ d
  · obtain ⟨⟨t, rfl⟩, hne⟩ := hdq
    rw [List.append_assoc, List.prefix_append_right_inj] at hf
    cases t with
    | nil => exact absurd (List.append_nil d) hne
    | cons y t =>
        obtain ⟨rfl, -⟩ := List.cons_prefix_cons.mp hf
        exact absurd ((List.prefix_append_right_inj _).mpr (List.cons_prefix_cons.mpr ⟨rfl, List.nil_prefix⟩)) hq
  · exact within_putFiles List.prefix_rfl files hd q hdq


end FS

namespace Py

variable {α β : Type} {d : Path}

/-- Every normal return of `x` changes only what lies strictly below the directory `d`. -/
def Within (d : Path) (x : Py α) : Prop := ∀ w a w', x w = .ok a w' → w.fs.Within d w'.fs

theorem within_pure (a : α) : Within d (pure a : Py α) := fun _ _ _ h => by
  cases h
  exact .refl _

theorem Within.bind {x : Py α} {f : α → Py β} (hx : Within d x) (hf : ∀ a, Within d (f a)) :
    Within d (x >>= f) := fun w _ _ h => by
  obtain ⟨a, w₁, h₁, h₂⟩ := (bind_eq_ok w).mp h
  exact (hx _ _ _ h₁).trans (hf a _ _ _ h₂)

theorem Within.map {x : Py α} (f : α → β) (hx : Within d x) : Within d (f <$> x) := fun w _ _ h => by
  rw [map_apply] at h
  split at h <;> cases h
  exact hx _ _ _ ‹_›

theorem Within.ite {c : Prop} [Decidable c] {x y : Py α} (hx : Within d x) (hy : Within d y) :
    Within d (if c then x else y) := by
  split <;> assumption

theorem Within.forM {γ : Type} {f : γ → Py PUnit} (hf : ∀ a, Within d (f a)) (l : List γ) :
    Within d (l.forM f) := by
  induction l with
  | nil => exact within_pure _
  | cons a l ih => exact (hf a).bind fun _ => ih

theorem within_pathExists (p : Path) : Within d (pathExists p) := fun _ _ _ h => by
  cases h
  exact .refl _

theorem within_onFS {f : FS → Except Exc FS} (hf : ∀ fs fs', f fs = .ok fs' → fs.Within d fs') :
    Within d (onFS f) := fun w _ _ h => by
  obtain ⟨fs, hfs, rfl⟩ := (onFS_eq_ok w f).mp h
  exact hf _ _ hfs

@[simp] theorem pathExists_bind (p : Path) (f : Bool → Py α) (w : World) :
    (pathExists p >>= f) w = f (w.fs.pathExists p) w := rfl

@[simp] theorem get_bind (f : World → Py α) (w : World) : ((get : Py World) >>= f) w = f w w := rfl

/-- Peel a file-system step off a computation that returned normally. -/
theorem onFS_bind_eq_ok {f : FS → Except Exc FS} {g : Unit → Py β} {b : β} {w w' : World} :
    (onFS f >>= g) w = .ok b w' ↔ ∃ fs, f w.fs = .ok fs ∧ g () { w with fs } = .ok b w' := by
  rw [bind_eq_ok]
  constructor
  · rintro ⟨⟨⟩, w₁, h₁, h⟩
    obtain ⟨fs, hfs, rfl⟩ := (onFS_eq_ok w f).mp h₁
    exact ⟨fs, hfs, h⟩
  · rintro ⟨fs, hfs, h⟩
    exact ⟨(), _, (onFS_eq_ok w f).mpr ⟨fs, hfs, rfl⟩, h⟩

/-- A computation that first reads the world. -/
theorem within_get_bind {f : World → Py α} (hf : ∀ w, Within d (f w)) :
    Within d ((get : Py World) >>= f) :=
  Within.bind (fun _ _ _ h => by cases h; exact .refl _) hf

/-- A successful computation that starts no process keeps the calls. -/
theorem KeepsCalls.calls_eq {x : Py α} (hx : KeepsCalls x) {w w' : World} {a : α}
    (h : x w = .ok a w') : w'.calls = w.calls := by
  simpa [h, after] using hx w

end Py

namespace RVPNSEBuilder

variable (h : Host) (b : RVPNSEBuilder)

/-- A tool whose output lies strictly below `d` writes only there. -/
theorem within_runCommand {d : Path} {x : String} {cmd : Cmd} (env : Option Env)
    (ha : ∀ a, b.outputArea cmd = some a → d ++ [x] <+: a) : Py.Within d (runCommand h b cmd env) :=
  fun w _ _ hr => by
    rw [runCommand_apply] at hr
    cases hr
    split
    · exact FS.within_putFiles (ha _ ‹_›) _
    · exact .refl _

end RVPNSEBuilder

end RvpnseTools.Build
