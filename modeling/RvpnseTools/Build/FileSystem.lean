import Mathlib.Data.List.Infix

/-!
# The file system as the builder sees it

A path is the list of its components from the root. A file-system state maps
each path to what lies there and is a tree: every proper ancestor of an
occupied path is a directory, so a missing directory has nothing below it.
The operations are the `pathlib` and `shutil` calls of `tools/build.py`, each
with the Python exception it raises on a path of the wrong kind, and each
keeps the state a tree. An archive written by `shutil.make_archive` keeps the
tree it was made from, so a later reader can ask what a package held.

## Implementation notes

`mkdir(parents=True)` fails with `NotADirectoryError` when a prefix is a file.
A tool writes files only; it creates the directories above each file and
skips a file whose place is taken by a directory or lies below a file.
Permission bits (`chmod`) are not modelled, and neither are symbolic links:
every path holds a directory, a file, an archive or nothing, so a `target/`,
`dist/` or NDK path that is a link (on which `shutil.rmtree` raises and through
which `Path.exists` looks) lies outside the model.
-/

namespace RvpnseTools.Build

/-- A path: its components from the file-system root. -/
abbrev Path := List String

/-- The two `shutil.make_archive` formats the builder asks for. -/
inductive ArchiveFormat where
  | zip
  | gztar
  deriving DecidableEq, Repr

/-- The extension `shutil.make_archive` appends to its base name. -/
def ArchiveFormat.ext : ArchiveFormat → String
  | .zip => ".zip"
  | .gztar => ".tar.gz"

/-- What lies at a path. An archive is a regular file that keeps the members it
was made from, by path relative to the archived directory. -/
inductive Entry where
  | dir
  | file (data : String)
  | archive (format : ArchiveFormat) (members : Path → Option Entry)

/-- Whether an entry is a directory. -/
def Entry.isDir : Entry → Bool
  | .dir => true
  | _ => false

theorem Entry.isDir_iff {e : Entry} : e.isDir = true ↔ e = .dir := by
  cases e <;> simp [Entry.isDir]

/-- The Python exceptions the builder can raise. -/
inductive Exc where
  | runtimeError (msg : String)
  | keyError (key : String)
  | typeError (msg : String)
  | fileNotFoundError (p : Path)
  | fileExistsError (p : Path)
  | isADirectoryError (p : Path)
  | notADirectoryError (p : Path)
  deriving DecidableEq, Repr

/-- A prefix of a path is the path itself or a prefix of its parent. -/
theorem eq_or_prefix_dropLast {p q : Path} (h : q <+: p) : q = p ∨ q <+: p.dropLast := by
  rcases p.eq_nil_or_concat with rfl | ⟨r, x, rfl⟩
  · exact .inl (List.prefix_nil.mp h)
  · simpa [List.prefix_concat_iff] using h

/-- A path is no prefix of a shorter one. -/
theorem not_prefix_of_length_lt {p q : Path} (h : q.length < p.length) : ¬ p <+: q :=
  fun hp => absurd hp.length_le (by omega)

/-- Two paths neither of which lies at or below the other: their subtrees are disjoint. -/
def Path.Apart (p q : Path) : Prop := ¬ p <+: q ∧ ¬ q <+: p

theorem Path.Apart.symm {p q : Path} (h : Path.Apart p q) : Path.Apart q p := ⟨h.2, h.1⟩

/-- Paths that part at one component are apart. -/
theorem Path.apart_append_cons (r p q : Path) {x y : String} (hxy : x ≠ y) :
    Path.Apart (r ++ x :: p) (r ++ y :: q) := by
  simp [Path.Apart, List.prefix_cons_iff, hxy, hxy.symm]

/-- A path apart from `a` is no prefix of a path below `a`. -/
theorem Path.Apart.not_prefix_append {a q : Path} (h : Path.Apart a q) (r : Path) :
    ¬ q <+: a ++ r := fun hq =>
  (List.prefix_or_prefix_of_prefix hq (List.prefix_append a r)).elim h.2 h.1

/-- A file-system state: every proper ancestor of an occupied path is a directory. -/
structure FS where
  get : Path → Option Entry
  parent_dir : ∀ p q, q ≠ [] → (get (p ++ q)).isSome → get p = some .dir

namespace FS

variable (fs : FS) {p q : Path}

@[ext] theorem ext {fs₁ fs₂ : FS} (h : ∀ p, fs₁.get p = fs₂.get p) : fs₁ = fs₂ := by
  cases fs₁; cases fs₂; congr; funext p; exact h p

/-- Whether `p.exists()`. -/
def pathExists (p : Path) : Bool := (fs.get p).isSome

/-- Whether `p.is_dir()`. -/
def isDir (p : Path) : Bool := (fs.get p).any Entry.isDir

theorem isDir_iff : fs.isDir p = true ↔ fs.get p = some .dir := by
  unfold isDir
  cases fs.get p <;> simp [Entry.isDir_iff]

/-- An ancestor of a directory is a directory. -/
theorem dir_of_ancestor (h : fs.get q = some .dir) (hp : p <+: q) : fs.get p = some .dir := by
  obtain ⟨r, rfl⟩ := hp
  by_cases hr : r = []
  · subst hr; simpa using h
  · exact fs.parent_dir p r hr (by simp [h])

/-- Whether every prefix of `p`, `p` included, is free or a directory. -/
def prefixesFree (p : Path) : Bool := p.inits.all fun q => (fs.get q).all Entry.isDir

theorem prefixesFree_iff :
    fs.prefixesFree p = true ↔ ∀ q, q <+: p → fs.get q = none ∨ fs.get q = some .dir := by
  simp only [prefixesFree, List.all_eq_true, List.mem_inits]
  refine forall_congr' fun q => imp_congr_right fun _ => ?_
  cases fs.get q <;> simp [Entry.isDir_iff]

/-- The state with nothing but the root directory. -/
def root : FS where
  get q := if q = [] then some .dir else none
  parent_dir p q hq h := by
    have : p ++ q ≠ [] := by simp [hq]
    simp [this] at h

/-- Remove `p` and everything below it. -/
def erase (p : Path) : FS where
  get q := if p <+: q then none else fs.get q
  parent_dir p' q hq h := by
    have hp : ¬ p <+: p' ++ q := fun hp => by simp [hp] at h
    have hp' : ¬ p <+: p' := fun hp' => hp (hp'.trans (List.prefix_append _ _))
    simp only [hp, hp', if_false] at h ⊢
    exact fs.parent_dir p' q hq h

/-- Put `e` at `p`, below a directory, where a directory may only be replaced by one. -/
def insert (p : Path) (e : Entry) (hp : fs.isDir p.dropLast = true)
    (he : fs.isDir p = true → e = .dir) : FS where
  get q := if q = p then some e else fs.get q
  parent_dir p' q hq h := by
    by_cases hq' : p' ++ q = p
    · subst hq'
      have hne : p' ≠ p' ++ q := by simpa using hq
      simp only [hne, if_false]
      rw [List.dropLast_append_of_ne_nil p' hq] at hp
      exact fs.dir_of_ancestor ((isDir_iff fs).mp hp) (List.prefix_append _ _)
    · simp only [hq', if_false] at h
      have hd := fs.parent_dir p' q hq h
      by_cases hp' : p' = p
      · subst hp'; simp [he ((isDir_iff fs).mpr hd)]
      · simp [hp', hd]

/-- Create every missing prefix of `p` as a directory, when none of them is a file. -/
def mkdirs (p : Path) (h : fs.prefixesFree p = true) : FS where
  get q := if q <+: p ∧ (fs.get q).isNone then some .dir else fs.get q
  parent_dir p' q hq hs := by
    have hfree := (prefixesFree_iff fs).mp h
    by_cases hpre : p' ++ q <+: p
    · have hp' : p' <+: p := (List.prefix_append _ _).trans hpre
      rcases hfree p' hp' with hn | hd <;> simp_all
    · have hs' : (fs.get (p' ++ q)).isSome := by simpa [hpre] using hs
      have hd := fs.parent_dir p' q hq hs'
      simp [hd]

/-- A tool's write of the file `p`: create the missing directories above it, then
the file. Nothing happens where a prefix is a file or `p` is a directory. -/
def putFile (p : Path) (data : String) : FS :=
  if h : p ≠ [] ∧ fs.prefixesFree p.dropLast = true ∧ fs.isDir p = false then
    (fs.mkdirs p.dropLast h.2.1).insert p (.file data)
      (by
        rw [isDir_iff]
        rcases (prefixesFree_iff fs).mp h.2.1 p.dropLast List.prefix_rfl with hn | hd
        · simp [mkdirs, hn]
        · simp [mkdirs, hd])
      (by
        have hnp : ¬ p <+: p.dropLast := fun hp => by
          have := hp.length_le; simp at this; have := List.length_pos.mpr h.1; omega
        intro hd
        rw [isDir_iff] at hd
        simp only [mkdirs, hnp, false_and, if_false] at hd
        simp [isDir, hd, Entry.isDir] at h)
  else fs

/-- The files a tool writes, by path relative to `a`, laid down in order. -/
def putFiles (a : Path) (files : List (Path × String)) : FS :=
  files.foldl (fun fs f => fs.putFile (a ++ f.1) f.2) fs

/-- The members of an archive of the directory `root`: everything strictly below it. -/
def subtree (root : Path) : Path → Option Entry
  | [] => none
  | q => fs.get (root ++ q)

/-- `shutil.rmtree(p)`. -/
def rmtree (p : Path) : Except Exc FS :=
  match fs.get p with
  | some .dir => .ok (fs.erase p)
  | some _ => .error (.notADirectoryError p)
  | none => .error (.fileNotFoundError p)

/-- `p.mkdir(parents=..., exist_ok=...)`. -/
def mkdir (p : Path) (parents existOk : Bool) : Except Exc FS :=
  match fs.get p with
  | some .dir => if existOk then .ok fs else .error (.fileExistsError p)
  | some _ => .error (.fileExistsError p)
  | none =>
      if parents then
        if h : fs.prefixesFree p = true then .ok (fs.mkdirs p h)
        else .error (.notADirectoryError p)
      else if h : fs.isDir p.dropLast = true then .ok (fs.insert p .dir h fun _ => rfl)
      else .error (.fileNotFoundError p)

/-- Write the entry `e` at `p` as `open(p, "w")` would: not onto a directory, and
only below one. -/
def write (p : Path) (e : Entry) : Except Exc FS :=
  if hd : fs.isDir p = true then .error (.isADirectoryError p)
  else if h : fs.isDir p.dropLast = true then .ok (fs.insert p e h fun h' => absurd h' hd)
  else .error (.fileNotFoundError p)

/-- `p.write_text(s)`. -/
def writeText (p : Path) (s : String) : Except Exc FS := fs.write p (.file s)

/-- The final component of a path, `os.path.basename`. -/
def baseName (p : Path) : String := p.getLast?.getD ""

/-- `shutil.copy2(src, dst)`: into `dst` when it is a directory, else onto it. -/
def copy2 (src dst : Path) : Except Exc FS :=
  match fs.get src with
  | none => .error (.fileNotFoundError src)
  | some .dir => .error (.isADirectoryError src)
  | some e => fs.write (if fs.isDir dst then dst ++ [baseName src] else dst) e

end FS

/-- Append `s` to the final component of a path. -/
def Path.appendName (p : Path) (s : String) : Path :=
  match p.reverse with
  | [] => [s]
  | x :: r => r.reverse ++ [x ++ s]

/-- `PurePath.with_suffix("")` on a file name: drop the text from its last dot,
when that dot is neither the first nor the last character. -/
def stripSuffix (name : String) : String :=
  let cs := name.toList
  let k := cs.reverse.indexOf '.'
  if 0 < k ∧ k + 1 < cs.length then String.mk (cs.take (cs.length - 1 - k)) else name

/-- `PurePath.with_suffix("")` on a path. -/
def Path.withoutSuffix (p : Path) : Path :=
  match p.reverse with
  | [] => []
  | x :: r => r.reverse ++ [stripSuffix x]

namespace FS

variable (fs : FS) {p q : Path}

/-- `shutil.make_archive(base, format, root)`: the archive of `root` at `base` plus the
format's extension. -/
def makeArchive (base : Path) (fmt : ArchiveFormat) (root : Path) : Except Exc FS :=
  if fs.isDir root then fs.write (base.appendName fmt.ext) (.archive fmt (fs.subtree root))
  else .error (.fileNotFoundError root)

@[simp] theorem root_get : root.get q = if q = [] then some .dir else none := rfl

@[simp] theorem erase_get : (fs.erase p).get q = if p <+: q then none else fs.get q := rfl

@[simp] theorem insert_get (e : Entry) (hp he) :
    (fs.insert p e hp he).get q = if q = p then some e else fs.get q := rfl

@[simp] theorem mkdirs_get (h) :
    (fs.mkdirs p h).get q = if q <+: p ∧ (fs.get q).isNone then some .dir else fs.get q := rfl

@[simp] theorem subtree_cons (a : String) (r : Path) : fs.subtree p (a :: r) = fs.get (p ++ a :: r) :=
  rfl

@[simp] theorem subtree_nil : fs.subtree p [] = none := rfl

/-- Nothing lies below a missing path. -/
theorem get_eq_none_below (h : fs.get p = none) (hp : p <+: q) : fs.get q = none := by
  obtain ⟨r, rfl⟩ := hp
  by_cases hr : r = []
  · simpa [hr] using h
  · cases hq : fs.get (p ++ r) with
    | none => rfl
    | some e => simp [fs.parent_dir p r hr (by simp [hq])] at h

theorem erase_of_get_none (h : fs.get p = none) : fs.erase p = fs :=
  ext fun q => by
    simp only [erase_get]
    split_ifs with hq
    · exact (fs.get_eq_none_below h hq).symm
    · rfl

/-- Creating the prefixes of a directory changes nothing. -/
theorem mkdirs_of_dir (h : fs.get p = some .dir) (hf) : fs.mkdirs p hf = fs :=
  ext fun q => by
    simp only [mkdirs_get]
    split_ifs with hq
    · simp [fs.dir_of_ancestor h hq.1] at hq
    · rfl

theorem rmtree_eq_ok {fs' : FS} : fs.rmtree p = .ok fs' ↔ fs.get p = some .dir ∧ fs.erase p = fs' := by
  unfold rmtree
  split <;> simp_all

/-- A successful `mkdir` creates the missing prefixes of `p` and nothing else. -/
theorem mkdir_eq_ok {fs' : FS} {parents existOk : Bool} (h : fs.mkdir p parents existOk = .ok fs') :
    ∃ hf, fs.mkdirs p hf = fs' := by
  unfold mkdir at h
  split at h
  · rename_i hd
    have hf : fs.prefixesFree p = true :=
      (prefixesFree_iff fs).mpr fun q hq => .inr (fs.dir_of_ancestor hd hq)
    split at h <;> cases h
    exact ⟨hf, fs.mkdirs_of_dir hd hf⟩
  · cases h
  · rename_i hn
    split at h
    · split at h <;> cases h
      exact ⟨_, rfl⟩
    · split at h <;> cases h
      rename_i hd
      refine ⟨(prefixesFree_iff fs).mpr fun q hq => ?_, ext fun q => ?_⟩
      · rcases eq_or_prefix_dropLast hq with rfl | hq
        · exact .inl hn
        · exact .inr (fs.dir_of_ancestor ((isDir_iff fs).mp hd) hq)
      · simp only [mkdirs_get, insert_get]
        by_cases hqp : q = p
        · simp [hqp, hn]
        · have : ¬ (q <+: p ∧ (fs.get q).isNone) := fun ⟨hq, hn'⟩ => by
            rcases eq_or_prefix_dropLast hq with rfl | hq
            · exact hqp rfl
            · simp [fs.dir_of_ancestor ((isDir_iff fs).mp hd) hq] at hn'
          simp only [hqp, if_false]
          rw [if_neg this]

theorem mkdir_parents_of_get_none {existOk : Bool} (hn : fs.get p = none)
    (hf : fs.prefixesFree p = true) : fs.mkdir p true existOk = .ok (fs.mkdirs p hf) := by
  simp [mkdir, hn, hf]

/-- The ancestors of a directory and a missing path below it leave room for `mkdir`. -/
theorem prefixesFree_append_singleton {x : String} (hd : fs.get p = some .dir)
    (hn : fs.get (p ++ [x]) = none) : fs.prefixesFree (p ++ [x]) = true :=
  (prefixesFree_iff fs).mpr fun q hq => by
    rcases List.prefix_concat_iff.mp hq with rfl | hq
    · exact .inl hn
    · exact .inr (fs.dir_of_ancestor hd hq)

theorem write_eq_ok {fs' : FS} {e : Entry} (h : fs.write p e = .ok fs') :
    ∃ hp he, fs.insert p e hp he = fs' := by
  unfold write at h
  split at h
  · cases h
  · split at h <;> cases h
    exact ⟨_, _, rfl⟩

theorem copy2_eq_ok {src dst : Path} {fs' : FS} (h : fs.copy2 src dst = .ok fs') :
    ∃ e, fs.get src = some e ∧ e ≠ .dir ∧
      fs.write (if fs.isDir dst then dst ++ [baseName src] else dst) e = .ok fs' := by
  unfold copy2 at h
  split at h
  · cases h
  · cases h
  · rename_i e hd hs
    exact ⟨e, hs, hd, h⟩

theorem makeArchive_eq_ok {base root : Path} {fmt : ArchiveFormat} {fs' : FS}
    (h : fs.makeArchive base fmt root = .ok fs') :
    fs.isDir root = true ∧ fs.write (base.appendName fmt.ext) (.archive fmt (fs.subtree root)) = .ok fs' := by
  unfold makeArchive at h
  split at h
  · exact ⟨‹_›, h⟩
  · cases h

theorem putFile_get (d : String) (q : Path) :
    (fs.putFile p d).get q =
      if p ≠ [] ∧ fs.prefixesFree p.dropLast = true ∧ fs.isDir p = false then
        if q = p then some (.file d)
        else if q <+: p.dropLast ∧ (fs.get q).isNone then some .dir else fs.get q
      else fs.get q := by
  unfold putFile
  split <;> simp_all

/-- A tool's write changes only the path written and its missing ancestors. -/
theorem putFile_get_of_not_below (d : String) (hq : ¬ q <+: p) : (fs.putFile p d).get q = fs.get q := by
  have h₁ : q ≠ p := fun h => hq (h ▸ List.prefix_rfl)
  have h₂ : ¬ q <+: p.dropLast := fun h => hq (h.trans p.dropLast_prefix)
  simp [putFile_get, h₁, h₂]

@[simp] theorem putFiles_nil (a : Path) : fs.putFiles a [] = fs := rfl

@[simp] theorem putFiles_cons (a : Path) (f : Path × String) (files : List (Path × String)) :
    fs.putFiles a (f :: files) = (fs.putFile (a ++ f.1) f.2).putFiles a files := rfl

/-- The files of a tool change nothing off the paths they are written to. -/
theorem putFiles_get_of_not_below (a : Path) (files : List (Path × String))
    (hq : ∀ f ∈ files, ¬ q <+: a ++ f.1) : (fs.putFiles a files).get q = fs.get q := by
  induction files generalizing fs with
  | nil => rfl
  | cons f files ih =>
    rw [putFiles_cons, ih _ fun f' hf' => hq f' (.tail _ hf'),
      putFile_get_of_not_below _ _ (hq f (.head _))]

/-- A tool's write leaves every path alone but the prefixes of the path it writes. -/
theorem putFile_get_eq_or_below (d : String) (q : Path) :
    (fs.putFile p d).get q = fs.get q ∨ q <+: p := by
  rw [putFile_get]
  split_ifs with _ hq hq'
  · exact .inr (hq ▸ List.prefix_rfl)
  · exact .inr (hq'.1.trans p.dropLast_prefix)
  all_goals exact .inl rfl

/-- Whatever a tool's files change lies along one of them. -/
theorem putFiles_get_eq_or_below (a : Path) (files : List (Path × String)) (q : Path) :
    (fs.putFiles a files).get q = fs.get q ∨ ∃ f ∈ files, q <+: a ++ f.1 := by
  induction files generalizing fs with
  | nil => exact .inl rfl
  | cons f files ih =>
    rcases ih (fs.putFile (a ++ f.1) f.2) with h | ⟨f', hf', hq⟩
    · rcases fs.putFile_get_eq_or_below f.2 q with h' | hq
      · exact .inl (h.trans h')
      · exact .inr ⟨f, .head _, hq⟩
    · exact .inr ⟨f', .tail _ hf', hq⟩

theorem erase_get_of_apart (h : Path.Apart p q) : (fs.erase p).get q = fs.get q := by
  simp [h.1]

theorem mkdirs_get_of_apart (hf) (h : Path.Apart p q) : (fs.mkdirs p hf).get q = fs.get q := by
  simp [h.2]

theorem putFiles_get_of_apart (a : Path) (files : List (Path × String)) (h : Path.Apart a q) :
    (fs.putFiles a files).get q = fs.get q :=
  fs.putFiles_get_of_not_below a files fun f _ => h.not_prefix_append f.1

end FS

@[simp] theorem Path.appendName_append_singleton (p : Path) (x s : String) :
    (p ++ [x]).appendName s = p ++ [x ++ s] := by
  simp [Path.appendName]

@[simp] theorem Path.withoutSuffix_append_singleton (p : Path) (x : String) :
    (p ++ [x]).withoutSuffix = p ++ [stripSuffix x] := by
  simp [Path.withoutSuffix]

end RvpnseTools.Build
