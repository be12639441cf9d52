import RvpnseTools.Build.Targets
import RvpnseTools.Python

/-!
# The listing of the registry

`list_targets` files each registry entry under its platform's value, title-cased, in a
dictionary that keeps the platforms in the order they first appear, and prints each group
under its heading. The listing is therefore the banner, then each platform once, in order of
first appearance, followed by its targets in registry order; and every entry is printed in
exactly one group (`listTargets_grouped`).

## Implementation notes

The printed text is the list of lines the `print` calls write. `main` returns right after the
listing, so the lines are not part of the world the build model threads. The registry is an
argument; the script lists `listTargets targets`.
-/

namespace RvpnseTools.Build

/-- The heading `list_targets` files a registry entry under. -/
def platformName (entry : String × Target) : String := title entry.2.platform.value

/-- One iteration of the grouping loop of `list_targets`. -/
def groupTarget (byPlatform : List (String × List (String × Target))) (entry : String × Target) :
    List (String × List (String × Target)) :=
  let byPlatform :=
    if platformName entry ∉ byPlatform.map (·.1) then dictSet byPlatform (platformName entry) []
    else byPlatform
  dictSet byPlatform (platformName entry) (((byPlatform.lookup (platformName entry)).getD []) ++ [entry])

/-- The lines `list_targets` prints for one registry entry. -/
def targetLines (entry : String × Target) : List String :=
  ("  " ++ formatWidth entry.1 15 ++ " - " ++ entry.2.rustTarget) ::
    match entry.2.androidArch with
    | some arch => if arch = "" then [] else ["                  Android arch: " ++ arch]
    | none => []

/-- `list_targets`, as the lines it prints, over the registry it reads. -/
def listTargets (registry : List (String × Target)) : List String :=
  let byPlatform := registry.foldl groupTarget []
  ["", "Available build targets:", String.mk (List.replicate 50 '=')] ++
    byPlatform.flatMap fun (platform, ts) => ["", platform ++ ":"] ++ ts.flatMap targetLines

theorem mem_foldl_insertKey {ns ks : List String} {x : String} :
    x ∈ ns.foldl (fun ks n => if n ∈ ks then ks else ks ++ [n]) ks ↔ x ∈ ks ∨ x ∈ ns := by
  induction ns generalizing ks with
  | nil => simp
  | cons n ns ih =>
      rw [List.foldl_cons, ih, List.mem_cons]
      by_cases hn : n ∈ ks
      · rw [if_pos hn]
        exact ⟨fun h => h.imp_right .inr, by rintro (h | rfl | h) <;> simp [*]⟩
      · simp only [hn, if_false, List.mem_append, List.mem_singleton, or_assoc]

theorem nodup_insertKey {ks : List String} {n : String} (hks : ks.Nodup) :
    (if n ∈ ks then ks else ks ++ [n]).Nodup := by
  split_ifs with hn
  · exact hks
  · exact hks.append (List.nodup_singleton n) (List.disjoint_singleton.mpr hn)

theorem nodup_foldl_insertKey {ns ks : List String} (hks : ks.Nodup) :
    (ns.foldl (fun ks n => if n ∈ ks then ks else ks ++ [n]) ks).Nodup := by
  induction ns generalizing ks with
  | nil => exact hks
  | cons n ns ih => exact ih (nodup_insertKey hks)

/-- Filtering a list by each of some distinct keys that cover every element's key splits it
into classes whose concatenation is a permutation of it. -/
theorem flatMap_filter_perm {α : Type} (g : α → String) {K : List String} (hK : K.Nodup) {l : List α}
    (hl : ∀ a ∈ l, g a ∈ K) : (K.flatMap fun p => l.filter (g · = p)).Perm l := by
  induction K generalizing l with
  | nil =>
      cases l with
      | nil => exact .refl _
      | cons a _ => exact absurd (hl a (.head _)) (List.not_mem_nil _)
  | cons p K ih =>
      obtain ⟨hp, hK⟩ := List.nodup_cons.mp hK
      -- the classes of the other keys are those of the elements off the class of `p`
      have hrest : (K.flatMap fun q => l.filter (g · = q)) =
          K.flatMap fun q => (l.filter fun a => !decide (g a = p)).filter (g · = q) :=
        List.flatMap_congr fun q hq => by
          rw [List.filter_filter]
          refine List.filter_congr fun a _ => ?_
          by_cases h : g a = q
          · simp [h, ne_of_mem_of_not_mem hq hp]
          · simp [h]
      rw [List.flatMap_cons, hrest]
      refine ((ih hK fun a ha => ?_).append_left _).trans (List.filter_append_perm _ l)
      obtain ⟨ha, hga⟩ := List.mem_filter.mp ha
      exact (List.mem_cons.mp (hl a ha)).resolve_left (by simpa using hga)

/-- One iteration of the grouping loop, on a dictionary that holds each platform of `ps` once:
the entry's platform is added at the end when new, and the entry appended to its group. -/
theorem groupTarget_map {ps : List String} {f : String → List (String × Target)} {entry : String × Target}
    (hps : ps.Nodup) (hnew : platformName entry ∉ ps → f (platformName entry) = []) :
    groupTarget (ps.map fun p => (p, f p)) entry =
      (if platformName entry ∈ ps then ps else ps ++ [platformName entry]).map
        fun p => (p, if p = platformName entry then f (platformName entry) ++ [entry] else f p) := by
  set x := platformName entry
  have hx : x ∈ (if x ∈ ps then ps else ps ++ [x]) := by split_ifs with h <;> simp [h]
  -- the first statement of the loop adds the platform with an empty group
  have hd₁ : (if x ∉ (ps.map fun p => (p, f p)).map (·.1) then dictSet (ps.map fun p => (p, f p)) x []
      else ps.map fun p => (p, f p)) = (if x ∈ ps then ps else ps ++ [x]).map fun p => (p, f p) := by
    by_cases h : x ∈ ps
    · simp [h]
    · rw [if_pos (by simpa using h), dictSet_of_not_mem _ _ _ (by simpa using h), if_neg h, List.map_append,
        List.map_singleton, hnew h]
  unfold groupTarget
  simp only [hd₁]
  rw [lookup_map_pair _ hx, Option.getD_some, dictSet_map_pair _ _ (nodup_insertKey hps) hx]

/-- The grouping loop of `list_targets` leaves the platforms in the order they first appear, each
with its targets in registry order. -/
theorem foldl_groupTarget (registry : List (String × Target)) :
    registry.foldl groupTarget [] =
      ((registry.map platformName).foldl (fun ks n => if n ∈ ks then ks else ks ++ [n]) []).map
        fun p => (p, registry.filter (platformName · = p)) := by
  induction registry using List.reverseRecOn with
  | nil => rfl
  | append_singleton l e ih =>
      rw [List.foldl_append, List.foldl_cons, List.foldl_nil, ih,
        groupTarget_map (nodup_foldl_insertKey List.nodup_nil), List.map_append, List.foldl_append,
        List.map_singleton, List.foldl_cons, List.foldl_nil]
      · refine List.map_congr_left fun p _ => ?_
        by_cases hp : p = platformName e
        · simp [hp]
        · simp [hp, Ne.symm hp]
      · intro hn
        refine List.filter_eq_nil_iff.mpr fun a ha hpa =>
          hn (mem_foldl_insertKey.mpr (.inr (List.mem_map.mpr ⟨a, ha, ?_⟩)))
        simpa using hpa

/-- `list_targets` prints, after its banner, each platform of the registry once, in the order
of first appearance, followed by that platform's targets in registry order; every entry of the
registry falls in exactly one of these groups. -/
theorem listTargets_grouped (registry : List (String × Target)) :
    listTargets registry = ["", "Available build targets:", String.mk (List.replicate 50 '=')] ++
        (registry.map platformName).eraseDups.flatMap (fun p =>
          ["", p ++ ":"] ++ (registry.filter (platformName · = p)).flatMap targetLines) ∧
      ((registry.map platformName).eraseDups.flatMap fun p =>
        registry.filter (platformName · = p)).Perm registry := by
  rw [← foldl_insertKey_eq_eraseDups]
  refine ⟨by rw [listTargets, foldl_groupTarget, List.flatMap_map], ?_⟩
  exact flatMap_filter_perm platformName (nodup_foldl_insertKey List.nodup_nil)
    fun a ha => mem_foldl_insertKey.mpr (.inr (List.mem_map_of_mem _ ha))

example : (targets.map platformName).eraseDups = ["Linux", "Macos", "Windows", "Android", "Ios"] := by
  decide

end RvpnseTools.Build
