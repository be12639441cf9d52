import RvpnseTools.Readme.Updater

/-!
# Which table a benchmark lands in

`_categorize_benchmark` tries the categories `config`, `client` and `ffi` in
that order on the lowered name, and only the first that matches is consulted.
Lowering keeps every lower-case word, so a name holding `parse_config` is
always caught by the `config` category, and a name holding `client` by the
`client` category: the `ffi` rules for these two words never fire.
-/

namespace RvpnseTools.Readme

/-- A word occurs in the lowered name when it occurs in the name and lowering keeps it. -/
theorem strIn_lower {w n : String} (hw : w.toList.map Char.toLower = w.toList)
    (h : strIn w n = true) : strIn w (lower n) = true := by
  simp only [strIn, decide_eq_true_eq] at h ⊢
  have := h.map Char.toLower
  rwa [hw, ← lower_toList] at this

/-- A word occurs wherever a word containing it occurs. -/
theorem strIn_mono {w v n : String} (hwv : w.toList <:+: v.toList) (h : strIn v n = true) :
    strIn w n = true := by
  simp only [strIn, decide_eq_true_eq] at h ⊢
  exact hwv.trans h

/-- The `ffi` table changes only for a name whose lowered form holds `ffi` but
neither `config` nor `client`. -/
theorem ffi_changed_only_without_config_client {benchName formattedTime : String}
    {r : BenchResults} (h : (categorizeBenchmark benchName formattedTime r).ffi ≠ r.ffi) :
    strIn "config" (lower benchName) = false ∧ strIn "client" (lower benchName) = false ∧
      strIn "ffi" (lower benchName) = true := by
  unfold categorizeBenchmark at h
  split_ifs at h with h₁ h₂ h₃ <;> simp_all

/-- A benchmark name holding `parse_config` or `client` never changes the `ffi` table:
the `config` or `client` category takes it first. -/
theorem categorizeBenchmark_ffi_unchanged (benchName formattedTime : String) (r : BenchResults)
    (h : strIn "parse_config" benchName = true ∨ strIn "client" benchName = true) :
    (categorizeBenchmark benchName formattedTime r).ffi = r.ffi := by
  by_contra hne
  obtain ⟨hconfig, hclient, -⟩ := ffi_changed_only_without_config_client hne
  rcases h with h | h
  · have := strIn_lower (by decide) (strIn_mono (by decide) h : strIn "config" benchName)
    simp_all
  · have := strIn_lower (by decide) h
    simp_all

theorem categorizeBenchmark_ffi_parse_config :
    strIn "parse_config" "ffi_parse_config" = true ∧
      (categorizeBenchmark "ffi_parse_config" "~593 ps" ⟨[], [], []⟩).ffi = [] :=
  ⟨by decide, categorizeBenchmark_ffi_unchanged _ _ ⟨[], [], []⟩ (.inl (by decide))⟩

end RvpnseTools.Readme
