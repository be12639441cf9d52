import RvpnseTools.Readme.Updater

/-!
# Rerunning the README splice

`update_readme` keeps the README up to the end of the first start marker and
from the first end marker on, and puts the new section, framed by two
newlines, in between. When the start marker comes first, the markers of the
spliced text are found where the splice put them, so a second run with the
same section writes the same text. When the end marker comes first, the text
between the two markers is kept twice.

## Implementation notes

Both markers begin with `<`, which occurs nowhere else in them, and neither
holds a newline. These two facts are all the marker lemmas use: an occurrence
cannot start inside a marker, and no occurrence crosses a newline.
-/

namespace RvpnseTools.Readme

/-- The number of positions at which `pat` occurs in `s`. -/
def occurrences (pat : List Char) : List Char → Nat
  | [] => 0
  | c :: s => (if pat <+: c :: s then 1 else 0) + occurrences pat s

section Search

variable {pat : List Char}

/-- `find` returns the least position at which the pattern occurs. -/
theorem find_eq_some_iff {s : List Char} {i : Nat} :
    find pat s = some i ↔ pat <+: s.drop i ∧ ∀ k < i, ¬ pat <+: s.drop k := by
  induction s generalizing i with
  | nil =>
      cases i with
      | zero => simp [find]
      | succ i => simpa [find] using fun h => ⟨⟨0, Nat.succ_pos i⟩, h⟩
  | cons c s ih =>
      by_cases hp : pat <+: c :: s
      · cases i with
        | zero => simp [find, hp]
        | succ i => simpa [find, hp] using fun _ => ⟨0, Nat.succ_pos i, hp⟩
      · cases i with
        | zero => simp [find, hp]
        | succ i =>
            simp only [find, hp, if_false, Option.map_eq_some', ih, List.drop_succ_cons,
              Nat.add_right_cancel_iff, exists_eq_right]
            constructor
            · rintro ⟨h₁, h₂⟩
              refine ⟨h₁, fun k hk => ?_⟩
              cases k with
              | zero => exact hp
              | succ k => exact h₂ k (by omega)
            · rintro ⟨h₁, h₂⟩
              exact ⟨h₁, fun k hk => h₂ (k + 1) (by omega)⟩

theorem find_eq_none_iff {s : List Char} : find pat s = none ↔ ¬ pat <:+: s := by
  induction s with
  | nil => simp [find]
  | cons c s ih =>
      by_cases hp : pat <+: c :: s
      · simp [find, hp, hp.isInfix]
      · simp [find, hp, ih, List.infix_cons_iff]

theorem find_eq_none_of_length_lt {s : List Char} (h : s.length < pat.length) :
    find pat s = none :=
  find_eq_none_iff.mpr fun hi => absurd hi.length_le (by omega)

/-- A prefix too short to hold the first occurrence holds none. -/
theorem find_take_eq_none {s : List Char} {j n : Nat} (hj : find pat s = some j)
    (hn : n < j + pat.length) : find pat (s.take n) = none := by
  induction s generalizing j n with
  | nil =>
      simp only [find] at hj
      split_ifs at hj with hp
      cases hj
      simp [hp] at hn
  | cons c s ih =>
      cases n with
      | zero =>
          apply find_eq_none_of_length_lt
          rcases Nat.eq_zero_or_pos pat.length with h | h
          · simp [List.length_eq_zero.mp h, find] at hj; omega
          · simpa using h
      | succ n =>
          by_cases hp : pat <+: c :: s
          · have hj0 : j = 0 := by simpa [find, hp] using hj.symm
            apply find_eq_none_of_length_lt
            simp; omega
          · obtain ⟨j, rfl⟩ : ∃ j', j = j' + 1 := by
              cases j with
              | zero => simp [find, hp] at hj
              | succ j => exact ⟨j, rfl⟩
            have hs : find pat s = some j := by
              simpa [find, hp] using hj
            have hq : ¬ pat <+: c :: s.take n := fun h =>
              hp (h.trans (List.prefix_cons_inj c |>.mpr (List.take_prefix n s)))
            simp [find, hq, @ih j n hs (by omega)]

/-- A pattern without the character `c` that is a prefix of `x ++ c :: y` is a prefix of `x`. -/
theorem prefix_of_prefix_append_cons {x y : List Char} {c : Char} (hc : c ∉ pat)
    (h : pat <+: x ++ c :: y) : pat <+: x := by
  induction x generalizing pat with
  | nil =>
      cases pat with
      | nil => exact List.nil_prefix
      | cons p pat => simp_all
  | cons a x ih =>
      cases pat with
      | nil => exact List.nil_prefix
      | cons p pat =>
          simp only [List.cons_append, List.cons_prefix_cons] at h ⊢
          exact ⟨h.1, ih (fun hm => hc (List.mem_cons_of_mem _ hm)) h.2⟩

/-- Searching across a newline the pattern does not contain. -/
theorem find_append_newline {a b : List Char} (hn : '\n' ∉ pat) (ha : find pat a = none) :
    find pat (a ++ '\n' :: b) = (find pat b).map (· + (a.length + 1)) := by
  induction a with
  | nil =>
      have : ¬ pat <+: '\n' :: b := fun h => hn (by
        cases pat with
        | nil => simp [find] at ha
        | cons p pat => simp_all)
      simp [find, this, Function.comp_def]
  | cons c a ih =>
      have hp : ¬ pat <+: c :: a := fun h => by simp [find, h] at ha
      have ha' : find pat a = none := by simpa [find, hp] using ha
      have hq : ¬ pat <+: c :: (a ++ '\n' :: b) := fun h =>
        hp (prefix_of_prefix_append_cons hn (by simpa using h))
      simp [find, hq, ih ha', Option.map_map, Function.comp_def, Nat.add_assoc, Nat.add_comm 1]

theorem add_length_le_of_find {s : List Char} {i : Nat} (h : find pat s = some i) :
    i + pat.length ≤ s.length := by
  obtain ⟨hi, hlt⟩ := find_eq_some_iff.mp h
  have hl := hi.length_le
  rcases Nat.eq_zero_or_pos i with rfl | hpos
  · simpa using hl
  · have hne : pat.length ≠ 0 := fun he =>
      hlt 0 hpos (List.length_eq_zero.mp he ▸ List.nil_prefix)
    simp at hl; omega

/-- Two strings that agree up to the end of the first occurrence agree on it. -/
theorem find_take_append {s t : List Char} {i : Nat} (h : find pat s = some i) :
    find pat (s.take (i + pat.length) ++ t) = some i := by
  obtain ⟨hi, hlt⟩ := find_eq_some_iff.mp h
  have hlen := add_length_le_of_find h
  have key : ∀ k ≤ i, (pat <+: (s.take (i + pat.length) ++ t).drop k ↔ pat <+: s.drop k) := by
    intro k hk
    rw [List.prefix_iff_eq_take, List.prefix_iff_eq_take, List.drop_append_of_le_length
      (by simp; omega), List.take_append_of_le_length (by simp; omega), List.drop_take,
      List.take_take, Nat.min_eq_left (by omega)]
  exact find_eq_some_iff.mpr ⟨(key i le_rfl).mpr hi, fun k hk => by
    rw [key k hk.le]; exact hlt k hk⟩

/-- An occurrence of `q` after one of `pat` starts past its end when the head of `q`
is missing from the tail of `pat`. -/
theorem add_length_le_of_find_find {q s : List Char} {i j : Nat} {d : Char}
    (hi : find pat s = some i) (hj : find q s = some j) (hij : i < j) (hd : q.head? = some d)
    (ht : d ∉ pat.tail) : i + pat.length ≤ j := by
  by_contra hlt
  obtain ⟨r, hr⟩ := (find_eq_some_iff.mp hi).1
  have hq := (find_eq_some_iff.mp hj).1
  rw [show j = i + (j - i) by omega, ← List.drop_drop, ← hr,
    List.drop_append_of_le_length (by omega)] at hq
  obtain ⟨x, xs, hx⟩ := List.exists_cons_of_ne_nil (show pat.drop (j - i) ≠ [] by simp; omega)
  have hx_mem : x ∈ pat.tail := by
    have hm : x ∈ (pat.drop 1).drop (j - i - 1) := by
      rw [List.drop_drop, show 1 + (j - i - 1) = j - i by omega, hx]; simp
    exact List.mem_of_mem_drop (by simpa [List.drop_one] using hm)
  cases q with
  | nil => simp at hd
  | cons q0 q =>
      simp only [List.head?_cons, Option.some.injEq] at hd
      rw [hx, List.cons_append, List.cons_prefix_cons] at hq
      exact ht (hd ▸ hq.1 ▸ hx_mem)

end Search

section Count

variable {pat : List Char}

theorem occurrences_cons (c : Char) (s : List Char) :
    occurrences pat (c :: s) = (if pat <+: c :: s then 1 else 0) + occurrences pat s := rfl

/-- Nothing before the first occurrence counts. -/
theorem occurrences_eq_of_find {s : List Char} {i : Nat} (h : find pat s = some i) :
    occurrences pat s = occurrences pat (s.drop i) := by
  induction s generalizing i with
  | nil => simp
  | cons c s ih =>
      cases i with
      | zero => rfl
      | succ i =>
          have hp : ¬ pat <+: c :: s := fun hp => by simp [find, hp] at h
          have hs : find pat s = some i := by simpa [find, hp] using h
          simp [occurrences, hp, ih hs]

theorem occurrences_eq_zero {s : List Char} (h : ¬ pat <:+: s) : occurrences pat s = 0 := by
  induction s with
  | nil => rfl
  | cons c s ih =>
      have hp : ¬ pat <+: c :: s := fun hp => h hp.isInfix
      simp [occurrences, hp, ih fun hi => h (hi.trans (List.suffix_cons c s).isInfix)]

/-- A character other than the pattern's head starts no occurrence. -/
theorem occurrences_cons_of_head {d c : Char} {s : List Char} (hd : pat.head? = some d)
    (hc : c ≠ d) : occurrences pat (c :: s) = occurrences pat s := by
  have hp : ¬ pat <+: c :: s := by
    cases pat with
    | nil => simp at hd
    | cons p pat => simp only [List.head?_cons, Option.some.injEq] at hd; simp [hd, Ne.symm hc]
  simp [occurrences, hp]

/-- A text without the pattern's head starts no occurrence. -/
theorem occurrences_append_of_head {d : Char} {t s : List Char} (hd : pat.head? = some d)
    (ht : d ∉ t) : occurrences pat (t ++ s) = occurrences pat s := by
  induction t with
  | nil => rfl
  | cons c t ih =>
      simp only [List.mem_cons, not_or] at ht
      rw [List.cons_append, occurrences_cons_of_head hd (Ne.symm ht.1), ih ht.2]

/-- No occurrence crosses into a character that the pattern holds at most as its head. -/
theorem occurrences_append_cons {a s : List Char} {c : Char} (hc : c ∉ pat.tail) :
    occurrences pat (a ++ c :: s) = occurrences pat a + occurrences pat (c :: s) := by
  induction a with
  | nil => simp [occurrences]
  | cons x a ih =>
      have hx : pat <+: x :: (a ++ c :: s) ↔ pat <+: x :: a := by
        cases pat with
        | nil => simp
        | cons p pat =>
            simp only [List.cons_prefix_cons]
            exact and_congr_right fun _ =>
              ⟨prefix_of_prefix_append_cons hc, fun h => h.trans (List.prefix_append _ _)⟩
      rw [List.cons_append, occurrences_cons, occurrences_cons x a, ih]
      simp only [hx]
      omega

/-- A pattern whose head occurs only once counts itself once at its own start. -/
theorem occurrences_self_append {d : Char} {s : List Char} (hd : pat.head? = some d)
    (ht : d ∉ pat.tail) : occurrences pat (pat ++ s) = 1 + occurrences pat s := by
  cases pat with
  | nil => simp at hd
  | cons p pat =>
      simp only [List.head?_cons, Option.some.injEq] at hd
      subst hd
      simp only [List.cons_append, occurrences_cons, List.cons_prefix_cons, List.prefix_append,
        and_self, if_true]
      rw [@occurrences_append_of_head (p :: pat) p pat s rfl ht]

end Count

section Markers

theorem startMarker_head : startMarker.head? = some '<' := by decide

theorem endMarker_head : endMarker.head? = some '<' := by decide

theorem endMarker_eq_cons : endMarker = '<' :: endMarker.tail := by decide

theorem lt_not_mem_startMarker_tail : '<' ∉ startMarker.tail := by decide

theorem newline_not_mem_startMarker_tail : '\n' ∉ startMarker.tail := by decide

theorem newline_not_mem_endMarker : '\n' ∉ endMarker := by decide

end Markers

/-- The text a run writes, given the marker positions it found. -/
def spliceAt (c S : List Char) (i j : Nat) : List Char :=
  c.take (i + startMarker.length) ++ '\n' :: S ++ '\n' :: c.drop j

/-- The section a run replaces: the text between the two markers. -/
def replacedSection (c : List Char) (i j : Nat) : List Char :=
  (c.drop (i + startMarker.length)).take (j - (i + startMarker.length))

theorem updateReadme_eq_spliceAt {c S : List Char} {i j : Nat}
    (hi : find startMarker c = some i) (hj : find endMarker c = some j) :
    updateReadme c S = some (spliceAt c S i j) := by
  simp [updateReadme, hi, hj, spliceAt]

theorem length_take_start {c : List Char} {i : Nat} (hi : find startMarker c = some i) :
    (c.take (i + startMarker.length)).length = i + startMarker.length := by
  have := add_length_le_of_find hi; simp; omega

theorem find_startMarker_spliceAt {c : List Char} (S : List Char) {i : Nat} (j : Nat)
    (hi : find startMarker c = some i) : find startMarker (spliceAt c S i j) = some i := by
  simpa only [spliceAt, List.append_assoc] using find_take_append hi

theorem drop_spliceAt {c : List Char} (S : List Char) {i : Nat} (j : Nat)
    (hi : find startMarker c = some i) :
    (spliceAt c S i j).drop (i + startMarker.length + S.length + 2) = c.drop j := by
  rw [show i + startMarker.length + S.length + 2 =
    (c.take (i + startMarker.length)).length + (S.length + 1 + 1) by
      rw [length_take_start hi]; omega]
  simp only [spliceAt, List.append_assoc, List.cons_append, List.drop_append,
    List.drop_succ_cons, List.drop_zero]

theorem drop_start_spliceAt {c : List Char} (S : List Char) {i : Nat} (j : Nat)
    (hi : find startMarker c = some i) :
    (spliceAt c S i j).drop i = startMarker ++ '\n' :: S ++ '\n' :: c.drop j := by
  have hs : (c.take (i + startMarker.length)).drop i = startMarker := by
    rw [List.drop_take, Nat.add_sub_cancel_left]
    exact (List.prefix_iff_eq_take.mp (find_eq_some_iff.mp hi).1).symm
  simp only [spliceAt, List.append_assoc]
  rw [List.drop_append_of_le_length (by rw [length_take_start hi]; omega), hs]

section Rerun

variable {c S : List Char} {i j : Nat} (hi : find startMarker c = some i)
  (hj : find endMarker c = some j) (hij : i < j)
include hi hj hij

theorem add_length_le_end : i + startMarker.length ≤ j :=
  add_length_le_of_find_find hi hj hij (by decide) lt_not_mem_startMarker_tail

theorem find_endMarker_spliceAt (hS : ¬ endMarker <:+: S) :
    find endMarker (spliceAt c S i j) = some (i + startMarker.length + S.length + 2) := by
  have hX : find endMarker (c.take (i + startMarker.length)) = none :=
    find_take_eq_none hj (by have := add_length_le_end hi hj hij; simp [endMarker]; omega)
  have hY : find endMarker (c.drop j) = some 0 :=
    find_eq_some_iff.mpr ⟨(find_eq_some_iff.mp hj).1, by simp⟩
  simp only [spliceAt, List.append_assoc, List.cons_append]
  rw [find_append_newline newline_not_mem_endMarker hX,
    find_append_newline newline_not_mem_endMarker (find_eq_none_iff.mpr hS), hY]
  simp only [Option.map_some', length_take_start hi]
  congr 1
  omega

theorem updateReadme_spliceAt (hS : ¬ endMarker <:+: S) :
    updateReadme (spliceAt c S i j) S = some (spliceAt c S i j) := by
  rw [updateReadme_eq_spliceAt (find_startMarker_spliceAt S j hi)
    (find_endMarker_spliceAt hi hj hij hS)]
  have ht : (spliceAt c S i j).take (i + startMarker.length) = c.take (i + startMarker.length) := by
    simp only [spliceAt, List.append_assoc]; exact List.take_left' (length_take_start hi)
  conv_lhs => rw [spliceAt, ht, drop_spliceAt S j hi]
  rfl

theorem occurrences_endMarker_spliceAt (hS : ¬ endMarker <:+: S) :
    occurrences endMarker (spliceAt c S i j) = occurrences endMarker c := by
  rw [occurrences_eq_of_find (find_endMarker_spliceAt hi hj hij hS), drop_spliceAt S j hi,
    ← occurrences_eq_of_find hj]

/-- The text from the start marker on is the marker, the replaced section, and the rest. -/
theorem drop_start_eq : c.drop i = startMarker ++ (replacedSection c i j ++ c.drop j) := by
  obtain ⟨r, hr⟩ := (find_eq_some_iff.mp hi).1
  have hr' : r = c.drop (i + startMarker.length) := by
    simpa [List.drop_left] using congrArg (List.drop startMarker.length) hr
  rw [← hr, hr', replacedSection]
  congr 1
  conv_lhs => rw [← List.take_append_drop (j - (i + startMarker.length))
    (c.drop (i + startMarker.length))]
  rw [List.drop_drop, show i + startMarker.length + (j - (i + startMarker.length)) = j by
    have := add_length_le_end hi hj hij; omega]

theorem occurrences_startMarker_spliceAt (hS : ¬ startMarker <:+: S) :
    occurrences startMarker (spliceAt c S i j) + occurrences startMarker (replacedSection c i j) =
      occurrences startMarker c := by
  rw [occurrences_eq_of_find (find_startMarker_spliceAt S j hi), drop_start_spliceAt S j hi,
    occurrences_eq_of_find hi, drop_start_eq hi hj hij]
  obtain ⟨r, hr⟩ := (find_eq_some_iff.mp hj).1
  rw [endMarker_eq_cons, List.cons_append] at hr
  rw [← hr]
  simp only [List.append_assoc, List.cons_append]
  rw [occurrences_self_append startMarker_head lt_not_mem_startMarker_tail,
    occurrences_self_append startMarker_head lt_not_mem_startMarker_tail,
    occurrences_cons_of_head startMarker_head (by decide),
    occurrences_append_cons newline_not_mem_startMarker_tail,
    occurrences_cons_of_head startMarker_head (by decide), occurrences_eq_zero hS,
    occurrences_append_cons lt_not_mem_startMarker_tail]
  omega

end Rerun

/-- When the first start marker precedes the first end marker, rerunning the updater
with the same section writes what the first run wrote. The end marker occurs as
often as before, and the start marker as often as before less its occurrences in the
replaced section. -/
theorem updateReadme_rerun (c S : List Char) (i j : Nat)
    (hi : find startMarker c = some i) (hj : find endMarker c = some j) (hij : i < j)
    (hS : ¬ startMarker <:+: S) (hS' : ¬ endMarker <:+: S) :
    ∃ u, updateReadme c S = some u ∧ updateReadme u S = some u ∧
      occurrences endMarker u = occurrences endMarker c ∧
      occurrences startMarker u + occurrences startMarker (replacedSection c i j) =
        occurrences startMarker c :=
  ⟨spliceAt c S i j, updateReadme_eq_spliceAt hi hj, updateReadme_spliceAt hi hj hij hS',
    occurrences_endMarker_spliceAt hi hj hij hS', occurrences_startMarker_spliceAt hi hj hij hS⟩

theorem updateReadme_rerun_markers_only :
    ∃ u, updateReadme (startMarker ++ endMarker) [] = some u ∧ updateReadme u [] = some u ∧
      occurrences endMarker u = occurrences endMarker (startMarker ++ endMarker) ∧
      occurrences startMarker u +
          occurrences startMarker (replacedSection (startMarker ++ endMarker) 0 32) =
        occurrences startMarker (startMarker ++ endMarker) :=
  updateReadme_rerun _ _ 0 32 (by decide) (by decide) (by decide) (by decide) (by decide)

/-- With the end marker first, a rerun writes a longer README with another end marker. -/
theorem updateReadme_rerun_end_first :
    ∃ u, updateReadme (endMarker ++ startMarker) [] = some u ∧ updateReadme u [] ≠ some u ∧
      occurrences endMarker u ≠ occurrences endMarker (endMarker ++ startMarker) := by
  refine ⟨endMarker ++ startMarker ++ '\n' :: '\n' :: (endMarker ++ startMarker), by decide,
    by decide, ?_⟩
  rw [occurrences_append_cons (by decide), occurrences_cons_of_head endMarker_head (by decide),
    occurrences_cons_of_head endMarker_head (by decide)]
  have : occurrences endMarker (endMarker ++ startMarker) = 1 := by decide
  omega

end RvpnseTools.Readme
