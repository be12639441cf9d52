import Mathlib.Data.List.Infix

/-!
# Python built-ins the two scripts rely on

Dictionary assignment on an insertion-ordered `dict`, the `in` operator and
`find` on strings, and ASCII case conversion. Strings are read as their lists
of characters wherever a search is involved.
-/

namespace RvpnseTools

/-- `d[k] = v`: replace the value of an existing key in place, or append the pair. -/
def dictSet {β : Type} : List (String × β) → String → β → List (String × β)
  | [], k, v => [(k, v)]
  | (k', v') :: d, k, v => if k' = k then (k, v) :: d else (k', v') :: dictSet d k v

/-- `str.lower()` on ASCII letters. -/
def lower (s : String) : String := String.mk (s.toList.map Char.toLower)

/-- `str.upper()` on ASCII letters. -/
def upper (s : String) : String := String.mk (s.toList.map Char.toUpper)

/-- `str.title()` on ASCII letters, given whether the character before is a letter: a letter
that starts a word is upper-cased and every other letter lower-cased. -/
def titleChars : Bool → List Char → List Char
  | _, [] => []
  | afterLetter, c :: cs =>
      if c.isAlpha then (if afterLetter then c.toLower else c.toUpper) :: titleChars true cs
      else c :: titleChars false cs

/-- `str.title()` on ASCII letters. -/
def title (s : String) : String := String.mk (titleChars false s.toList)

/-- `format(s, "<width>")` for a string: `s` padded on the right with spaces to `width`
characters. -/
def formatWidth (s : String) (width : Nat) : String :=
  s ++ String.mk (List.replicate (width - s.length) ' ')

/-- `sub in s` for two strings. -/
def strIn (sub s : String) : Bool := decide (sub.toList <:+: s.toList)

/-- `s.find(pat)`: the first index at which `pat` occurs, `none` for Python's `-1`. -/
def find (pat : List Char) : List Char → Option Nat
  | [] => if pat = [] then some 0 else none
  | c :: s => if pat <+: c :: s then some 0 else (find pat s).map (· + 1)

section dictSet

variable {β : Type} (d : List (String × β)) (k : String) (v : β)

/-- Assignment adds a key at the end exactly when it is new. -/
theorem keys_dictSet :
    (dictSet d k v).map (·.1) = if k ∈ d.map (·.1) then d.map (·.1) else d.map (·.1) ++ [k] := by
  induction d with
  | nil => simp [dictSet]
  | cons p d ih =>
      obtain ⟨k', v'⟩ := p
      by_cases hk : k' = k
      · simp [dictSet, hk]
      · simp only [dictSet, hk, if_false, List.map_cons, ih, List.mem_cons]
        split_ifs <;> simp_all [eq_comm]

/-- Assigning a new key appends the pair. -/
theorem dictSet_of_not_mem (hk : k ∉ d.map (·.1)) : dictSet d k v = d ++ [(k, v)] := by
  induction d with
  | nil => rfl
  | cons p d ih =>
      obtain ⟨k', v'⟩ := p
      simp only [List.map_cons, List.mem_cons, not_or] at hk
      have hk' : k' ≠ k := fun h => hk.1 h.symm
      simp only [dictSet, hk', if_false, ih hk.2, List.cons_append]

theorem lookup_cons_ite (k' : String) :
    ((k, v) :: d).lookup k' = if k' = k then some v else d.lookup k' := by
  by_cases h : k' = k
  · subst h; simp
  · rw [List.lookup_cons, show (k' == k) = false by simp [h]]; simp [h]

theorem lookup_dictSet (k' : String) :
    (dictSet d k v).lookup k' = if k' = k then some v else d.lookup k' := by
  induction d with
  | nil => simp [dictSet, lookup_cons_ite]
  | cons p d ih =>
      obtain ⟨k'', v'⟩ := p
      by_cases hk : k'' = k
      · subst hk; by_cases h : k' = k'' <;> simp [dictSet, lookup_cons_ite, h]
      · simp only [dictSet, hk, if_false, lookup_cons_ite, ih]
        split_ifs <;> simp_all

/-- In a dictionary that holds each key of `K` once, with the value `f`, a key of `K` looks up
its value. -/
theorem lookup_map_pair {K : List String} {f : String → β} (hk : k ∈ K) :
    (K.map fun k' => (k', f k')).lookup k = some (f k) := by
  induction K with
  | nil => cases hk
  | cons k₀ K ih =>
      rw [List.map_cons, lookup_cons_ite]
      split_ifs with h
      · rw [h]
      · exact ih ((List.mem_cons.mp hk).resolve_left h)

/-- Assigning a key of `K` in a dictionary that holds each key of `K` once changes its value in
place. -/
theorem dictSet_map_pair {K : List String} {f : String → β} (hK : K.Nodup) (hk : k ∈ K) :
    dictSet (K.map fun k' => (k', f k')) k v = K.map fun k' => (k', if k' = k then v else f k') := by
  induction K with
  | nil => cases hk
  | cons k₀ K ih =>
      obtain ⟨hk₀, hK⟩ := List.nodup_cons.mp hK
      by_cases h : k₀ = k
      · subst h
        simp only [List.map_cons, dictSet, if_true, List.cons.injEq, true_and]
        exact List.map_congr_left fun k' hk' => by rw [if_neg (ne_of_mem_of_not_mem hk' hk₀)]
      · simp only [List.map_cons, dictSet, h, if_false, ih hK ((List.mem_cons.mp hk).resolve_left (Ne.symm h))]

end dictSet

/-- Adding keys in turn, each only when absent, leaves the distinct keys in
first-occurrence order. -/
theorem foldl_insertKey_eq_eraseDups (ns : List String) :
    ns.foldl (fun ks n => if n ∈ ks then ks else ks ++ [n]) [] = ns.eraseDups := by
  suffices ∀ ks, ns.foldl (fun ks n => if n ∈ ks then ks else ks ++ [n]) ks =
      List.eraseDups.loop ns ks.reverse from this []
  induction ns with
  | nil => simp [List.eraseDups.loop]
  | cons n ns ih => intro ks; by_cases hn : n ∈ ks <;> simp [List.eraseDups.loop, hn, ih]

theorem lower_toList (s : String) : (lower s).toList = s.toList.map Char.toLower := rfl

end RvpnseTools
