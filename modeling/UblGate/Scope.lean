import UblGate.Text
import Mathlib.Data.String.Basic

/-!
# World and token scopes

`worldScopeAllows` decides whether a token issued for one world may write to another;
`scopeAllowsAny` whether a token's scope list grants one of the required scopes.

Both worlds are first brought to a normal form, `normWorld`: whitespace trimmed, then
every trailing `/` removed.  On normal forms the check is containment of `/`-separated
segments: the scope `*` allows every world, and otherwise the segments of the scope are
a prefix of those of the target.  Since prefixes compose, so do scopes, and a world never
allows a sibling that only shares a character prefix with it.
-/

namespace UblGate

open Str

/-- `world_scope_allows`. -/
def worldScopeAllows (scopeWorld targetWorld : String) : Bool :=
  let scope := trimEndMatches (trim scopeWorld) '/'
  let target := trimEndMatches (trim targetWorld) '/'
  if scope.isEmpty || target.isEmpty then false
  else if scope == "*" then true
  else if target == scope then true
  else ((stripPrefix target scope).map fun rest => startsWith rest "/").getD false

/-- `scope_allows_any`: the scope list holds `*` or one of the required scopes. -/
def scopeAllowsAny (scope required : List String) : Bool :=
  scope.any (· == "*") || required.any fun needle => scope.any (· == needle)

theorem scopeAllowsAny_eq_true (scope required : List String) :
  scopeAllowsAny scope required = true ↔ "*" ∈ scope ∨ ∃ r ∈ required, r ∈ scope
  := by
  simp [scopeAllowsAny]

/-- The form `worldScopeAllows` compares worlds in: trimmed, without trailing `/`. -/
def normWorld (w : String) : String :=
  trimEndMatches (trim w) '/'

/-- The `/`-separated segments of a world. -/
def segments (w : String) : List (List Char) :=
  w.data.splitOn '/'

/-! ### Segments -/

section Segments

variable {α : Type} [DecidableEq α]

/-- Splitting at a separator placed between two lists splits each list on its own. -/
theorem splitOn_append_cons (xs ys : List α) (c : α) :
  (xs ++ c :: ys).splitOn c = xs.splitOn c ++ ys.splitOn c
  := by
  induction xs with
  | nil => simp [List.splitOn]
  | cons x xs ih =>
    simp only [List.splitOn, List.cons_append, List.splitOnP_cons] at ih ⊢
    split
    · simp [ih]
    · rw [ih]
      obtain ⟨l, ls, hl⟩ := List.exists_cons_of_ne_nil (List.splitOnP_ne_nil (· == c) xs)
      simp [hl]

/-- No segment holds the separator. -/
theorem not_mem_of_mem_splitOn {xs l : List α} {c : α} (h : l ∈ xs.splitOn c) :
  c ∉ l
  := by
  induction xs generalizing l with
  | nil => simp_all [List.splitOn]
  | cons x xs ih =>
    simp only [List.splitOn, List.splitOnP_cons] at h ih
    split at h
    · simp only [List.mem_cons] at h
      rcases h with rfl | h
      · simp
      · exact ih h
    · obtain ⟨l', ls, hl⟩ := List.exists_cons_of_ne_nil (List.splitOnP_ne_nil (· == c) xs)
      rw [hl] at h ih
      simp only [List.modifyHead_cons, List.mem_cons] at h
      rcases h with rfl | h
      · have h1 := ih (List.mem_cons_self l' ls)
        simp only [List.mem_cons, not_or]
        refine ⟨fun e => ?_, h1⟩
        subst e
        simp_all
      · exact ih (List.mem_cons_of_mem _ h)

theorem splitOn_injective {xs ys : List α} {c : α} (h : xs.splitOn c = ys.splitOn c) :
  xs = ys
  := by
  rw [← List.intercalate_splitOn xs c, h, List.intercalate_splitOn]

/-- The segments of `xs` are a prefix of those of `ys` exactly when `ys` is `xs` or
extends `xs` past a separator. -/
theorem splitOn_prefix_iff (xs ys : List α) (c : α) :
  xs.splitOn c <+: ys.splitOn c ↔ ys = xs ∨ ∃ u, ys = xs ++ c :: u
  := by
  constructor
  · rintro ⟨rest, hrest⟩
    cases rest with
    | nil => exact .inl (splitOn_injective (by simpa using hrest.symm))
    | cons r rs =>
      refine .inr ⟨[c].intercalate (r :: rs), splitOn_injective (c := c) ?_⟩
      have hsep : ∀ l ∈ r :: rs, c ∉ l :=
        fun l hl => not_mem_of_mem_splitOn (hrest ▸ List.mem_append_right _ hl)
      rw [splitOn_append_cons, List.splitOn_intercalate _ c hsep (List.cons_ne_nil r rs), hrest]
  · rintro (rfl | ⟨u, rfl⟩)
    · exact List.prefix_refl _
    · rw [splitOn_append_cons]
      exact List.prefix_append _ _

end Segments

/-! ### World scopes -/

theorem worldScopeAllows_eq (scope target : String) :
  worldScopeAllows scope target =
    if (normWorld scope).isEmpty || (normWorld target).isEmpty then false
    else if normWorld scope == "*" then true
    else if normWorld target == normWorld scope then true
    else ((stripPrefix (normWorld target) (normWorld scope)).map
      fun rest => startsWith rest "/").getD false
  := rfl

theorem isEmpty_eq_false {s : String} (h : s ≠ "") : s.isEmpty = false :=
  Bool.eq_false_iff.mpr fun e => h ((String.isEmpty_iff s).mp e)

/-- The last test of `worldScopeAllows`: the target continues the scope past a `/`. -/
theorem stripPrefix_startsWith_iff (s t : String) :
  ((stripPrefix t s).map fun rest => startsWith rest "/").getD false = true ↔
    ∃ u, t.data = s.data ++ '/' :: u
  := by
  cases hp : stripPrefix t s with
  | none =>
    simp only [Option.map_none', Option.getD_none, Bool.false_eq_true, false_iff, not_exists]
    intro u hu
    simp [(stripPrefix_eq_some (r := ⟨'/' :: u⟩)).mpr hu] at hp
  | some r =>
    rw [stripPrefix_eq_some] at hp
    simp only [Option.map_some', Option.getD_some, startsWith, List.isPrefixOf_iff_prefix, hp,
      List.append_cancel_left_eq]
    constructor
    · rintro ⟨u, hu⟩
      exact ⟨u, hu.symm⟩
    · rintro ⟨u, hu⟩
      exact ⟨u, hu.symm⟩

/-- `worldScopeAllows` holds exactly when both normal forms are non-empty and the scope's
is `*`, equals the target's, or is continued by the target's past a `/`. -/
theorem worldScopeAllows_eq_true (scope target : String) :
  worldScopeAllows scope target = true ↔
    normWorld scope ≠ "" ∧ normWorld target ≠ "" ∧
      (normWorld scope = "*" ∨ normWorld target = normWorld scope ∨
        ∃ u, (normWorld target).data = (normWorld scope).data ++ '/' :: u)
  := by
  rw [worldScopeAllows_eq, ← stripPrefix_startsWith_iff]
  generalize normWorld scope = s, normWorld target = t
  have hempty : "".isEmpty = true := rfl
  by_cases hs : s = ""
  · simp [hs, hempty]
  by_cases ht : t = ""
  · simp [ht, hempty]
  have hse := isEmpty_eq_false hs
  have hte := isEmpty_eq_false ht
  by_cases h1 : s = "*"
  · simp [hse, hte, h1, hs, ht, isEmpty_eq_false]
  by_cases h2 : t = s
  · simp [hse, hte, h1, h2, hs]
  simp [hse, hte, h1, h2, hs, ht]

/-- `worldScopeAllows` is segment-prefix containment of the normal forms. -/
theorem worldScopeAllows_iff_segments (scope target : String) :
  worldScopeAllows scope target = true ↔
    normWorld scope ≠ "" ∧ normWorld target ≠ "" ∧
      (normWorld scope = "*" ∨ segments (normWorld scope) <+: segments (normWorld target))
  := by
  simp only [worldScopeAllows_eq_true, segments, splitOn_prefix_iff, ← String.ext_iff]

/-- Only `*` has the segments of `*`. -/
theorem eq_star_of_prefix_segments_star {w : String} (h : segments w <+: segments "*") :
  w = "*"
  := by
  have hstar : segments "*" = [['*']] := rfl
  rw [hstar, List.prefix_cons_iff] at h
  rcases h with h | ⟨t, ht, hpre⟩
  · exact absurd h (List.splitOnP_ne_nil _ _)
  · rw [List.prefix_nil.mp hpre, ← hstar] at ht
    exact String.ext (splitOn_injective ht)

/-- Scopes compose: a world a scope allows allows in turn only worlds the scope allows. -/
theorem worldScopeAllows_trans {a b c : String} (hab : worldScopeAllows a b = true)
    (hbc : worldScopeAllows b c = true) :
  worldScopeAllows a c = true
  := by
  rw [worldScopeAllows_iff_segments] at *
  obtain ⟨ha, -, hab⟩ := hab
  obtain ⟨-, hc, hbc⟩ := hbc
  refine ⟨ha, hc, ?_⟩
  rcases hab with hstar | hab
  · exact .inl hstar
  rcases hbc with hstar | hbc
  · rw [hstar] at hab
    exact .inl (eq_star_of_prefix_segments_star hab)
  · exact .inr (hab.trans hbc)

theorem worldScopeAllows_segment_containment :
  (∀ scope target : String, worldScopeAllows scope target = true ↔
      normWorld scope ≠ "" ∧ normWorld target ≠ "" ∧
        (normWorld scope = "*" ∨ segments (normWorld scope) <+: segments (normWorld target))) ∧
  (∀ a b c : String, worldScopeAllows a b = true → worldScopeAllows b c = true →
      worldScopeAllows a c = true) ∧
  worldScopeAllows "a/acme" "a/acme2" = false
  := ⟨worldScopeAllows_iff_segments, fun _ _ _ => worldScopeAllows_trans, by decide⟩

end UblGate
