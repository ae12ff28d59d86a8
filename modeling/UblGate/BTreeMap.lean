import UblGate.Knock

/-!
# Maps in key order

The gate's `BTreeMap<String, _>`s: the registry of `materialize_registry` and its versions,
and the counters of the advisor snapshot.  A map is the list of its entries in strictly
increasing key order (`KeysSorted`), keys compared as `Ord for String` compares them
(`Json.keyLt`).  `upsert` is `entry(k).or_insert_with(d)` followed by an update of the entry,
`modify` is `get_mut(k)` followed by one; each keeps the keys in order and changes only the
lookup of its own key (`keysSorted_upsert`, `lookup_upsert`, `keysSorted_modify`,
`lookup_modify`).
-/

namespace UblGate

namespace BTreeMap

section

variable {α : Type}

/-- Keys in strictly increasing order, as a `BTreeMap<String, _>` holds them. -/
def KeysSorted (m : List (String × α)) : Prop :=
  m.Pairwise fun a b => a.1 < b.1

/-- `map.entry(k).or_insert_with(|| d)` with the entry then updated by `f`: the entry of
`k`, or `d` put in key order when there is none. -/
def upsert (k : String) (d : α) (f : α → α) : List (String × α) → List (String × α)
  | [] => [(k, f d)]
  | (k', v) :: m =>
    if k = k' then (k', f v) :: m
    else if Json.keyLt k k' then (k, f d) :: (k', v) :: m
    else (k', v) :: upsert k d f m

/-- `map.get_mut(k)` with the entry, when there is one, updated by `f`. -/
def modify (k : String) (f : α → α) : List (String × α) → List (String × α)
  | [] => []
  | (k', v) :: m => if k = k' then (k', f v) :: m else (k', v) :: modify k f m

theorem lookup_cons_of_ne {k k' : String} {v : α} {m : List (String × α)} (h : k' ≠ k) :
  ((k, v) :: m).lookup k' = m.lookup k'
  := by
  simp [List.lookup_cons, beq_false_of_ne h]

@[simp]
theorem lookup_cons_self {k : String} {v : α} {m : List (String × α)} :
  ((k, v) :: m).lookup k = some v
  := by
  simp [List.lookup_cons]

theorem lookup_eq_none_of_lt {k : String} {m : List (String × α)}
    (hm : ∀ x ∈ m, k < x.1) :
  m.lookup k = none
  := by
  induction m with
  | nil => rfl
  | cons x m ih =>
    obtain ⟨k₁, v⟩ := x
    rw [lookup_cons_of_ne (ne_of_lt (hm _ (List.mem_cons_self _ _)))]
    exact ih fun y hy => hm y (List.mem_cons_of_mem _ hy)

theorem lookup_upsert {k k' : String} {d : α} {f : α → α} {m : List (String × α)}
    (hm : KeysSorted m) :
  (upsert k d f m).lookup k' = if k' = k then some (f ((m.lookup k).getD d)) else m.lookup k'
  := by
  induction m with
  | nil => by_cases h : k' = k <;> simp [upsert, h, lookup_cons_of_ne]
  | cons x m ih =>
    obtain ⟨k₁, v⟩ := x
    have hm' := List.pairwise_cons.mp hm
    unfold upsert
    by_cases heq : k = k₁
    · subst heq
      by_cases h : k' = k <;> simp [h, lookup_cons_of_ne]
    by_cases hlt : Json.keyLt k k₁ = true
    · have hlt' := Json.keyLt_iff_lt.mp hlt
      have hnone : ((k₁, v) :: m).lookup k = none := lookup_eq_none_of_lt fun y hy =>
        (List.mem_cons.mp hy).elim (fun h => h ▸ hlt') fun hy => lt_trans hlt' (hm'.1 y hy)
      by_cases h : k' = k <;> simp [heq, hlt, h, hnone, lookup_cons_of_ne]
    · rw [if_neg heq, if_neg hlt]
      by_cases h : k' = k₁
      · subst h
        simp [Ne.symm heq]
      · rw [lookup_cons_of_ne h, ih hm'.2, lookup_cons_of_ne heq, lookup_cons_of_ne h]

theorem fst_of_mem_upsert {k : String} {d : α} {f : α → α} {m : List (String × α)}
    {x : String × α} (hx : x ∈ upsert k d f m) :
  x.1 = k ∨ ∃ y ∈ m, y.1 = x.1
  := by
  induction m with
  | nil => exact .inl (List.mem_singleton.mp hx ▸ rfl)
  | cons y m ih =>
    unfold upsert at hx
    split_ifs at hx with heq hlt
    · rcases List.mem_cons.mp hx with rfl | hx
      · exact .inr ⟨y, List.mem_cons_self _ _, rfl⟩
      · exact .inr ⟨x, List.mem_cons_of_mem _ hx, rfl⟩
    · rcases List.mem_cons.mp hx with rfl | hx
      · exact .inl rfl
      · exact .inr ⟨x, hx, rfl⟩
    · rcases List.mem_cons.mp hx with rfl | hx
      · exact .inr ⟨_, List.mem_cons_self _ _, rfl⟩
      · obtain h | ⟨z, hz, hzx⟩ := ih hx
        · exact .inl h
        · exact .inr ⟨z, List.mem_cons_of_mem _ hz, hzx⟩

theorem keysSorted_upsert {k : String} {d : α} {f : α → α} {m : List (String × α)}
    (hm : KeysSorted m) :
  KeysSorted (upsert k d f m)
  := by
  induction m with
  | nil => exact List.pairwise_singleton _ _
  | cons y m ih =>
    obtain ⟨k₁, v⟩ := y
    have hm' := List.pairwise_cons.mp hm
    unfold upsert
    split_ifs with heq hlt
    · exact List.pairwise_cons.mpr ⟨fun z hz => heq ▸ hm'.1 z hz, hm'.2⟩
    · have hlt' := Json.keyLt_iff_lt.mp hlt
      exact List.pairwise_cons.mpr ⟨fun z hz => (List.mem_cons.mp hz).elim
        (fun h => h ▸ hlt') fun hz => lt_trans hlt' (hm'.1 z hz), hm⟩
    · have hgt : k₁ < k :=
        lt_of_le_of_ne (not_lt.mp (mt Json.keyLt_iff_lt.mpr hlt)) (Ne.symm heq)
      refine List.pairwise_cons.mpr ⟨fun z hz => ?_, ih hm'.2⟩
      obtain h | ⟨w, hw, hwz⟩ := fst_of_mem_upsert hz
      · exact h ▸ hgt
      · exact hwz ▸ hm'.1 w hw

theorem lookup_modify {k k' : String} {f : α → α} {m : List (String × α)} :
  (modify k f m).lookup k' = if k' = k then (m.lookup k').map f else m.lookup k'
  := by
  induction m with
  | nil => simp [modify]
  | cons y m ih =>
    obtain ⟨k₁, v⟩ := y
    unfold modify
    by_cases heq : k = k₁
    · subst heq
      by_cases h : k' = k <;> simp [h, lookup_cons_of_ne]
    · rw [if_neg heq]
      by_cases h : k' = k₁
      · subst h
        simp [Ne.symm heq]
      · rw [lookup_cons_of_ne h, ih, lookup_cons_of_ne h]

theorem map_fst_modify {k : String} {f : α → α} {m : List (String × α)} :
  (modify k f m).map Prod.fst = m.map Prod.fst
  := by
  induction m with
  | nil => rfl
  | cons y m ih => unfold modify; split_ifs with h <;> simp [h, ih]

theorem keysSorted_modify {k : String} {f : α → α} {m : List (String × α)}
    (hm : KeysSorted m) :
  KeysSorted (modify k f m)
  := by
  have h : ((modify k f m).map Prod.fst).Pairwise (· < ·) := by
    rw [map_fst_modify]
    exact List.pairwise_map.mpr hm
  exact List.pairwise_map.mp h

theorem lookup_map_snd {β : Type} (f : α → β) (m : List (String × α)) (k : String) :
  (m.map fun x => (x.1, f x.2)).lookup k = (m.lookup k).map f
  := by
  induction m with
  | nil => rfl
  | cons x m ih =>
    obtain ⟨k', v⟩ := x
    by_cases h : k = k'
    · subst h
      simp
    · simp only [List.map_cons, lookup_cons_of_ne h, ih]

theorem eq_nil_of_lookup_eq_none {m : List (String × α)}
    (h : ∀ k, m.lookup k = none) :
  m = []
  := by
  cases m with
  | nil => rfl
  | cons x m =>
    obtain ⟨k, v⟩ := x
    simpa using h k

theorem lookup_of_mem_of_keysSorted {m : List (String × α)} (hm : KeysSorted m)
    {k : String} {v : α} (h : (k, v) ∈ m) :
  m.lookup k = some v
  := by
  induction m with
  | nil => exact absurd h (List.not_mem_nil _)
  | cons x m ih =>
    obtain ⟨k', v'⟩ := x
    have hm' := List.pairwise_cons.mp hm
    rcases List.mem_cons.mp h with h | h
    · cases h
      simp
    · rw [lookup_cons_of_ne (ne_of_lt (hm'.1 _ h)).symm]
      exact ih hm'.2 h

theorem mem_keys_iff_lookup {m : List (String × α)} {k : String} :
  k ∈ m.map Prod.fst ↔ m.lookup k ≠ none
  := by
  induction m with
  | nil => simp
  | cons x m ih =>
    obtain ⟨k', v'⟩ := x
    by_cases h : k = k'
    · subst h
      simp
    · simp [h, lookup_cons_of_ne h, ih]

end

/-! ### Grouping a list by key -/

section

variable {α β γ : Type} (sel : β → Option (String × γ)) (d : α) (g : α → γ → α)

/-- One turn of a loop that folds each element with a key into the entry of its key:
`if let Some((k, b)) = sel(x) { g(map.entry(k).or_insert(d), b) }`. -/
def accumulate (m : List (String × α)) (x : β) : List (String × α) :=
  match sel x with
  | some (k, b) => upsert k d (fun v => g v b) m
  | none => m

/-- What the elements of `xs` of key `k` carry, in order. -/
def valuesAt (xs : List β) (k : String) : List γ :=
  xs.filterMap fun x => (sel x).bind fun kb => if kb.1 = k then some kb.2 else none

theorem valuesAt_append_singleton (xs : List β) (x : β) (k : String) :
  valuesAt sel (xs ++ [x]) k =
    valuesAt sel xs k ++ ((sel x).bind fun kb => if kb.1 = k then some kb.2 else none).toList
  := by
  unfold valuesAt
  simp only [List.filterMap_append, List.filterMap_cons, List.filterMap_nil]
  cases (sel x).bind fun kb => if kb.1 = k then some kb.2 else none <;> rfl

theorem accumulate_of_none {m : List (String × α)} {x : β} (hx : sel x = none) :
  accumulate sel d g m x = m
  := by
  simp [accumulate, hx]

theorem accumulate_of_some {m : List (String × α)} {x : β} {k : String} {b : γ}
    (hx : sel x = some (k, b)) :
  accumulate sel d g m x = upsert k d (fun v => g v b) m
  := by
  simp [accumulate, hx]

/-- A loop of `accumulate` keeps the keys in order, and the entry of each key is what `g`
makes of the values of that key, from the entry it started with or from `d`. -/
theorem foldl_accumulate {m : List (String × α)} (hm : KeysSorted m) (xs : List β) :
  KeysSorted (xs.foldl (accumulate sel d g) m) ∧
    ∀ k, (xs.foldl (accumulate sel d g) m).lookup k =
      if (valuesAt sel xs k).isEmpty then m.lookup k
      else some ((valuesAt sel xs k).foldl g ((m.lookup k).getD d))
  := by
  induction xs using List.reverseRecOn with
  | nil => exact ⟨hm, fun k => rfl⟩
  | append_singleton xs x ih =>
    rw [List.foldl_append, List.foldl_cons, List.foldl_nil]
    cases hx : sel x with
    | none =>
      rw [accumulate_of_none sel d g hx]
      refine ⟨ih.1, fun k => ?_⟩
      rw [ih.2 k, valuesAt_append_singleton, hx, Option.none_bind, Option.toList_none,
        List.append_nil]
    | some kb =>
      obtain ⟨k', b⟩ := kb
      rw [accumulate_of_some sel d g hx]
      refine ⟨keysSorted_upsert ih.1, fun k => ?_⟩
      rw [lookup_upsert ih.1, valuesAt_append_singleton, hx, Option.some_bind]
      by_cases hk : k = k'
      · subst hk
        rw [if_pos rfl, if_pos rfl, ih.2 k, Option.toList_some]
        cases hv : (valuesAt sel xs k).isEmpty
        · simp [hv]
        · simp [List.isEmpty_iff.mp hv]
      · rw [if_neg hk, if_neg (Ne.symm hk), ih.2 k, Option.toList_none, List.append_nil]

end

end BTreeMap

end UblGate
