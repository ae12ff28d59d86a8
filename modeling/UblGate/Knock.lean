import Mathlib.Data.String.Basic
import UblGate.Routes

/-!
# Knock on both transports

A chip reaches `knock` on two paths.  `POST /v1/chips` hands it the raw body; `ubl.deliver`
hands it `serde_json::to_vec` of the `chip` member of the JSON-RPC request the gate has
parsed.  Both are seen here through parse trees: `Json` with the members of an object as
the text writes them, repeated names included, and names and strings with their escapes
decoded.  `serde_json` parses a tree into its value by inserting the members, one after
the other, into a `BTreeMap`: a later member replaces an earlier one of the same name, and
the members come out in key order.  That is `Json.normalize`.  `to_vec` writes a value as
a text whose parse tree is the value itself, so the MCP path knocks `t.normalize` where the
raw path knocks `t`.

`knock` is not in the source; it is modelled from the spec's list of checks, in order.

* `normalize_normalize`: parsing a value `serde_json` wrote gives the value back.
* `knock_normalize_of_noDuplicates`: when no object of the chip repeats a member name,
  knock answers the same on both paths, code for code.
* `mcpDeliver_knocks_as_createChip`: run through the handlers, on a host whose knock is the
  modelled knock on the parse tree, the body `ubl.deliver` submits over `POST /mcp/rpc`
  gets the knock answer of the raw body of `POST /v1/chips`, for every such chip.
* `mcpDeliver_merges_duplicate_keys`: on
  `{"@type":"ubl/user","@world":"a/app/t/main","x":1,"x":2}` `POST /v1/chips` files a
  `KNOCK-004` deny receipt, and `ubl.deliver` hands the chip with `x` equal to 2 to the
  pipeline.
-/

namespace UblGate

namespace Json

/-! ### The value `serde_json` parses -/

mutual

/-- The value `serde_json` parses from a text with this parse tree. -/
def normalize : Json → Json
  | .array xs => .array (normalizeItems xs)
  | .object fs => .object (normalizeMembers [] fs)
  | j => j

/-- `normalize` on the items of an array. -/
def normalizeItems : List Json → List Json
  | [] => []
  | x :: xs => x.normalize :: normalizeItems xs

/-- The members of an object inserted one after the other into the map `acc`. -/
def normalizeMembers (acc : List (String × Json)) : List (String × Json) → List (String × Json)
  | [] => acc
  | (k, v) :: fs => normalizeMembers (insertField k v.normalize acc) fs

end

/-- The member names of an object. -/
def keys (fs : List (String × Json)) : List String :=
  fs.map Prod.fst

/-- The order `insertField` compares names with, `keyLt`, is the order of
`LinearOrder String`. -/
theorem keyLt_iff_lt {a b : String} : keyLt a b = true ↔ a < b :=
  decide_eq_true_iff.trans ((List.lt_iff_lex_lt a.data b.data).trans String.lt_iff_toList_lt.symm)

/-- The members of an object in strictly increasing name order, as a `BTreeMap` holds
them. -/
def KeySorted (fs : List (String × Json)) : Prop :=
  fs.Pairwise fun a b => a.1 < b.1

theorem normalizeItems_eq (xs : List Json) : normalizeItems xs = xs.map normalize
  := by
  induction xs with
  | nil => rfl
  | cons x xs ih => simp [normalizeItems, ih]

theorem asStr_normalize (v : Json) : v.normalize.asStr = v.asStr
  := by
  cases v <;> rfl

/-! ### Inserting into a `BTreeMap` -/

section

variable {k : String} {v : Json}

theorem mem_insertField {x : String × Json} {fs : List (String × Json)}
    (h : x ∈ insertField k v fs) : x = (k, v) ∨ x ∈ fs
  := by
  induction fs with
  | nil => simpa [insertField] using h
  | cons y fs ih =>
    unfold insertField at h
    split_ifs at h <;> rcases List.mem_cons.mp h with rfl | h
    · exact .inl rfl
    · exact .inr (List.mem_cons_of_mem _ h)
    · exact .inl rfl
    · exact .inr h
    · exact .inr (List.mem_cons_self _ _)
    · exact (ih h).imp_right (List.mem_cons_of_mem _)

theorem insertField_perm {fs : List (String × Json)} (hk : k ∉ keys fs) :
  List.Perm (insertField k v fs) ((k, v) :: fs)
  := by
  induction fs with
  | nil => rfl
  | cons y fs ih =>
    have hne : k ≠ y.1 := fun h => hk (h ▸ List.mem_cons_self _ _)
    have hrest : k ∉ keys fs := fun h => hk (List.mem_cons_of_mem _ h)
    unfold insertField
    rw [if_neg hne]
    split_ifs
    · rfl
    · exact ((ih hrest).cons y).trans (List.Perm.swap _ _ _)

theorem keySorted_insertField {fs : List (String × Json)} (hs : KeySorted fs) :
  KeySorted (insertField k v fs)
  := by
  induction fs with
  | nil => exact List.pairwise_singleton _ _
  | cons y fs ih =>
    obtain ⟨hy, hfs⟩ := List.pairwise_cons.mp hs
    unfold insertField
    split_ifs with heq hlt
    · exact List.pairwise_cons.mpr ⟨fun z hz => heq ▸ hy z hz, hfs⟩
    · replace hlt := keyLt_iff_lt.mp hlt
      refine List.pairwise_cons.mpr ⟨fun z hz => ?_, hs⟩
      rcases List.mem_cons.mp hz with rfl | hz
      · exact hlt
      · exact lt_trans hlt (hy z hz)
    · have hyk : y.1 < k := lt_of_le_of_ne (not_lt.mp (mt keyLt_iff_lt.mpr hlt)) (Ne.symm heq)
      refine List.pairwise_cons.mpr ⟨fun z hz => ?_, ih hfs⟩
      rcases mem_insertField hz with rfl | hz
      · exact hyk
      · exact hy z hz

theorem insertField_of_lt {fs : List (String × Json)} (h : ∀ y ∈ fs, y.1 < k) :
  insertField k v fs = fs ++ [(k, v)]
  := by
  induction fs with
  | nil => rfl
  | cons y fs ih =>
    have hy := h y (List.mem_cons_self _ _)
    unfold insertField
    rw [if_neg (ne_of_gt hy), if_neg (mt keyLt_iff_lt.mp (not_lt.mpr (le_of_lt hy))),
      ih fun z hz => h z (List.mem_cons_of_mem _ hz)]
    rfl

end

/-! ### Normalizing the members of an object -/

theorem keySorted_normalizeMembers {acc : List (String × Json)} (hs : KeySorted acc)
    (fs : List (String × Json)) : KeySorted (normalizeMembers acc fs)
  := by
  induction fs generalizing acc with
  | nil => exact hs
  | cons m fs ih => exact ih (keySorted_insertField hs)

theorem mem_normalizeMembers {acc fs : List (String × Json)} {x : String × Json}
    (h : x ∈ normalizeMembers acc fs) : x ∈ acc ∨ ∃ v, (x.1, v) ∈ fs ∧ x.2 = v.normalize
  := by
  induction fs generalizing acc with
  | nil => exact .inl h
  | cons m fs ih =>
    rcases ih h with h | ⟨v, hv, hx⟩
    · rcases mem_insertField h with rfl | h
      · exact .inr ⟨m.2, List.mem_cons_self _ _, rfl⟩
      · exact .inl h
    · exact .inr ⟨v, List.mem_cons_of_mem _ hv, hx⟩

/-- Without repeated names, the parsed members are the members, values parsed, in some
order. -/
theorem normalizeMembers_perm {acc fs : List (String × Json)} (h : (keys acc ++ keys fs).Nodup) :
  List.Perm (normalizeMembers acc fs) (acc ++ fs.map fun m => (m.1, m.2.normalize))
  := by
  induction fs generalizing acc with
  | nil => simp [normalizeMembers]
  | cons m fs ih =>
    have hm : m.1 ∉ keys acc := fun hm =>
      (List.pairwise_append.mp h).2.2 m.1 hm m.1 (List.mem_cons_self _ _) rfl
    have hins := insertField_perm (v := m.2.normalize) hm
    have hnodup : (keys (insertField m.1 m.2.normalize acc) ++ keys fs).Nodup :=
      (((hins.map Prod.fst).append_right _).trans List.perm_middle.symm).nodup_iff.mpr h
    exact (ih hnodup).trans ((hins.append_right _).trans List.perm_middle.symm)

/-- Inserting members that come after the map, in order and already parsed, leaves them as
they are. -/
theorem normalizeMembers_of_keySorted {acc fs : List (String × Json)}
    (hs : KeySorted (acc ++ fs)) (hfix : ∀ m ∈ fs, m.2.normalize = m.2) :
  normalizeMembers acc fs = acc ++ fs
  := by
  induction fs generalizing acc with
  | nil => simp [normalizeMembers]
  | cons m fs ih =>
    have hlt : ∀ y ∈ acc, y.1 < m.1 :=
      fun y hy => (List.pairwise_append.mp hs).2.2 y hy m (List.mem_cons_self _ _)
    rw [normalizeMembers, hfix m (List.mem_cons_self _ _), insertField_of_lt hlt,
      ih (by simpa using hs) fun y hy => hfix y (List.mem_cons_of_mem _ hy)]
    simp

/-! ### Parsing twice -/

mutual

/-- Parsing a value `serde_json` wrote gives the value back. -/
theorem normalize_normalize : ∀ t : Json, t.normalize.normalize = t.normalize
  | .null | .bool _ | .number _ | .string _ => rfl
  | .array xs => by
    simp only [normalize, normalizeItems_eq, List.map_map]
    exact congrArg _ (List.map_congr_left (items_normalize_normalize xs))
  | .object fs => by
    simp only [normalize]
    refine congrArg _ (normalizeMembers_of_keySorted
      (by simpa using keySorted_normalizeMembers List.Pairwise.nil fs) fun m hm => ?_)
    rcases mem_normalizeMembers hm with hm | ⟨v, hv, hmv⟩
    · cases hm
    · rw [hmv]
      exact members_normalize_normalize fs (m.1, v) hv

theorem items_normalize_normalize :
    ∀ xs : List Json, ∀ x ∈ xs, x.normalize.normalize = x.normalize
  | [], _, h => absurd h (List.not_mem_nil _)
  | y :: ys, x, h => by
    rcases List.mem_cons.mp h with h | h
    · exact h ▸ normalize_normalize y
    · exact items_normalize_normalize ys x h

theorem members_normalize_normalize :
    ∀ fs : List (String × Json), ∀ m ∈ fs, m.2.normalize.normalize = m.2.normalize
  | [], _, h => absurd h (List.not_mem_nil _)
  | (k, v) :: gs, m, h => by
    rcases List.mem_cons.mp h with h | h
    · exact h ▸ normalize_normalize v
    · exact members_normalize_normalize gs m h

end

/-! ### Properties of every node -/

mutual

/-- Whether some node of the tree, itself included, satisfies `p`. -/
def anyNode (p : Json → Bool) : Json → Bool
  | .array xs => p (.array xs) || anyItems p xs
  | .object fs => p (.object fs) || anyMembers p fs
  | j => p j

/-- `anyNode` on the items of an array. -/
def anyItems (p : Json → Bool) : List Json → Bool
  | [] => false
  | x :: xs => x.anyNode p || anyItems p xs

/-- `anyNode` on the member values of an object. -/
def anyMembers (p : Json → Bool) : List (String × Json) → Bool
  | [] => false
  | (_, v) :: fs => v.anyNode p || anyMembers p fs

end

mutual

/-- The nesting depth of arrays and objects. -/
def depth : Json → Nat
  | .array xs => itemsDepth xs + 1
  | .object fs => membersDepth fs + 1
  | _ => 0

/-- The greatest depth of the items of an array. -/
def itemsDepth : List Json → Nat
  | [] => 0
  | x :: xs => max x.depth (itemsDepth xs)

/-- The greatest depth of the member values of an object. -/
def membersDepth : List (String × Json) → Nat
  | [] => 0
  | (_, v) :: fs => max v.depth (membersDepth fs)

end

theorem anyItems_eq (p : Json → Bool) (xs : List Json) : anyItems p xs = xs.any (anyNode p)
  := by
  induction xs with
  | nil => rfl
  | cons x xs ih => simp [anyItems, ih]

theorem anyMembers_eq (p : Json → Bool) (fs : List (String × Json)) :
  anyMembers p fs = fs.any fun m => m.2.anyNode p
  := by
  induction fs with
  | nil => rfl
  | cons m fs ih => simp [anyMembers, ih]

theorem itemsDepth_eq (xs : List Json) : itemsDepth xs = (xs.map depth).foldr max 0
  := by
  induction xs with
  | nil => rfl
  | cons x xs ih => simp [itemsDepth, ih]

theorem membersDepth_eq (fs : List (String × Json)) :
  membersDepth fs = (fs.map fun m => m.2.depth).foldr max 0
  := by
  induction fs with
  | nil => rfl
  | cons m fs ih => simp [membersDepth, ih]

/-- An object repeats a member name. -/
def duplicateAt : Json → Bool
  | .object fs => !decide (keys fs).Nodup
  | _ => false

/-- A node property that parsing does not change on a node whose own member names are
distinct. -/
def Respects (p : Json → Bool) : Prop :=
  ∀ j, duplicateAt j = false → p j.normalize = p j

theorem any_eq_of_perm {α : Type} {l₁ l₂ : List α} (h : List.Perm l₁ l₂) (f : α → Bool) :
  l₁.any f = l₂.any f
  := by
  simp only [List.any_eq, h.mem_iff]

theorem any_congr_of_mem {α : Type} {l : List α} {f g : α → Bool} (h : ∀ x ∈ l, f x = g x) :
  l.any f = l.any g
  := by
  induction l with
  | nil => rfl
  | cons x l ih =>
    simp only [List.any_cons, h x (List.mem_cons_self _ _),
      ih fun y hy => h y (List.mem_cons_of_mem _ hy)]

/-- The members of a parsed object without repeated names are its members, values parsed, in
some order. -/
theorem normalizeMembers_nil_perm {fs : List (String × Json)}
    (h : duplicateAt (.object fs) = false) :
  List.Perm (normalizeMembers [] fs) (fs.map fun m => (m.1, m.2.normalize))
  := normalizeMembers_perm (by simpa [duplicateAt] using h)

mutual

/-- On a tree without repeated names, a property that parsing respects holds of some node of
the parsed value exactly when it holds of some node of the tree. -/
theorem anyNode_normalize {p : Json → Bool} (hp : Respects p) :
    ∀ t : Json, t.anyNode duplicateAt = false → t.normalize.anyNode p = t.anyNode p
  | .null, _ | .bool _, _ | .number _, _ | .string _, _ => rfl
  | .array xs, h => by
    simp only [anyNode, Bool.or_eq_false_iff, anyItems_eq] at h
    have hroot := hp (.array xs) h.1
    simp only [normalize] at hroot ⊢
    simp only [anyNode]
    rw [hroot, anyItems_eq, anyItems_eq, normalizeItems_eq, List.any_map]
    exact congrArg _ (any_congr_of_mem (items_anyNode_normalize hp xs h.2))
  | .object fs, h => by
    simp only [anyNode, Bool.or_eq_false_iff, anyMembers_eq] at h
    have hroot := hp (.object fs) h.1
    simp only [normalize] at hroot ⊢
    simp only [anyNode]
    rw [hroot, anyMembers_eq, anyMembers_eq, any_eq_of_perm (normalizeMembers_nil_perm h.1),
      List.any_map]
    exact congrArg _ (any_congr_of_mem (members_anyNode_normalize hp fs h.2))

theorem items_anyNode_normalize {p : Json → Bool} (hp : Respects p) :
    ∀ xs : List Json, xs.any (anyNode duplicateAt) = false →
      ∀ x ∈ xs, x.normalize.anyNode p = x.anyNode p
  | [], _, _, hx => absurd hx (List.not_mem_nil _)
  | y :: ys, h, x, hx => by
    simp only [List.any_cons, Bool.or_eq_false_iff] at h
    rcases List.mem_cons.mp hx with hx | hx
    · exact hx ▸ anyNode_normalize hp y h.1
    · exact items_anyNode_normalize hp ys h.2 x hx

theorem members_anyNode_normalize {p : Json → Bool} (hp : Respects p) :
    ∀ fs : List (String × Json), (fs.any fun m => m.2.anyNode duplicateAt) = false →
      ∀ m ∈ fs, (m.2.normalize.anyNode p) = m.2.anyNode p
  | [], _, _, hm => absurd hm (List.not_mem_nil _)
  | (k, v) :: gs, h, m, hm => by
    simp only [List.any_cons, Bool.or_eq_false_iff] at h
    rcases List.mem_cons.mp hm with hm | hm
    · exact hm ▸ anyNode_normalize hp v h.1
    · exact members_anyNode_normalize hp gs h.2 m hm

end

mutual

/-- On a tree without repeated names, parsing keeps the depth. -/
theorem depth_normalize : ∀ t : Json, t.anyNode duplicateAt = false → t.normalize.depth = t.depth
  | .null, _ | .bool _, _ | .number _, _ | .string _, _ => rfl
  | .array xs, h => by
    simp only [anyNode, Bool.or_eq_false_iff, anyItems_eq] at h
    simp only [normalize, depth, itemsDepth_eq, normalizeItems_eq, List.map_map]
    rw [List.map_congr_left (items_depth_normalize xs h.2)]
  | .object fs, h => by
    simp only [anyNode, Bool.or_eq_false_iff, anyMembers_eq] at h
    simp only [normalize, depth, membersDepth_eq]
    rw [List.Perm.foldr_eq' ((normalizeMembers_nil_perm h.1).map _) (fun _ _ _ _ _ => by omega),
      List.map_map, List.map_congr_left (members_depth_normalize fs h.2)]

theorem items_depth_normalize :
    ∀ xs : List Json, xs.any (anyNode duplicateAt) = false →
      ∀ x ∈ xs, (depth ∘ normalize) x = x.depth
  | [], _, _, hx => absurd hx (List.not_mem_nil _)
  | y :: ys, h, x, hx => by
    simp only [List.any_cons, Bool.or_eq_false_iff] at h
    rcases List.mem_cons.mp hx with hx | hx
    · exact hx ▸ depth_normalize y h.1
    · exact items_depth_normalize ys h.2 x hx

theorem members_depth_normalize :
    ∀ fs : List (String × Json), (fs.any fun m => m.2.anyNode duplicateAt) = false →
      ∀ m ∈ fs, ((fun m : String × Json => m.2.depth) ∘ fun m => (m.1, m.2.normalize)) m =
        m.2.depth
  | [], _, _, hm => absurd hm (List.not_mem_nil _)
  | (k, v) :: gs, h, m, hm => by
    simp only [List.any_cons, Bool.or_eq_false_iff] at h
    rcases List.mem_cons.mp hm with hm | hm
    · exact hm ▸ depth_normalize v h.1
    · exact members_depth_normalize gs h.2 m hm

end

/-! ### Member lookup -/

theorem lookup_eq_some_iff {fs : List (String × Json)} (hn : (keys fs).Nodup) {k : String}
    {v : Json} : fs.lookup k = some v ↔ (k, v) ∈ fs
  := by
  induction fs with
  | nil => simp
  | cons m fs ih =>
    obtain ⟨k', v'⟩ := m
    obtain ⟨hm, hfs⟩ := List.nodup_cons.mp (show (k' :: keys fs).Nodup from hn)
    by_cases hk : k = k'
    · subst hk
      have hnot : (k, v) ∉ fs := fun hw => hm (List.mem_map_of_mem Prod.fst hw)
      simp [List.lookup_cons, hnot, eq_comm]
    · have hbeq : (k == k') = false := by simpa using hk
      simp [List.lookup_cons, hbeq, hk, ih hfs]

theorem lookup_eq_of_perm {l₁ l₂ : List (String × Json)} (h : List.Perm l₁ l₂)
    (hn : (keys l₁).Nodup) (k : String) : l₁.lookup k = l₂.lookup k
  := by
  have hn₂ : (keys l₂).Nodup := (h.map Prod.fst).nodup_iff.mp hn
  rcases h₁ : l₁.lookup k with _ | v
  · rcases h₂ : l₂.lookup k with _ | w
    · rfl
    · rw [(lookup_eq_some_iff hn).mpr (h.mem_iff.mpr ((lookup_eq_some_iff hn₂).mp h₂))] at h₁
      cases h₁
  · exact ((lookup_eq_some_iff hn₂).mpr (h.mem_iff.mp ((lookup_eq_some_iff hn).mp h₁))).symm

theorem lookup_map_normalize (fs : List (String × Json)) (k : String) :
  (fs.map fun m => (m.1, m.2.normalize)).lookup k = (fs.lookup k).map normalize
  := by
  induction fs with
  | nil => rfl
  | cons m fs ih =>
    obtain ⟨k', v⟩ := m
    simp only [List.map_cons, List.lookup_cons]
    split <;> simp_all

/-- Parsing an object without repeated names keeps what each name reads as a string. -/
theorem getStr_normalize {fs : List (String × Json)} (h : duplicateAt (.object fs) = false)
    (k : String) : (Json.object fs).normalize.getStr k = (Json.object fs).getStr k
  := by
  have hn : (keys fs).Nodup := by simpa [duplicateAt] using h
  have hn' : (keys (fs.map fun m => (m.1, m.2.normalize))).Nodup := by
    simpa [keys, List.map_map] using hn
  have hlookup := lookup_eq_of_perm (normalizeMembers_nil_perm h).symm hn' k
  show ((normalizeMembers [] fs).lookup k).bind asStr = (fs.lookup k).bind asStr
  rw [← hlookup, lookup_map_normalize]
  cases fs.lookup k <;> simp [asStr_normalize]

/-! ### The checks of knock -/

/-- Two member names of an object that are equal in the normal form `nfc`. -/
def nfcDuplicateAt (nfc : String → String) : Json → Bool
  | .object fs => !decide (fs.map fun m => nfc m.1).Nodup
  | _ => false

/-- An array longer than `maxLen`. -/
def arrayTooLongAt (maxLen : Nat) : Json → Bool
  | .array xs => decide (maxLen < xs.length)
  | _ => false

/-- A number `serde_json` holds as an `f64`: a literal with a fraction or an exponent. -/
def floatAt : Json → Bool
  | .number (.float _) => true
  | _ => false

/-- An integer outside `i64`. -/
def bigIntAt : Json → Bool
  | .number (.posInt n) => decide (2 ^ 63 ≤ n)
  | _ => false

/-- `char::is_control`: the characters of general category `Cc`. -/
def isControl (c : Char) : Bool :=
  c.toNat < 0x20 || (0x7F ≤ c.toNat && c.toNat ≤ 0x9F)

/-- A string, or a member name, with a control character. -/
def controlCharAt : Json → Bool
  | .string s => s.data.any isControl
  | .object fs => fs.any fun m => m.1.data.any isControl
  | _ => false

/-- A numeric atom, an object with an `@num` member, whose parsed value is not well formed. -/
def badNumAtomAt (numAtomOk : Json → Bool) : Json → Bool
  | .object fs => decide ("@num" ∈ keys fs) && !numAtomOk (Json.object fs).normalize
  | _ => false

/-- A node property that depends on the member names of an object only through the set of
them, on the items of an array only through their parsed values, and not at all on a
parsed scalar, is respected by parsing. -/
theorem respects_of {p : Json → Bool}
    (hobj : ∀ fs : List (String × Json), duplicateAt (.object fs) = false →
      p (.object (normalizeMembers [] fs)) = p (.object fs))
    (harr : ∀ xs : List Json, p (.array (xs.map normalize)) = p (.array xs)) : Respects p
  := by
  intro j hj
  cases j with
  | object fs => exact hobj fs hj
  | array xs => simpa [normalize, normalizeItems_eq] using harr xs
  | _ => rfl

theorem keys_perm {fs : List (String × Json)} (h : duplicateAt (.object fs) = false) :
  List.Perm (keys (normalizeMembers [] fs)) (keys fs)
  := by
  simpa [keys, List.map_map] using (normalizeMembers_nil_perm h).map Prod.fst

theorem respects_nfcDuplicateAt (nfc : String → String) : Respects (nfcDuplicateAt nfc)
  := respects_of (fun fs hn => by
      have := (normalizeMembers_nil_perm hn).map fun m => nfc m.1
      simp only [List.map_map, Function.comp_def] at this
      exact congrArg (!·) (decide_eq_decide.mpr this.nodup_iff))
    fun _ => rfl

theorem respects_arrayTooLongAt (maxLen : Nat) : Respects (arrayTooLongAt maxLen)
  := respects_of (fun _ _ => rfl) fun xs => by simp [arrayTooLongAt]

theorem respects_floatAt : Respects floatAt
  := respects_of (fun _ _ => rfl) fun _ => rfl

theorem respects_bigIntAt : Respects bigIntAt
  := respects_of (fun _ _ => rfl) fun _ => rfl

theorem respects_controlCharAt : Respects controlCharAt
  := respects_of (fun fs hn => by
      have h := any_eq_of_perm (normalizeMembers_nil_perm hn) fun m => m.1.data.any isControl
      simpa [controlCharAt, List.any_map, Function.comp_def] using h)
    fun _ => rfl

theorem respects_badNumAtomAt (numAtomOk : Json → Bool) : Respects (badNumAtomAt numAtomOk)
  := respects_of (fun fs hn => by
      have hnorm : Json.object (normalizeMembers [] fs) = (Json.object fs).normalize := rfl
      simp only [badNumAtomAt, (keys_perm hn).mem_iff, hnorm, normalize_normalize])
    fun _ => rfl

/-- Modelled from the spec: a world follows the grammar `a/<app>/t/<tenant>[...]`, with no
empty segment. -/
def isWorld (w : String) : Bool :=
  match w.data.splitOn '/' with
  | ['a'] :: app :: ['t'] :: tenant :: rest =>
    !app.isEmpty && !tenant.isEmpty && rest.all fun s => !s.isEmpty
  | _ => false

/-- The envelope check: `@type` a non-empty string and `@world` a world. -/
def envelopeOk (t : Json) : Bool :=
  match t.getStr "@type", t.getStr "@world" with
  | some chipType, some world => !chipType.isEmpty && isWorld world
  | _, _ => false

theorem envelopeOk_normalize {fs : List (String × Json)} (h : duplicateAt (.object fs) = false) :
  (Json.object fs).normalize.envelopeOk = (Json.object fs).envelopeOk
  := by
  simp only [envelopeOk, getStr_normalize h]

end Json

/-! ### Knock -/

/-- Modelled from the spec: the configuration of knock, which is not in the source:
`MAX_DEPTH`, "configured ≥ 16"; `MAX_ARRAY_LEN`; the Unicode normal form C that member
names are compared in; and which numeric atoms are well formed. -/
structure KnockConfig where
  nfc : String → String
  maxDepth : Nat
  maxArrayLen : Nat
  numAtomOk : Json → Bool
  sixteen_le_maxDepth : 16 ≤ maxDepth

/-- The checks of knock after parsing, in the spec's order, with the code of each. -/
def knockChecks (cfg : KnockConfig) (t : Json) : Except String Json :=
  if t.anyNode (Json.nfcDuplicateAt cfg.nfc) then .error "KNOCK-004"
  else if cfg.maxDepth < t.depth then .error "KNOCK-002"
  else if t.anyNode (Json.arrayTooLongAt cfg.maxArrayLen) then .error "KNOCK-003"
  else if !t.envelopeOk then .error "KNOCK-006"
  else if t.anyNode Json.floatAt || t.anyNode Json.bigIntAt then .error "KNOCK-008"
  else if t.anyNode (Json.badNumAtomAt cfg.numAtomOk) then .error "KNOCK-009"
  else if t.anyNode Json.controlCharAt then .error "KNOCK-011"
  else .ok t.normalize

/-- Modelled from the spec: `knock` on a chip whose text parses to the tree `t`.  A root
that is not an object fails `KNOCK-007`; then repeated names, also in normal form C, fail
`KNOCK-004`, depth `KNOCK-002`, array length `KNOCK-003`, the envelope `KNOCK-006`, floats
and integers outside `i64` `KNOCK-008`, numeric atoms `KNOCK-009` and control characters
`KNOCK-011`.  The error is the code of the first check that fails; an admitted chip is the
value `serde_json` parses. -/
def knock (cfg : KnockConfig) (t : Json) : Except String Json :=
  match t with
  | .object _ => knockChecks cfg t
  | _ => .error "KNOCK-007"

section

open Json

/-- On a chip in which no object repeats a member name, knock answers the parsed value
exactly what it answers the chip: the same admission, the same code, the same value. -/
theorem knock_normalize_of_noDuplicates (cfg : KnockConfig) {t : Json}
    (h : t.anyNode duplicateAt = false) :
  knock cfg t.normalize = knock cfg t
  := by
  cases t with
  | object fs =>
    have hroot : duplicateAt (.object fs) = false := by
      simp only [anyNode, Bool.or_eq_false_iff] at h
      exact h.1
    show knockChecks cfg (Json.object fs).normalize = knockChecks cfg (Json.object fs)
    simp only [knockChecks, anyNode_normalize (respects_nfcDuplicateAt cfg.nfc) _ h,
      depth_normalize _ h, anyNode_normalize (respects_arrayTooLongAt cfg.maxArrayLen) _ h,
      envelopeOk_normalize hroot, anyNode_normalize respects_floatAt _ h,
      anyNode_normalize respects_bigIntAt _ h,
      anyNode_normalize (respects_badNumAtomAt cfg.numAtomOk) _ h,
      anyNode_normalize respects_controlCharAt _ h, normalize_normalize]
  | _ => rfl

end

/-! ### The two transports -/

/-- A configuration for chips whose member names are ASCII, which normal form C leaves as
they are, with the least depth the spec allows and arrays of up to 1024 items. -/
def asciiKnockConfig : KnockConfig :=
  ⟨id, 16, 1024, fun _ => true, le_refl 16⟩

/-- The chip of the vector `valid_minimal`. -/
def minimalChip : Json :=
  .object [("@type", .string "ubl/user"), ("@world", .string "a/app/t/main"),
    ("email", .string "alice@example.com")]

/-- `{"@type":"ubl/user","@world":"a/app/t/main","x":1,"x":2}`, the chip of the vector
`duplicate_key_exact_raw`. -/
def duplicateKeyChip : Json :=
  .object [("@type", .string "ubl/user"), ("@world", .string "a/app/t/main"),
    ("x", .number (.posInt 1)), ("x", .number (.posInt 2))]

/-- Parse trees of two bodies: `[0]` is the text of the chip `t`, and every other body, as
`to_vec` writes a value, the value `serde_json` parses from `t`. -/
def chipParse (t : Json) (body : List UInt8) : Except String Json :=
  if body = [0] then .ok t else .ok t.normalize

/-- A host whose knock is the modelled knock on the parse tree of the body, for the chip `t`,
and whose `to_vec` writes every value as `[1]`. -/
def parseHost (t : Json) : Host :=
  { demoHost with
    knock := fun body => (chipParse t body).bind (knock asciiKnockConfig)
    toVec := fun _ => [1] }

/-- The demo gate state under an open write policy. -/
def openState : AppState :=
  { demoState with writeAccessPolicy := ⟨false, [], [], []⟩ }

section

variable (host : Host) (state : AppState) (answer : Submission → Response)
  (registry : Except String RegistryView) (limiter : McpTokenRateLimiter) (now : Nat)
  (timedOut : Bool)

/-- Over `POST /mcp/rpc`, a `ubl.deliver` request carrying a chip text with parse tree `t`
writes what the untrusted submission, with the request's headers, of `to_vec` of the chip of
the parsed request writes.  That chip is `t.normalize`: `serde_json` has parsed the request. -/
theorem mcpRpc_deliver_writes (headers : HeaderMap) (id t : Json) :
  (Request.mcpRpc headers (deliverRpc id t).normalize).writes host state answer registry limiter
      now timedOut =
    (submitChipBytes host state (some headers) false (host.toVec t.normalize)).writes
  := by
  cases timedOut <;> rfl

/-- On a host that knocks the parse tree of a body with the modelled knock, and whose `to_vec`
writes a text that parses back to the value, the two transports agree on every chip text `t`
in which no object repeats a member name: the body `ubl.deliver` submits over `POST /mcp/rpc`
gets from knock the answer the raw body of `POST /v1/chips` gets, the same admission and the
same value or code. -/
theorem mcpDeliver_knocks_as_createChip {cfg : KnockConfig}
    {parseTree : List UInt8 → Except String Json}
    (hknock : ∀ body, host.knock body = (parseTree body).bind (knock cfg)) {body : List UInt8}
    {t : Json} (hbody : parseTree body = .ok t)
    (hvec : parseTree (host.toVec t.normalize) = .ok t.normalize)
    (h : t.anyNode Json.duplicateAt = false) (headers : HeaderMap) (id : Json) :
  (Request.mcpRpc headers (deliverRpc id t).normalize).writes host state answer registry limiter
      now timedOut =
    (submitChipBytes host state (some headers) false (host.toVec t.normalize)).writes ∧
  host.knock (host.toVec t.normalize) = host.knock body
  := by
  refine ⟨mcpRpc_deliver_writes host state answer registry limiter now timedOut headers id t, ?_⟩
  rw [hknock, hknock, hvec, hbody]
  exact knock_normalize_of_noDuplicates cfg h

end

theorem mcpDeliver_knocks_as_createChip_minimal :
  (∀ body, (parseHost minimalChip).knock body =
    (chipParse minimalChip body).bind (knock asciiKnockConfig)) ∧
  chipParse minimalChip [0] = .ok minimalChip ∧
  chipParse minimalChip ((parseHost minimalChip).toVec minimalChip.normalize) =
    .ok minimalChip.normalize ∧
  minimalChip.anyNode Json.duplicateAt = false ∧
  ((Request.mcpRpc ⟨[]⟩ (deliverRpc (.number (.posInt 1)) minimalChip).normalize).writes
      (parseHost minimalChip) demoState (fun _ => ⟨200, [], .null⟩) (.error "") ⟨120, fun _ => []⟩
      0 false =
    (submitChipBytes (parseHost minimalChip) demoState (some ⟨[]⟩) false
      ((parseHost minimalChip).toVec minimalChip.normalize)).writes ∧
  (parseHost minimalChip).knock ((parseHost minimalChip).toVec minimalChip.normalize) =
    (parseHost minimalChip).knock [0])
  := ⟨fun _ => rfl, rfl, rfl, rfl, @mcpDeliver_knocks_as_createChip (parseHost minimalChip)
    demoState (fun _ => ⟨200, [], .null⟩) (.error "") ⟨120, fun _ => []⟩ 0 false asciiKnockConfig
    (chipParse minimalChip) (fun _ => rfl) [0] minimalChip rfl rfl rfl ⟨[]⟩ (.number (.posInt 1))⟩

/-- Whatever knock is configured with, the raw body of `duplicateKeyChip` fails `KNOCK-004`;
and whenever normal form C keeps its three names apart, knock admits its parsed value. -/
theorem knock_duplicateKeyChip (cfg : KnockConfig)
    (hnfc : [cfg.nfc "@type", cfg.nfc "@world", cfg.nfc "x"].Nodup) :
  knock cfg duplicateKeyChip = .error "KNOCK-004" ∧
  knock cfg duplicateKeyChip.normalize = .ok duplicateKeyChip.normalize
  := by
  have hdup : duplicateKeyChip.normalize.anyNode (Json.nfcDuplicateAt cfg.nfc) = false := by
    show (Json.object [("@type", .string "ubl/user"), ("@world", .string "a/app/t/main"),
      ("x", .number (.posInt 2))]).anyNode (Json.nfcDuplicateAt cfg.nfc) = false
    simpa [Json.anyNode, Json.anyMembers, Json.nfcDuplicateAt] using hnfc
  have hdepth : ¬ cfg.maxDepth < duplicateKeyChip.normalize.depth := by
    have := cfg.sixteen_le_maxDepth
    show ¬ cfg.maxDepth < 1
    omega
  refine ⟨by simp [knock, knockChecks, duplicateKeyChip, Json.anyNode, Json.nfcDuplicateAt], ?_⟩
  show knockChecks cfg duplicateKeyChip.normalize = _
  rw [knockChecks, if_neg (by simp [hdup]), if_neg hdepth]
  rfl

/-- An open write policy lets through, without credentials, every chip knock admits: with no
canon rate limiter, the untrusted submission hands it to the pipeline. -/
theorem submitChipBytes_open {host : Host} {state : AppState}
    (hopen : state.writeAccessPolicy.authRequired = false ∧ state.writeAccessPolicy.apiKeys = [])
    (hcanon : state.canonRateLimiter = none) {headers : HeaderMap}
    (hbearer : parseBearerToken headers = none) {bytes : List UInt8} {value : Json}
    (hk : host.knock bytes = .ok value) :
  ∃ ctx, submitChipBytes host state (some headers) false bytes = .pipeline (chipRequest value) ctx
  := by
  have hauth := (writeAuthorization_isOk_iff host state (some headers) (knockCidFromBytes host bytes)
    (actorHintFromHeaders host (some headers)) value).mpr
    (.inr ⟨by simp [hbearer], (WriteAccessPolicy.authorizeWrite_eq_ok _ _ _ _ _).mpr (.inl hopen)⟩)
  obtain ⟨request, ctx, hsub⟩ := (submitChipBytes_untrusted_eq_pipeline host state hk _).mpr
    ⟨hauth, by simp [canonRateLimit, hcanon]⟩
  obtain ⟨v, rfl, hv, -⟩ := submitChipBytes_eq_pipeline host state hsub
  rw [hk] at hv
  cases hv
  exact ⟨ctx, hsub⟩

/-- `POST /v1/chips` refuses the raw text of `duplicateKeyChip` with `KNOCK-004` and files its
deny receipt, while `ubl.deliver` over `POST /mcp/rpc`, with the same headers, hands the chip
to the pipeline with `x` equal to 2: the gate parses the request, which keeps only the last
of the repeated members, and knock never sees the repetition.  This holds on every host
whose knock is the modelled knock on the parse tree of the body and whose `to_vec` writes a
text that parses back to the value, under an open write policy without canon rate limiter. -/
theorem mcpDeliver_merges_duplicate_keys {cfg : KnockConfig}
    (hnfc : [cfg.nfc "@type", cfg.nfc "@world", cfg.nfc "x"].Nodup) {host : Host}
    {parseTree : List UInt8 → Except String Json}
    (hknock : ∀ body, host.knock body = (parseTree body).bind (knock cfg))
    (hvec : parseTree (host.toVec duplicateKeyChip.normalize) = .ok duplicateKeyChip.normalize)
    {state : AppState}
    (hopen : state.writeAccessPolicy.authRequired = false ∧ state.writeAccessPolicy.apiKeys = [])
    (hcanon : state.canonRateLimiter = none) {headers : HeaderMap}
    (hbearer : parseBearerToken headers = none) {body : List UInt8}
    (hbody : parseTree body = .ok duplicateKeyChip) (answer : Submission → Response)
    (registry : Except String RegistryView) (limiter : McpTokenRateLimiter) (now : Nat)
    (timedOut : Bool) (id : Json) :
  (∃ subjectDid, (Request.createChip headers body).writes host state answer registry limiter now
      timedOut = [.denyReceipt (knockCidFromBytes host body) "KNOCK-004" "KNOCK-004" subjectDid]) ∧
  ∃ ctx, (Request.mcpRpc headers (deliverRpc id duplicateKeyChip).normalize).writes host state
      answer registry limiter now timedOut = [.pipeline (chipRequest duplicateKeyChip.normalize) ctx]
  := by
  obtain ⟨hraw, hmerged⟩ := knock_duplicateKeyChip cfg hnfc
  have hpost : host.knock body = .error "KNOCK-004" := by rw [hknock, hbody]; exact hraw
  have hmcp : host.knock (host.toVec duplicateKeyChip.normalize) = .ok duplicateKeyChip.normalize :=
    by rw [hknock, hvec]; exact hmerged
  obtain ⟨ctx, hsub⟩ := submitChipBytes_open hopen hcanon hbearer hmcp
  refine ⟨⟨resolveSubjectDid host none (some (actorHintFromHeaders host (some headers))), ?_⟩,
    ctx, ?_⟩
  · show (submitChipBytes host state (some headers) false body).writes = _
    rw [submitChipBytes_of_knock_error host state hpost]
    rfl
  · rw [mcpRpc_deliver_writes, hsub]
    rfl

theorem mcpDeliver_merges_duplicate_keys_open :
  (∃ subjectDid, (Request.createChip ⟨[]⟩ [0]).writes (parseHost duplicateKeyChip) openState
      (fun _ => ⟨200, [], .null⟩) (.error "") ⟨120, fun _ => []⟩ 0 false =
    [.denyReceipt (knockCidFromBytes (parseHost duplicateKeyChip) [0]) "KNOCK-004" "KNOCK-004"
      subjectDid]) ∧
  ∃ ctx, (Request.mcpRpc ⟨[]⟩ (deliverRpc (.number (.posInt 1)) duplicateKeyChip).normalize).writes
      (parseHost duplicateKeyChip) openState (fun _ => ⟨200, [], .null⟩) (.error "")
      ⟨120, fun _ => []⟩ 0 false =
    [.pipeline (chipRequest duplicateKeyChip.normalize) ctx]
  := @mcpDeliver_merges_duplicate_keys asciiKnockConfig (by decide) (parseHost duplicateKeyChip)
    (chipParse duplicateKeyChip) (fun _ => rfl) rfl openState ⟨rfl, rfl⟩ rfl ⟨[]⟩ rfl [0] rfl
    _ _ _ _ _ _

end UblGate
