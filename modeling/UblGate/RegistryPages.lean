import UblGate.Registry
import UblGate.Snapshot

/-!
# The registry pages of the console

`GET /registry/_table` lists the types of the registry of the requested world, and
`GET /registry/*chip_type` shows one type with its versions and their KATs.  Both render an
`askama` template; here a page is the data its template receives.

The type page previews the input of each KAT as its JSON text, cut after 240 bytes with
`&s[..240]`.  A byte offset inside a character makes that slice panic, and the text is
`serde_json`'s, which writes characters outside ASCII as they are: the page panics exactly
when some KAT of the type has an input whose text is longer than 240 bytes and whose byte 240
falls inside a character (`registryTypePage_panics_iff`).
-/

namespace UblGate

namespace Registry

/-- The answer of a page whose registry could not be materialized. -/
def materializationFailed {T : Type} (e : String) : PageAnswer T :=
  .error 500 (errorBody "INTERNAL_ERROR" ("registry materialization failed: " ++ e))

/-! ### The table of types -/

/-- `RegistryRow`. -/
structure RegistryRow where
  chipType : String
  latestVersion : String
  deprecated : Bool
  hasKats : Bool
  requiredCap : String
  lastUpdatedAt : String

/-- `RegistryTableTemplate`. -/
structure RegistryTable where
  visibleRows : List RegistryRow
  hiddenRows : List RegistryRow

/-- The row of a type. -/
def registryRow (view : TypeView) : RegistryRow :=
  ⟨view.chipType, view.latestVersion.getD "-", view.deprecated, view.hasKats,
    view.requiredCap.getD "-", view.lastUpdatedAt.getD "-"⟩

/-- `registry_table_partial` with the query's `world`, on the chip store. -/
def registryTablePartial (chipsByType : String → Except String (List StoredChip))
    (parsers : MetaChipParsers) (world : Option String) : PageAnswer RegistryTable :=
  match materializeRegistry chipsByType parsers (Snapshot.worldFilter world) with
  | .error e => materializationFailed e
  | .ok types =>
    let rows := types.map fun x => registryRow x.2
    .page ⟨(Snapshot.splitRows rows 6).1, (Snapshot.splitRows rows 6).2⟩

/-! ### The page of a type -/

/-- `RegistryKatRow`. -/
structure KatRow where
  index : Nat
  label : String
  expectedDecision : String
  expectedError : String
  inputJsonPreview : String

/-- `RegistryTypeVersionRow`. -/
structure TypeVersionRow where
  version : String
  requiredCap : String
  katsCount : Nat
  registerCid : String
  updatedAt : String
  kats : List KatRow

/-- `RegistryTypeTemplate`. -/
structure TypePage where
  chipType : String
  latestVersion : String
  deprecated : Bool
  description : String
  docsUrl : Option String
  deprecationJson : String
  versions : List TypeVersionRow

/-- The preview of a KAT's input: its JSON text, cut after 240 bytes and marked with `...`;
the error is the panic of the cut. -/
def inputPreview (host : Host) (kat : Json) : Except String String :=
  match kat.get "input" with
  | none => .ok "-"
  | some input =>
    let s := host.toJsonString input
    if Str.len s > 240 then (Str.splitAt s 240).map fun parts => parts.1 ++ "..."
    else .ok s

/-- The row of the KAT at `index`. -/
def katRow (host : Host) (index : Nat) (kat : Json) : Except String KatRow :=
  (inputPreview host kat).map fun preview =>
    ⟨index, (kat.getStr "label").getD "kat", (kat.getStr "expected_decision").getD "-",
      (kat.getStr "expected_error").getD "-", preview⟩

/-- The row of a version. -/
def typeVersionRow (host : Host) (ver : VersionView) : Except String TypeVersionRow :=
  (ver.kats.enum.mapM fun x => katRow host x.1 x.2).map fun kats =>
    ⟨ver.version, ver.requiredCap.getD "-", ver.kats.length, ver.registerCid.getD "-",
      ver.updatedAt.getD "-", kats⟩

/-- `registry_type_page` on the registry of every world, with the type of the path; the error
is a panic. -/
def registryTypePage (host : Host) (registry : Except String (List (String × TypeView)))
    (chipType : String) : Except String (PageAnswer TypePage) :=
  let normalizedType := Str.trimStartMatches chipType '/'
  match registry with
  | .error e => .ok (materializationFailed e)
  | .ok types =>
    match types.lookup normalizedType with
    | none => .ok (.error 404 (errorBody "NOT_FOUND"
        ("Registry type '" ++ normalizedType ++ "' not found")))
    | some view =>
      (view.versions.mapM fun x => typeVersionRow host x.2).map fun versions =>
        .page ⟨view.chipType, view.latestVersion.getD "-", view.deprecated,
          view.description.getD "-", view.docsUrl, (view.deprecation.map host.toJsonString).getD "-",
          versions⟩

/-! ### When the type page panics -/

/-- A loop that collects its results panics when, and only when, one of its turns does. -/
theorem mapM_eq_error_iff {α β : Type} (f : α → Except String β) (l : List α) :
  (∃ e, l.mapM f = .error e) ↔ ∃ x ∈ l, ∃ e, f x = .error e
  := by
  induction l with
  | nil =>
    rw [List.mapM_nil]
    exact iff_of_false (fun ⟨_, h⟩ => by cases h) fun ⟨_, hx, _⟩ => by cases hx
  | cons x l ih =>
    rw [List.mapM_cons]
    cases hx : f x with
    | error e => exact iff_of_true ⟨e, rfl⟩ ⟨x, List.mem_cons_self _ _, e, hx⟩
    | ok y =>
      have hrest : (∃ e, (do let ys ← l.mapM f; pure (y :: ys) : Except String (List β)) = .error e) ↔
          ∃ e, l.mapM f = .error e := by
        cases l.mapM f <;> simp [bind, Except.bind, pure, Except.pure]
      simp only [bind, Except.bind] at hrest ⊢
      rw [hrest, ih]
      simp [hx]

theorem exists_mem_enum_iff {α : Type} {P : α → Prop} (l : List α) :
  (∃ x ∈ l.enum, P x.2) ↔ ∃ y ∈ l, P y
  := by
  constructor
  · rintro ⟨⟨i, y⟩, hx, hp⟩
    have hy := List.mem_map_of_mem Prod.snd hx
    rw [List.enum_map_snd] at hy
    exact ⟨y, hy, hp⟩
  · rintro ⟨y, hy, hp⟩
    rw [← List.enum_map_snd l] at hy
    obtain ⟨x, hx, rfl⟩ := List.mem_map.mp hy
    exact ⟨x, hx, hp⟩

theorem map_eq_error_iff {α β : Type} (f : α → β) (r : Except String α) :
  (∃ e, r.map f = .error e) ↔ ∃ e, r = .error e
  := by
  cases r <;> simp [Except.map]

/-- The preview of a KAT panics exactly when its input's text is longer than 240 bytes and byte
240 falls inside a character. -/
theorem inputPreview_panics_iff (host : Host) (kat : Json) :
  (∃ e, inputPreview host kat = .error e) ↔
    ∃ input, kat.get "input" = some input ∧ 240 < Str.len (host.toJsonString input) ∧
      Str.isCharBoundary (host.toJsonString input) 240 = false
  := by
  unfold inputPreview
  cases kat.get "input" with
  | none => simp
  | some input =>
    simp only [Option.some.injEq, exists_eq_left']
    by_cases hlen : Str.len (host.toJsonString input) > 240
    · rw [if_pos hlen, map_eq_error_iff, Str.splitAt, Str.isCharBoundary]
      cases Str.splitAtByte (host.toJsonString input).data 240 <;> simp [hlen]
    · rw [if_neg hlen]
      simp [hlen]

/-- `GET /registry/*chip_type` panics exactly when the registry holds the type and one of its
versions has a KAT whose input's JSON text is longer than 240 bytes with byte 240 inside a
character. -/
theorem registryTypePage_panics_iff (host : Host) (types : List (String × TypeView))
    (chipType : String) :
  (∃ e, registryTypePage host (.ok types) chipType = .error e) ↔
    ∃ view, types.lookup (Str.trimStartMatches chipType '/') = some view ∧
      ∃ ver ∈ view.versions, ∃ kat ∈ ver.2.kats, ∃ input, kat.get "input" = some input ∧
        240 < Str.len (host.toJsonString input) ∧
        Str.isCharBoundary (host.toJsonString input) 240 = false
  := by
  dsimp only [registryTypePage]
  split
  · next hnone => simp [hnone]
  · next view hview =>
    simp only [hview, Option.some.injEq, exists_eq_left', map_eq_error_iff, mapM_eq_error_iff,
      typeVersionRow, katRow]
    refine exists_congr fun ver => and_congr_right fun _ => ?_
    refine (exists_mem_enum_iff (P := fun kat => ∃ e, inputPreview host kat = .error e) _).trans ?_
    exact exists_congr fun kat => and_congr_right fun _ => inputPreview_panics_iff host kat

/-- The JSON text of a KAT input whose byte 240 falls inside an `é`. -/
def accentedText : String :=
  ⟨List.replicate 239 'a' ++ ['é']⟩

/-- A host whose JSON texts are all `accentedText`. -/
def accentedHost : Host :=
  { demoHost with toJsonString := fun _ => accentedText }

/-- A registry holding version `1.0` of `ubl/document`, with one KAT. -/
def accentedTypes : List (String × TypeView) :=
  [("ubl/document", { TypeView.empty "ubl/document" with
    versions := [("1.0", ⟨"1.0", none, [.object [("input", .string "é")]], none, none, none⟩)] })]

theorem utf8Len_replicate (n : Nat) (c : Char) :
  String.utf8Len (List.replicate n c) = n * c.utf8Size
  := by
  induction n with
  | zero => rw [List.replicate_zero, String.utf8Len_nil, Nat.zero_mul]
  | succ n ih => rw [List.replicate_succ, String.utf8Len_cons, ih, Nat.succ_mul]

theorem accentedText_len : Str.len accentedText = 241
  := by
  rw [Str.len, accentedText, String.utf8ByteSize_mk, String.utf8Len_append, utf8Len_replicate]
  decide

theorem accentedText_not_boundary : Str.isCharBoundary accentedText 240 = false
  := by
  have ha : Char.utf8Size 'a' = 1 := by decide
  have h := Str.splitAtByte_inside (List.replicate 239 'a') [] 'é' Nat.one_pos (by decide)
  simp only [utf8Len_replicate, ha, Nat.mul_one, Nat.reduceAdd] at h
  show (Str.splitAtByte (List.replicate 239 'a' ++ ['é']) 240).isSome = false
  rw [h]
  rfl

theorem registryTypePage_panics_iff_sample :
  ∃ e, registryTypePage accentedHost (.ok accentedTypes) "/ubl/document" = .error e
  := (registryTypePage_panics_iff accentedHost accentedTypes "/ubl/document").mpr
    ⟨_, rfl, _, List.mem_singleton_self _, _, List.mem_singleton_self _, _, rfl,
      accentedText_len ▸ by decide, accentedText_not_boundary⟩

end Registry

end UblGate
