import Mathlib.Data.List.Sort
import UblGate.EventHub
import UblGate.BTreeMap
import UblGate.Routes

/-!
# The materialized registry

Every registry route reads the registry `materialize_registry` builds from three kinds of
meta chips of the chip store: `ubl/meta.register`, `ubl/meta.describe` and
`ubl/meta.deprecate`.  The chips of each kind are visited in order of creation, the kinds one
after another; a chip outside the requested world, or one its parser rejects, is skipped, and
every other chip updates the entry of the type it targets, inserted empty the first time.
The registry and the versions of each type are `BTreeMap`s: here lists in strictly increasing
key order, updated by `upsert` and `modify`.

`materializeRegistry_eq_ok` says what the loops compute, type by type (`Describes`): the
entry of a type depends only on the chips that target it, its latest version and required
capability are those of its last register chip, its description, documentation and KATs
those of its last describe chip, and the last CID that of its last chip in the order of the
kinds, not of time.  From it: the latest version is that of a register chip created last
(`latestVersion_createdAt_max`); a type described with KATs but never registered has
`has_kats` set and no version to test (`katTest_of_described_only`); `GET /v1/registry/types`
lists each targeted type once, in name order (`registryTypes_types`); the detail of a type
lists exactly its registered versions, in order (`registryTypeDetail_versions`); a version is
found exactly when a register chip registers it, and then shows the registration created last
(`registryTypeVersion_answer`); and the trusted known-answer test only submits the input of a
KAT some meta chip of the type carries (`registryKatTest_submits_registered_kat`).
-/

namespace UblGate

/-! ### Meta chips -/

/-- What `materialize_registry` reads of a `ubl/meta.register` chip as
`meta_chip::parse_register` parses it: the type and version it registers, its description,
its KATs as `serde_json::to_value` answers for each, its schema as `to_value` answers for it,
and the schema's `required_cap`. -/
structure MetaRegister where
  targetType : String
  typeVersion : String
  description : String
  kats : List (Option Json)
  schema : Option Json
  requiredCap : Option String

/-- What `materialize_registry` reads of a `ubl/meta.describe` chip as
`meta_chip::parse_describe` parses it. -/
structure MetaDescribe where
  targetType : String
  description : String
  docsUrl : Option String
  kats : List (Option Json)

/-- What `materialize_registry` reads of a `ubl/meta.deprecate` chip as
`meta_chip::parse_deprecate` parses it, its fields as they serialize. -/
structure MetaDeprecate where
  targetType : String
  reason : Json
  replacementType : Json
  sunsetAt : Json

/-- The parsers of `ubl_runtime::meta_chip`, which are not in this repository's source. -/
structure MetaChipParsers where
  parseRegister : Json → Except String MetaRegister
  parseDescribe : Json → Except String MetaDescribe
  parseDeprecate : Json → Except String MetaDeprecate

namespace Registry

open BTreeMap

/-! ### The registry -/

/-- `RegistryVersionView`, as `materialize_registry` fills it. -/
structure VersionView where
  version : String
  schema : Option Json
  kats : List Json
  requiredCap : Option String
  registerCid : Option String
  updatedAt : Option String

/-- `RegistryTypeView`, as `materialize_registry` fills it; `versions` is a `BTreeMap` by
version. -/
structure TypeView where
  chipType : String
  latestVersion : Option String
  deprecated : Bool
  hasKats : Bool
  requiredCap : Option String
  description : Option String
  docsUrl : Option String
  deprecation : Option Json
  lastCid : Option String
  lastUpdatedAt : Option String
  versions : List (String × VersionView)

/-- The entry `type_entry` inserts for a type the registry does not hold yet. -/
def TypeView.empty (chipType : String) : TypeView :=
  ⟨chipType, none, false, false, none, none, none, none, none, none, []⟩

/-- `world_matches`: every chip when no world is requested, otherwise a chip whose `@world`
is the requested one. -/
def worldMatches (chip : StoredChip) (worldFilter : Option String) : Bool :=
  match worldFilter with
  | none => true
  | some expected => ((chip.chipData.getStr "@world").map (· == expected)).getD false

/-- `a.created_at.cmp(&b.created_at) != Greater`: creation times compared as texts. -/
def createdAtLe (a b : StoredChip) : Bool :=
  !Json.keyLt b.createdAt a.createdAt

/-- `chips.sort_by(|a, b| a.created_at.cmp(&b.created_at))`.  The sort of the standard
library is stable, and so is insertion sort; two stable sorts by one order agree. -/
def sortByCreatedAt (chips : List StoredChip) : List StoredChip :=
  chips.insertionSort fun a b => createdAtLe a b

/-- The version a register chip inserts. -/
def registeredVersion (chip : StoredChip) (parsed : MetaRegister) : VersionView :=
  ⟨parsed.typeVersion, parsed.schema, parsed.kats.filterMap id, parsed.requiredCap,
    some chip.cid, some chip.createdAt⟩

/-- A register chip's update of the entry of its type. -/
def applyRegister (chip : StoredChip) (parsed : MetaRegister) (entry : TypeView) : TypeView :=
  let version := registeredVersion chip parsed
  { entry with
    latestVersion := some parsed.typeVersion
    description := some parsed.description
    hasKats := entry.hasKats || !parsed.kats.isEmpty
    requiredCap := parsed.requiredCap
    lastCid := some chip.cid
    lastUpdatedAt := some chip.createdAt
    versions := upsert parsed.typeVersion version (fun _ => version) entry.versions }

/-- The KATs of a describe chip put on a version. -/
def describedVersion (chip : StoredChip) (parsed : MetaDescribe) (version : VersionView) :
    VersionView :=
  { version with kats := parsed.kats.filterMap id, updatedAt := some chip.createdAt }

/-- A describe chip's update of the entry of its type: its KATs go to the latest version. -/
def applyDescribe (chip : StoredChip) (parsed : MetaDescribe) (entry : TypeView) : TypeView :=
  let entry := { entry with
    description := some parsed.description
    docsUrl := parsed.docsUrl
    lastCid := some chip.cid
    lastUpdatedAt := some chip.createdAt }
  if parsed.kats.isEmpty then entry
  else
    let entry := { entry with hasKats := true }
    match entry.latestVersion with
    | some ver => { entry with versions := modify ver (describedVersion chip parsed) entry.versions }
    | none => entry

/-- The `deprecation` member a deprecate chip records. -/
def deprecationJson (chip : StoredChip) (parsed : MetaDeprecate) : Json :=
  .object [("reason", parsed.reason), ("replacement_type", parsed.replacementType),
    ("sunset_at", parsed.sunsetAt), ("cid", .string chip.cid)]

/-- A deprecate chip's update of the entry of its type. -/
def applyDeprecate (chip : StoredChip) (parsed : MetaDeprecate) (entry : TypeView) : TypeView :=
  { entry with
    deprecated := true
    deprecation := some (deprecationJson chip parsed)
    lastCid := some chip.cid
    lastUpdatedAt := some chip.createdAt }

section

variable {P : Type} (parse : Json → Except String P) (target : P → String)
  (apply : StoredChip → P → TypeView → TypeView) (worldFilter : Option String)

/-- One iteration of a loop of `materialize_registry`: a chip outside the requested world,
or one the parser rejects, is skipped; any other updates the entry of the type it
targets. -/
def visit (types : List (String × TypeView)) (chip : StoredChip) : List (String × TypeView) :=
  if !worldMatches chip worldFilter then types
  else
    match parse chip.chipData with
    | .error _ => types
    | .ok parsed => upsert (target parsed) (TypeView.empty (target parsed)) (apply chip parsed) types

/-- What a loop reads of a chip: its parsed body, when the chip is in the requested world
and its parser accepts it. -/
def readChip (chip : StoredChip) : Option P :=
  if worldMatches chip worldFilter then (parse chip.chipData).toOption else none

/-- The chips of a loop that update the entry of `t`, in the order the loop visits them,
each with what its parser read. -/
def hits (chips : List StoredChip) (t : String) : List (StoredChip × P) :=
  chips.filterMap fun chip =>
    (readChip parse worldFilter chip).bind fun parsed =>
      if target parsed = t then some (chip, parsed) else none

/-- What the chips `hs` that update the entry of `t` do to it, one after another. -/
def applyHits (t : String) (hs : List (StoredChip × P)) (e : Option TypeView) :
    Option TypeView :=
  hs.foldl (fun e h => some (apply h.1 h.2 (e.getD (TypeView.empty t)))) e

end

section

variable (chipsByType : String → Except String (List StoredChip)) (parsers : MetaChipParsers)
  (worldFilter : Option String)

/-- `materialize_registry`, on the chip store's answers to `get_chips_by_type`: the `types`
map of the `RegistryView` it returns. -/
def materializeRegistry : Except String (List (String × TypeView)) := do
  let registers ← chipsByType "ubl/meta.register"
  let types := (sortByCreatedAt registers).foldl
    (visit parsers.parseRegister (·.targetType) applyRegister worldFilter) []
  let describes ← chipsByType "ubl/meta.describe"
  let types := (sortByCreatedAt describes).foldl
    (visit parsers.parseDescribe (·.targetType) applyDescribe worldFilter) types
  let deprecates ← chipsByType "ubl/meta.deprecate"
  let types := (sortByCreatedAt deprecates).foldl
    (visit parsers.parseDeprecate (·.targetType) applyDeprecate worldFilter) types
  return types

end

/-! ### One loop -/

section

variable {P : Type} (parse : Json → Except String P) (target : P → String)
  (apply : StoredChip → P → TypeView → TypeView) (worldFilter : Option String)

theorem visit_eq (types : List (String × TypeView)) (chip : StoredChip) :
  visit parse target apply worldFilter types chip =
    match readChip parse worldFilter chip with
    | some parsed => upsert (target parsed) (TypeView.empty (target parsed)) (apply chip parsed) types
    | none => types
  := by
  unfold visit readChip
  cases worldMatches chip worldFilter
  · rfl
  · cases parse chip.chipData <;> rfl

theorem hits_cons (chip : StoredChip) (chips : List StoredChip) (t : String) :
  hits parse target worldFilter (chip :: chips) t =
    match readChip parse worldFilter chip with
    | some parsed =>
      if target parsed = t then (chip, parsed) :: hits parse target worldFilter chips t
      else hits parse target worldFilter chips t
    | none => hits parse target worldFilter chips t
  := by
  unfold hits
  rw [List.filterMap_cons]
  cases readChip parse worldFilter chip with
  | none => rfl
  | some parsed => by_cases h : target parsed = t <;> simp [h]

theorem mem_hits {chips : List StoredChip} {t : String} {c : StoredChip} {p : P} :
  (c, p) ∈ hits parse target worldFilter chips t ↔
    c ∈ chips ∧ readChip parse worldFilter c = some p ∧ target p = t
  := by
  unfold hits
  rw [List.mem_filterMap]
  constructor
  · rintro ⟨c', hc', h⟩
    cases hr : readChip parse worldFilter c' with
    | none => simp [hr] at h
    | some p' =>
      rw [hr, Option.some_bind] at h
      split at h
      · simp only [Option.some.injEq, Prod.mk.injEq] at h
        obtain ⟨rfl, rfl⟩ := h
        exact ⟨hc', hr, ‹_›⟩
      · cases h
  · rintro ⟨hc, hp, ht⟩
    exact ⟨c, hc, by rw [hp, Option.some_bind, if_pos ht]⟩

/-- The hits of the chips sorted by creation are the hits of the chips. -/
theorem mem_hits_sorted {chips : List StoredChip} {t : String} {c : StoredChip} {p : P} :
  (c, p) ∈ hits parse target worldFilter (sortByCreatedAt chips) t ↔
    c ∈ chips ∧ readChip parse worldFilter c = some p ∧ target p = t
  := by
  rw [mem_hits, sortByCreatedAt, List.mem_insertionSort]

/-- The chips that update `t` come in the order of the loop. -/
theorem map_fst_hits_sublist (chips : List StoredChip) (t : String) :
  List.Sublist ((hits parse target worldFilter chips t).map Prod.fst) chips
  := by
  induction chips with
  | nil => exact List.Sublist.slnil
  | cons chip chips ih =>
    rw [hits_cons]
    split
    · split
      · exact ih.cons₂ chip
      · exact ih.cons chip
    · exact ih.cons chip

theorem keysSorted_foldl_visit {types : List (String × TypeView)} (hm : KeysSorted types)
    (chips : List StoredChip) :
  KeysSorted (chips.foldl (visit parse target apply worldFilter) types)
  := by
  induction chips generalizing types with
  | nil => exact hm
  | cons chip chips ih =>
    refine ih ?_
    rw [visit_eq]
    split
    · exact keysSorted_upsert hm
    · exact hm

/-- A loop changes the entry of `t` by the chips that target `t` only, one after another in
the loop's order. -/
theorem lookup_foldl_visit {types : List (String × TypeView)} (hm : KeysSorted types)
    (chips : List StoredChip) (t : String) :
  (chips.foldl (visit parse target apply worldFilter) types).lookup t =
    applyHits apply t (hits parse target worldFilter chips t) (types.lookup t)
  := by
  induction chips generalizing types with
  | nil => rfl
  | cons chip chips ih =>
    have hm' : KeysSorted (visit parse target apply worldFilter types chip) :=
      keysSorted_foldl_visit parse target apply worldFilter hm [chip]
    rw [List.foldl_cons, ih hm', hits_cons, visit_eq]
    cases readChip parse worldFilter chip with
    | none => rfl
    | some parsed =>
      rw [lookup_upsert hm]
      by_cases h : target parsed = t
      · subst h
        simp [applyHits]
      · simp only [h, Ne.symm h, if_false]

end

section

variable {P : Type} (apply : StoredChip → P → TypeView → TypeView) (t : String)

theorem applyHits_some (hs : List (StoredChip × P)) (e : TypeView) :
  applyHits apply t hs (some e) = some (hs.foldl (fun e h => apply h.1 h.2 e) e)
  := by
  induction hs generalizing e with
  | nil => rfl
  | cons h hs ih => exact ih _

theorem applyHits_eq_none (hs : List (StoredChip × P)) (e : Option TypeView) :
  applyHits apply t hs e = none ↔ hs = [] ∧ e = none
  := by
  cases hs with
  | nil => simp [applyHits]
  | cons h hs =>
    show applyHits apply t hs (some _) = none ↔ _
    simp [applyHits_some]

theorem getD_applyHits (hs : List (StoredChip × P)) (e : Option TypeView) :
  (applyHits apply t hs e).getD (TypeView.empty t) =
    hs.foldl (fun e h => apply h.1 h.2 e) (e.getD (TypeView.empty t))
  := by
  cases hs with
  | nil => rfl
  | cons h hs =>
    show (applyHits apply t hs (some _)).getD _ = _
    rw [applyHits_some]
    rfl

end

/-! ### The three loops -/

section

variable (parsers : MetaChipParsers) (worldFilter : Option String)

/-- The register chips that update the entry of `t`, in the order of their loop. -/
def registerHits (registers : List StoredChip) (t : String) : List (StoredChip × MetaRegister) :=
  hits parsers.parseRegister (·.targetType) worldFilter (sortByCreatedAt registers) t

/-- The describe chips that update the entry of `t`, in the order of their loop. -/
def describeHits (describes : List StoredChip) (t : String) : List (StoredChip × MetaDescribe) :=
  hits parsers.parseDescribe (·.targetType) worldFilter (sortByCreatedAt describes) t

/-- The deprecate chips that update the entry of `t`, in the order of their loop. -/
def deprecateHits (deprecates : List StoredChip) (t : String) :
    List (StoredChip × MetaDeprecate) :=
  hits parsers.parseDeprecate (·.targetType) worldFilter (sortByCreatedAt deprecates) t

variable (chipsByType : String → Except String (List StoredChip))

/-- When the three queries answer, the registry holds, for each type, what the chips that
target it make of an absent entry: the register chips, then the describe chips, then the
deprecate chips. -/
theorem materializeRegistry_lookup {registers describes deprecates : List StoredChip}
    (hr : chipsByType "ubl/meta.register" = .ok registers)
    (hd : chipsByType "ubl/meta.describe" = .ok describes)
    (hp : chipsByType "ubl/meta.deprecate" = .ok deprecates) :
  ∃ types, materializeRegistry chipsByType parsers worldFilter = .ok types ∧ KeysSorted types ∧
    ∀ t, types.lookup t =
      applyHits applyDeprecate t (deprecateHits parsers worldFilter deprecates t)
        (applyHits applyDescribe t (describeHits parsers worldFilter describes t)
          (applyHits applyRegister t (registerHits parsers worldFilter registers t) none))
  := by
  have h₁ := keysSorted_foldl_visit parsers.parseRegister (·.targetType) applyRegister worldFilter
    (List.Pairwise.nil) (sortByCreatedAt registers)
  have h₂ := keysSorted_foldl_visit parsers.parseDescribe (·.targetType) applyDescribe
    worldFilter h₁ (sortByCreatedAt describes)
  have h₃ := keysSorted_foldl_visit parsers.parseDeprecate (·.targetType) applyDeprecate
    worldFilter h₂ (sortByCreatedAt deprecates)
  refine ⟨_, by rw [materializeRegistry, hr, hd, hp]; rfl, h₃, fun t => ?_⟩
  rw [lookup_foldl_visit _ _ _ _ h₂, lookup_foldl_visit _ _ _ _ h₁,
    lookup_foldl_visit _ _ _ _ List.Pairwise.nil]
  rfl

end

/-! ### Updates one after another -/

section

variable {E X β : Type} (upd : E → X → E)

/-- A field every update overwrites holds what the last update wrote. -/
theorem foldl_overwrite (proj : E → β) (g : X → β) (h : ∀ e x, proj (upd e x) = g x)
    (l : List X) (e₀ : E) :
  proj (l.foldl upd e₀) = (l.getLast?.map g).getD (proj e₀)
  := by
  induction l using List.reverseRecOn with
  | nil => rfl
  | append_singleton l x _ => simp [h]

/-- A field no update touches keeps its value. -/
theorem foldl_keep (proj : E → β) (h : ∀ e x, proj (upd e x) = proj e) (l : List X) (e₀ : E) :
  proj (l.foldl upd e₀) = proj e₀
  := by
  induction l using List.reverseRecOn with
  | nil => rfl
  | append_singleton l x ih => simp [h, ih]

/-- A flag updates can only set is set when one of them sets it. -/
theorem foldl_or (proj : E → Bool) (g : X → Bool) (h : ∀ e x, proj (upd e x) = (proj e || g x))
    (l : List X) (e₀ : E) :
  proj (l.foldl upd e₀) = (proj e₀ || l.any g)
  := by
  induction l using List.reverseRecOn with
  | nil => simp
  | append_singleton l x ih => simp [h, ih, Bool.or_assoc]

end

theorem getD_map_some {α β : Type} (o : Option α) (f : α → β) (x : Option β) :
  (o.map fun a => some (f a)).getD x = (o.map f <|> x)
  := by
  cases o <;> rfl

/-! ### What the registry holds for a type -/

/-- `applyDescribe` as one record update. -/
theorem applyDescribe_eq (chip : StoredChip) (parsed : MetaDescribe) (entry : TypeView) :
  applyDescribe chip parsed entry =
    { entry with
      description := some parsed.description
      docsUrl := parsed.docsUrl
      lastCid := some chip.cid
      lastUpdatedAt := some chip.createdAt
      hasKats := entry.hasKats || !parsed.kats.isEmpty
      versions :=
        if parsed.kats.isEmpty then entry.versions
        else
          match entry.latestVersion with
          | some ver => modify ver (describedVersion chip parsed) entry.versions
          | none => entry.versions }
  := by
  unfold applyDescribe
  cases h : parsed.kats.isEmpty
  · cases entry.latestVersion <;> simp
  · simp

/-- The KATs the describe chips `ds` put on the latest version: those of the last one that
carries KATs. -/
def withDescribedKats (ds : List (StoredChip × MetaDescribe)) (version : VersionView) :
    VersionView :=
  match (ds.filter fun d => !d.2.kats.isEmpty).getLast? with
  | some d => describedVersion d.1 d.2 version
  | none => version

theorem describedVersion_withDescribedKats (d : StoredChip × MetaDescribe)
    (ds : List (StoredChip × MetaDescribe)) (version : VersionView) :
  describedVersion d.1 d.2 (withDescribedKats ds version) = describedVersion d.1 d.2 version
  := by
  unfold withDescribedKats
  split <;> rfl

theorem withDescribedKats_nil : withDescribedKats [] = id
  := rfl

theorem withDescribedKats_concat (ds : List (StoredChip × MetaDescribe))
    (d : StoredChip × MetaDescribe) (version : VersionView) :
  withDescribedKats (ds ++ [d]) version =
    if d.2.kats.isEmpty then withDescribedKats ds version else describedVersion d.1 d.2 version
  := by
  cases hk : d.2.kats.isEmpty <;> simp [withDescribedKats, hk]

theorem withDescribedKats_concat_of_isEmpty {ds : List (StoredChip × MetaDescribe)}
    {d : StoredChip × MetaDescribe} (hk : d.2.kats.isEmpty = true) :
  withDescribedKats (ds ++ [d]) = withDescribedKats ds
  := funext fun version => by rw [withDescribedKats_concat, if_pos hk]

/-- The entry that the chips updating `t` make of the empty one: the register chips, then the
describe chips, then the deprecate chips. -/
def entryOf (t : String) (regs : List (StoredChip × MetaRegister))
    (descs : List (StoredChip × MetaDescribe)) (deps : List (StoredChip × MetaDeprecate)) :
    TypeView :=
  deps.foldl (fun e h => applyDeprecate h.1 h.2 e)
    (descs.foldl (fun e h => applyDescribe h.1 h.2 e)
      (regs.foldl (fun e h => applyRegister h.1 h.2 e) (TypeView.empty t)))

/-- The versions the register chips `rs` leave, from the entry `e₀`: each version is that of
the last chip that registers it. -/
theorem foldRegister_versions (rs : List (StoredChip × MetaRegister)) {e₀ : TypeView}
    (h₀ : KeysSorted e₀.versions) :
  KeysSorted (rs.foldl (fun e h => applyRegister h.1 h.2 e) e₀).versions ∧
    ∀ v, (rs.foldl (fun e h => applyRegister h.1 h.2 e) e₀).versions.lookup v =
      (((rs.filter (·.2.typeVersion == v)).getLast?.map fun r => registeredVersion r.1 r.2) <|>
        e₀.versions.lookup v)
  := by
  induction rs using List.reverseRecOn with
  | nil => exact ⟨h₀, fun v => rfl⟩
  | append_singleton rs r ih =>
    rw [List.foldl_append, List.foldl_cons, List.foldl_nil]
    refine ⟨keysSorted_upsert ih.1, fun v => ?_⟩
    show (upsert _ _ _ _).lookup v = _
    rw [lookup_upsert ih.1, List.filter_append]
    by_cases hv : r.2.typeVersion = v
    · simp [hv, registeredVersion]
    · simp [hv, Ne.symm hv, ih.2 v]

/-- The versions the describe chips `ds` leave, from the entry `e₀`: the last one that
carries KATs puts them on the latest version. -/
theorem foldDescribe_versions (ds : List (StoredChip × MetaDescribe)) {e₀ : TypeView}
    (h₀ : KeysSorted e₀.versions) :
  KeysSorted (ds.foldl (fun e h => applyDescribe h.1 h.2 e) e₀).versions ∧
    ∀ v, (ds.foldl (fun e h => applyDescribe h.1 h.2 e) e₀).versions.lookup v =
      if e₀.latestVersion = some v then (e₀.versions.lookup v).map (withDescribedKats ds)
      else e₀.versions.lookup v
  := by
  induction ds using List.reverseRecOn with
  | nil =>
    refine ⟨h₀, fun v => ?_⟩
    split <;> simp [withDescribedKats_nil]
  | append_singleton ds d ih =>
    have hlatest : (ds.foldl (fun e h => applyDescribe h.1 h.2 e) e₀).latestVersion =
        e₀.latestVersion :=
      foldl_keep _ TypeView.latestVersion (fun _ _ => by simp only [applyDescribe_eq]) ds e₀
    rw [List.foldl_append, List.foldl_cons, List.foldl_nil, applyDescribe_eq]
    dsimp only
    rw [hlatest]
    cases hk : d.2.kats.isEmpty
    · cases hL : e₀.latestVersion with
      | none => simpa [hL] using ih
      | some ver =>
        refine ⟨keysSorted_modify ih.1, fun v => ?_⟩
        simp only [if_false, Bool.false_eq_true]
        rw [lookup_modify, ih.2 v, hL]
        by_cases hv : v = ver
        · subst hv
          simp only [if_true, Option.map_map]
          congr 1
          funext version
          simp only [Function.comp_apply, withDescribedKats_concat, hk, Bool.false_eq_true,
            if_false]
          exact describedVersion_withDescribedKats d ds version
        · simp [hv, Ne.symm hv]
    · refine ⟨ih.1, fun v => ?_⟩
      rw [if_pos rfl, ih.2 v, withDescribedKats_concat_of_isEmpty hk]

/-- What the registry holds for a type `t` that some meta chip updates, given the register,
describe and deprecate chips that update it, each list in the order of its loop. -/
structure Describes (t : String) (regs : List (StoredChip × MetaRegister))
    (descs : List (StoredChip × MetaDescribe)) (deps : List (StoredChip × MetaDeprecate))
    (e : TypeView) : Prop where
  chipType : e.chipType = t
  /-- The version of the last register chip. -/
  latestVersion : e.latestVersion = regs.getLast?.map (·.2.typeVersion)
  /-- The required capability of the last register chip. -/
  requiredCap : e.requiredCap = regs.getLast?.bind (·.2.requiredCap)
  /-- The description of the last describe chip, otherwise that of the last register chip. -/
  description : e.description =
    (descs.getLast?.map (·.2.description) <|> regs.getLast?.map (·.2.description))
  /-- The documentation link of the last describe chip. -/
  docsUrl : e.docsUrl = descs.getLast?.bind (·.2.docsUrl)
  /-- Whether a register or describe chip carries KATs. -/
  hasKats : e.hasKats = (regs.any (!·.2.kats.isEmpty) || descs.any (!·.2.kats.isEmpty))
  /-- Whether a deprecate chip targets the type. -/
  deprecated : e.deprecated = !deps.isEmpty
  /-- What the last deprecate chip records. -/
  deprecation : e.deprecation = deps.getLast?.map fun d => deprecationJson d.1 d.2
  /-- The CID of the last deprecate chip, otherwise of the last describe chip, otherwise of
  the last register chip: the order of the loops, not of creation. -/
  lastCid : e.lastCid =
    (deps.getLast?.map (·.1.cid) <|> (descs.getLast?.map (·.1.cid) <|> regs.getLast?.map (·.1.cid)))
  /-- The creation time of the same chip. -/
  lastUpdatedAt : e.lastUpdatedAt =
    (deps.getLast?.map (·.1.createdAt) <|>
      (descs.getLast?.map (·.1.createdAt) <|> regs.getLast?.map (·.1.createdAt)))
  versionsSorted : KeysSorted e.versions
  /-- Each version is that of the last register chip that registers it; the latest one
  carries the KATs of the last describe chip that has some. -/
  versions : ∀ v, e.versions.lookup v =
    ((regs.filter (·.2.typeVersion == v)).getLast?.map fun r => registeredVersion r.1 r.2).map
      fun version =>
        if regs.getLast?.map (·.2.typeVersion) = some v then withDescribedKats descs version
        else version

/-- The loops of `materialize_registry` build the entry `Describes` says. -/
theorem describes_entryOf (t : String) (regs : List (StoredChip × MetaRegister))
    (descs : List (StoredChip × MetaDescribe)) (deps : List (StoredChip × MetaDeprecate)) :
  Describes t regs descs deps (entryOf t regs descs deps)
  := by
  -- the three stages of the entry
  let reg := regs.foldl (fun e h => applyRegister h.1 h.2 e) (TypeView.empty t)
  let desc := descs.foldl (fun e h => applyDescribe h.1 h.2 e) reg
  have hentry : entryOf t regs descs deps = deps.foldl (fun e h => applyDeprecate h.1 h.2 e) desc :=
    rfl
  -- each field of each stage, by `foldl_overwrite`, `foldl_keep` and `foldl_or`
  have rO {β : Type} (proj : TypeView → β) (g : StoredChip × MetaRegister → β)
      (h : ∀ e x, proj (applyRegister x.1 x.2 e) = g x) :
      proj reg = (regs.getLast?.map g).getD (proj (TypeView.empty t)) :=
    foldl_overwrite _ proj g h regs _
  have rK {β : Type} (proj : TypeView → β)
      (h : ∀ e (x : StoredChip × MetaRegister), proj (applyRegister x.1 x.2 e) = proj e) :
      proj reg = proj (TypeView.empty t) := foldl_keep _ proj h regs _
  have rOr (proj : TypeView → Bool) (g : StoredChip × MetaRegister → Bool)
      (h : ∀ e x, proj (applyRegister x.1 x.2 e) = (proj e || g x)) :
      proj reg = (proj (TypeView.empty t) || regs.any g) := foldl_or _ proj g h regs _
  have dO {β : Type} (proj : TypeView → β) (g : StoredChip × MetaDescribe → β)
      (h : ∀ e x, proj (applyDescribe x.1 x.2 e) = g x) :
      proj desc = (descs.getLast?.map g).getD (proj reg) :=
    foldl_overwrite _ proj g h descs reg
  have dK {β : Type} (proj : TypeView → β) (h : ∀ e x, proj (applyDescribe x.1 x.2 e) = proj e) :
      proj desc = proj reg := foldl_keep _ proj h descs reg
  have dOr (proj : TypeView → Bool) (g : StoredChip × MetaDescribe → Bool)
      (h : ∀ e x, proj (applyDescribe x.1 x.2 e) = (proj e || g x)) :
      proj desc = (proj reg || descs.any g) := foldl_or _ proj g h descs reg
  have pO {β : Type} (proj : TypeView → β) (g : StoredChip × MetaDeprecate → β)
      (h : ∀ e x, proj (applyDeprecate x.1 x.2 e) = g x) :
      proj (entryOf t regs descs deps) = (deps.getLast?.map g).getD (proj desc) :=
    hentry ▸ foldl_overwrite _ proj g h deps desc
  have pK {β : Type} (proj : TypeView → β)
      (h : ∀ e (x : StoredChip × MetaDeprecate), proj (applyDeprecate x.1 x.2 e) = proj e) :
      proj (entryOf t regs descs deps) = proj desc := hentry ▸ foldl_keep _ proj h deps desc
  have hreg := @foldRegister_versions regs (TypeView.empty t) List.Pairwise.nil
  have hdesc := foldDescribe_versions descs hreg.1
  have hlatest : reg.latestVersion = regs.getLast?.map (·.2.typeVersion) := by
    rw [rO TypeView.latestVersion (fun x => some x.2.typeVersion) (fun _ _ => rfl)]
    cases regs.getLast? <;> rfl
  refine
    { chipType := ?_, latestVersion := ?_, requiredCap := ?_, description := ?_, docsUrl := ?_,
      hasKats := ?_, deprecated := ?_, deprecation := ?_, lastCid := ?_, lastUpdatedAt := ?_,
      versionsSorted := ?_, versions := ?_ }
  · rw [pK TypeView.chipType (fun _ _ => rfl),
      dK TypeView.chipType (fun _ _ => by simp only [applyDescribe_eq])]
    exact rK TypeView.chipType (fun _ _ => rfl)
  · rw [pK TypeView.latestVersion (fun _ _ => rfl),
      dK TypeView.latestVersion (fun _ _ => by simp only [applyDescribe_eq]), hlatest]
  · rw [pK TypeView.requiredCap (fun _ _ => rfl),
      dK TypeView.requiredCap (fun _ _ => by simp only [applyDescribe_eq]),
      rO TypeView.requiredCap (fun x => x.2.requiredCap) (fun _ _ => rfl)]
    cases regs.getLast? <;> rfl
  · rw [pK TypeView.description (fun _ _ => rfl),
      dO TypeView.description (fun x => some x.2.description)
        (fun _ _ => by simp only [applyDescribe_eq]),
      rO TypeView.description (fun x => some x.2.description) (fun _ _ => rfl),
      getD_map_some, getD_map_some]
    cases regs.getLast? <;> rfl
  · rw [pK TypeView.docsUrl (fun _ _ => rfl),
      dO TypeView.docsUrl (fun x => x.2.docsUrl) (fun _ _ => by simp only [applyDescribe_eq]),
      rK TypeView.docsUrl (fun _ _ => rfl)]
    cases descs.getLast? <;> rfl
  · rw [pK TypeView.hasKats (fun _ _ => rfl),
      dOr TypeView.hasKats (fun x => !x.2.kats.isEmpty) (fun _ _ => by simp only [applyDescribe_eq]),
      rOr TypeView.hasKats (fun x => !x.2.kats.isEmpty) (fun _ _ => rfl)]
    rfl
  · rw [pO TypeView.deprecated (fun _ => true) (fun _ _ => rfl),
      dK TypeView.deprecated (fun _ _ => by simp only [applyDescribe_eq]),
      rK TypeView.deprecated (fun _ _ => rfl)]
    cases deps with
    | nil => rfl
    | cons d ds => simp [List.getLast?_cons]
  · rw [pO TypeView.deprecation (fun x => some (deprecationJson x.1 x.2)) (fun _ _ => rfl),
      dK TypeView.deprecation (fun _ _ => by simp only [applyDescribe_eq]),
      rK TypeView.deprecation (fun _ _ => rfl), getD_map_some]
    cases deps.getLast? <;> rfl
  · rw [pO TypeView.lastCid (fun x => some x.1.cid) (fun _ _ => rfl),
      dO TypeView.lastCid (fun x => some x.1.cid) (fun _ _ => by simp only [applyDescribe_eq]),
      rO TypeView.lastCid (fun x => some x.1.cid) (fun _ _ => rfl),
      getD_map_some, getD_map_some, getD_map_some]
    cases regs.getLast? <;> rfl
  · rw [pO TypeView.lastUpdatedAt (fun x => some x.1.createdAt) (fun _ _ => rfl),
      dO TypeView.lastUpdatedAt (fun x => some x.1.createdAt)
        (fun _ _ => by simp only [applyDescribe_eq]),
      rO TypeView.lastUpdatedAt (fun x => some x.1.createdAt) (fun _ _ => rfl),
      getD_map_some, getD_map_some, getD_map_some]
    cases regs.getLast? <;> rfl
  · rw [pK TypeView.versions (fun _ _ => rfl)]
    exact hdesc.1
  · intro v
    rw [pK TypeView.versions (fun _ _ => rfl), hdesc.2 v, hreg.2 v, hlatest]
    by_cases h : regs.getLast?.map (·.2.typeVersion) = some v <;>
      cases (regs.filter (·.2.typeVersion == v)).getLast? <;> simp [h, TypeView.empty]

/-- A KAT of a version comes from a register chip that registers the version, or from a
describe chip. -/
theorem Describes.kat_source {t : String} {regs : List (StoredChip × MetaRegister)}
    {descs : List (StoredChip × MetaDescribe)} {deps : List (StoredChip × MetaDeprecate)}
    {e : TypeView} (hd : Describes t regs descs deps e) {v : String} {version : VersionView}
    {kat : Json} (hv : e.versions.lookup v = some version) (hk : kat ∈ version.kats) :
  (∃ r ∈ regs, r.2.typeVersion = v ∧ some kat ∈ r.2.kats) ∨ ∃ d ∈ descs, some kat ∈ d.2.kats
  := by
  rw [hd.versions v] at hv
  obtain ⟨version₀, hv₀, rfl⟩ := Option.map_eq_some'.mp hv
  obtain ⟨r, hr, rfl⟩ := Option.map_eq_some'.mp hv₀
  obtain ⟨hrregs, hrv⟩ := List.mem_filter.mp (List.mem_of_getLast?_eq_some hr)
  have hregistered (hk : kat ∈ (registeredVersion r.1 r.2).kats) :
      (∃ r ∈ regs, r.2.typeVersion = v ∧ some kat ∈ r.2.kats) ∨
        ∃ d ∈ descs, some kat ∈ d.2.kats :=
    .inl ⟨r, hrregs, by simpa using hrv, by simpa [registeredVersion, List.mem_filterMap] using hk⟩
  split at hk
  · unfold withDescribedKats at hk
    split at hk
    · rename_i d hlast
      exact .inr ⟨d, (List.mem_filter.mp (List.mem_of_getLast?_eq_some hlast)).1,
        by simpa [describedVersion, List.mem_filterMap] using hk⟩
    · exact hregistered hk
  · exact hregistered hk

/-! ### The registry of the chip store -/

section

variable (parsers : MetaChipParsers) (worldFilter : Option String)
  (chipsByType : String → Except String (List StoredChip))

/-- The registry holds a type exactly when some meta chip of the requested world targets it. -/
theorem lookup_eq_none_iff_of_eq_ok {registers describes deprecates : List StoredChip}
    (hr : chipsByType "ubl/meta.register" = .ok registers)
    (hd : chipsByType "ubl/meta.describe" = .ok describes)
    (hp : chipsByType "ubl/meta.deprecate" = .ok deprecates) {types : List (String × TypeView)}
    (hok : materializeRegistry chipsByType parsers worldFilter = .ok types) (t : String) :
  types.lookup t = none ↔ registerHits parsers worldFilter registers t = [] ∧
    describeHits parsers worldFilter describes t = [] ∧
    deprecateHits parsers worldFilter deprecates t = []
  := by
  obtain ⟨types', hok', -, hlookup⟩ :=
    materializeRegistry_lookup parsers worldFilter chipsByType hr hd hp
  cases hok.symm.trans hok'
  rw [hlookup, applyHits_eq_none, applyHits_eq_none, applyHits_eq_none]
  simp only [and_true]
  exact ⟨fun ⟨hp, hd, hr⟩ => ⟨hr, hd, hp⟩, fun ⟨hr, hd, hp⟩ => ⟨hp, hd, hr⟩⟩

/-- The entry of a type the registry holds, as `Describes` says. -/
theorem describes_of_lookup {registers describes deprecates : List StoredChip}
    (hr : chipsByType "ubl/meta.register" = .ok registers)
    (hd : chipsByType "ubl/meta.describe" = .ok describes)
    (hp : chipsByType "ubl/meta.deprecate" = .ok deprecates) {types : List (String × TypeView)}
    (hok : materializeRegistry chipsByType parsers worldFilter = .ok types) {t : String}
    {e : TypeView} (he : types.lookup t = some e) :
  Describes t (registerHits parsers worldFilter registers t)
    (describeHits parsers worldFilter describes t) (deprecateHits parsers worldFilter deprecates t) e
  := by
  obtain ⟨types', hok', -, hlookup⟩ :=
    materializeRegistry_lookup parsers worldFilter chipsByType hr hd hp
  cases hok.symm.trans hok'
  have hentry := congrArg (·.getD (TypeView.empty t)) (hlookup t)
  simp only [he, Option.getD_some, getD_applyHits] at hentry
  exact hentry ▸ describes_entryOf t _ _ _

/-- What `materialize_registry` builds when the chip store answers its three queries: a map in
key order that holds exactly the types some meta chip of the requested world updates, each
entry as `Describes` says of the chips that target it. -/
theorem materializeRegistry_eq_ok {registers describes deprecates : List StoredChip}
    (hr : chipsByType "ubl/meta.register" = .ok registers)
    (hd : chipsByType "ubl/meta.describe" = .ok describes)
    (hp : chipsByType "ubl/meta.deprecate" = .ok deprecates) :
  ∃ types, materializeRegistry chipsByType parsers worldFilter = .ok types ∧ KeysSorted types ∧
    ∀ t, (types.lookup t = none ↔ registerHits parsers worldFilter registers t = [] ∧
        describeHits parsers worldFilter describes t = [] ∧
        deprecateHits parsers worldFilter deprecates t = []) ∧
      ∀ e, types.lookup t = some e →
        Describes t (registerHits parsers worldFilter registers t)
          (describeHits parsers worldFilter describes t)
          (deprecateHits parsers worldFilter deprecates t) e
  := by
  obtain ⟨types, hok, hsorted, -⟩ :=
    materializeRegistry_lookup parsers worldFilter chipsByType hr hd hp
  exact ⟨types, hok, hsorted, fun t =>
    ⟨lookup_eq_none_iff_of_eq_ok parsers worldFilter chipsByType hr hd hp hok t,
      fun _ he => describes_of_lookup parsers worldFilter chipsByType hr hd hp hok he⟩⟩

/-- A KAT whose input is `demoChip`. -/
def sampleKat : Json :=
  .object [("label", .string "document"), ("input", demoChip)]

/-- The register chip of the sample store: it registers `ubl/document`. -/
def sampleRegisterChip : StoredChip :=
  ⟨"b3:register", "ubl/meta.register", .object [("target_type", .string "ubl/document")],
    "b3:receipt-register", "2026-01-02T00:00:00Z", demoMetadata⟩

/-- The describe chip of the sample store: it describes `ubl/orphan`, which nothing
registers. -/
def sampleDescribeChip : StoredChip :=
  ⟨"b3:describe", "ubl/meta.describe", .object [("target_type", .string "ubl/orphan")],
    "b3:receipt-describe", "2026-01-01T00:00:00Z", demoMetadata⟩

/-- A chip store holding `sampleRegisterChip` and `sampleDescribeChip`. -/
def sampleChipsByType (chipType : String) : Except String (List StoredChip) :=
  if chipType = "ubl/meta.register" then .ok [sampleRegisterChip]
  else if chipType = "ubl/meta.describe" then .ok [sampleDescribeChip]
  else .ok []

/-- Parsers reading the target type from `target_type`: a register chip registers version
`1.0` with `sampleKat`, a describe chip gives `sampleKat`, a deprecate chip is rejected. -/
def sampleParsers : MetaChipParsers where
  parseRegister body :=
    match body.getStr "target_type" with
    | some t => .ok ⟨t, "1.0", "A document", [some sampleKat], none, none⟩
    | none => .error "missing target_type"
  parseDescribe body :=
    match body.getStr "target_type" with
    | some t => .ok ⟨t, "Described only", none, [some sampleKat]⟩
    | none => .error "missing target_type"
  parseDeprecate _ := .error "unsupported"

theorem materializeRegistry_eq_ok_sample :
  sampleChipsByType "ubl/meta.register" = .ok [sampleRegisterChip] ∧
    sampleChipsByType "ubl/meta.describe" = .ok [sampleDescribeChip] ∧
    sampleChipsByType "ubl/meta.deprecate" = .ok [] ∧
    ∃ types, materializeRegistry sampleChipsByType sampleParsers none = .ok types ∧
      KeysSorted types ∧
      ∀ t, (types.lookup t = none ↔ registerHits sampleParsers none [sampleRegisterChip] t = [] ∧
          describeHits sampleParsers none [sampleDescribeChip] t = [] ∧
          deprecateHits sampleParsers none [] t = []) ∧
        ∀ e, types.lookup t = some e →
          Describes t (registerHits sampleParsers none [sampleRegisterChip] t)
            (describeHits sampleParsers none [sampleDescribeChip] t)
            (deprecateHits sampleParsers none [] t) e
  := ⟨rfl, rfl, rfl, materializeRegistry_eq_ok sampleParsers none sampleChipsByType rfl rfl rfl⟩
end

/-! ### Order of creation -/

theorem createdAtLe_iff {a b : StoredChip} : createdAtLe a b = true ↔ a.createdAt ≤ b.createdAt
  := by
  rw [createdAtLe, Bool.not_eq_true', ← not_lt, ← Json.keyLt_iff_lt, Bool.not_eq_true]

/-- `sortByCreatedAt` sorts by creation time. -/
theorem sorted_sortByCreatedAt (chips : List StoredChip) :
  (sortByCreatedAt chips).Pairwise fun a b => a.createdAt ≤ b.createdAt
  := by
  haveI : IsTotal StoredChip fun a b => createdAtLe a b = true :=
    ⟨fun a b => by simp only [createdAtLe_iff]; exact le_total _ _⟩
  haveI : IsTrans StoredChip fun a b => createdAtLe a b = true :=
    ⟨fun a b c hab hbc => createdAtLe_iff.mpr (le_trans (createdAtLe_iff.mp hab)
      (createdAtLe_iff.mp hbc))⟩
  exact List.Pairwise.imp createdAtLe_iff.mp (List.sorted_insertionSort _ chips)

/-- The chips that update a type come in order of creation. -/
theorem hits_sortByCreatedAt_sorted {P : Type} (parse : Json → Except String P)
    (target : P → String) (worldFilter : Option String) (chips : List StoredChip) (t : String) :
  (hits parse target worldFilter (sortByCreatedAt chips) t).Pairwise
    fun a b => a.1.createdAt ≤ b.1.createdAt
  := by
  have h := (sorted_sortByCreatedAt chips).sublist
    (map_fst_hits_sublist parse target worldFilter (sortByCreatedAt chips) t)
  rw [List.pairwise_map] at h
  exact h

/-- The last element of a list in order comes after each of its elements. -/
theorem rel_of_getLast? {α : Type} {R : α → α → Prop} (hrefl : ∀ a, R a a) {l : List α}
    (hl : l.Pairwise R) {a b : α} (hb : l.getLast? = some b) (ha : a ∈ l) :
  R a b
  := by
  obtain ⟨ys, rfl⟩ := List.getLast?_eq_some_iff.mp hb
  rcases List.mem_append.mp ha with ha | ha
  · exact (List.pairwise_append.mp hl).2.2 a ha b (List.mem_singleton_self b)
  · exact List.mem_singleton.mp ha ▸ hrefl b

section

variable (parsers : MetaChipParsers) (worldFilter : Option String)
  (chipsByType : String → Except String (List StoredChip))

/-- `materialize_registry` succeeds only when the chip store answers its three queries. -/
theorem queries_of_materializeRegistry_eq_ok {types : List (String × TypeView)}
    (hok : materializeRegistry chipsByType parsers worldFilter = .ok types) :
  ∃ registers describes deprecates, chipsByType "ubl/meta.register" = .ok registers ∧
    chipsByType "ubl/meta.describe" = .ok describes ∧
    chipsByType "ubl/meta.deprecate" = .ok deprecates
  := by
  obtain ⟨registers, hr, h⟩ := bind_eq_ok.mp hok
  obtain ⟨describes, hd, h⟩ := bind_eq_ok.mp h
  obtain ⟨deprecates, hp, -⟩ := bind_eq_ok.mp h
  exact ⟨registers, describes, deprecates, hr, hd, hp⟩

/-- The latest version of a type is the version of a register chip of the type that was
created no earlier than any other register chip of the type. -/
theorem latestVersion_createdAt_max {types : List (String × TypeView)}
    (hok : materializeRegistry chipsByType parsers worldFilter = .ok types) {t : String}
    {e : TypeView} (he : types.lookup t = some e) {v : String} (hv : e.latestVersion = some v) :
  ∃ registers, chipsByType "ubl/meta.register" = .ok registers ∧
    ∃ chip ∈ registers, ∃ parsed, readChip parsers.parseRegister worldFilter chip = some parsed ∧
      parsed.targetType = t ∧ parsed.typeVersion = v ∧
      ∀ chip' ∈ registers, ∀ parsed',
        readChip parsers.parseRegister worldFilter chip' = some parsed' →
          parsed'.targetType = t → chip'.createdAt ≤ chip.createdAt
  := by
  obtain ⟨registers, describes, deprecates, hr, hd, hp⟩ :=
    queries_of_materializeRegistry_eq_ok parsers worldFilter chipsByType hok
  have hdesc := describes_of_lookup parsers worldFilter chipsByType hr hd hp hok he
  rw [hdesc.latestVersion] at hv
  obtain ⟨⟨chip, parsed⟩, hlast, rfl⟩ := Option.map_eq_some'.mp hv
  obtain ⟨hchip, hread, htarget⟩ := (mem_hits_sorted _ _ _).mp (List.mem_of_getLast?_eq_some hlast)
  refine ⟨registers, hr, chip, hchip, parsed, hread, htarget, rfl,
    fun chip' hchip' parsed' hread' htarget' => ?_⟩
  have hmem : (chip', parsed') ∈ registerHits parsers worldFilter registers t :=
    (mem_hits_sorted _ _ _).mpr ⟨hchip', hread', htarget'⟩
  exact @rel_of_getLast? _ (fun a b : StoredChip × MetaRegister => a.1.createdAt ≤ b.1.createdAt)
    (fun _ => le_refl _) _ (hits_sortByCreatedAt_sorted _ _ _ _ t) _ _ hlast hmem

theorem latestVersion_createdAt_max_sample :
  ∃ types e, materializeRegistry sampleChipsByType sampleParsers none = .ok types ∧
    types.lookup "ubl/document" = some e ∧ e.latestVersion = some "1.0" ∧
    ∃ registers, sampleChipsByType "ubl/meta.register" = .ok registers ∧
      ∃ chip ∈ registers, ∃ parsed, readChip sampleParsers.parseRegister none chip = some parsed ∧
        parsed.targetType = "ubl/document" ∧ parsed.typeVersion = "1.0" ∧
        ∀ chip' ∈ registers, ∀ parsed',
          readChip sampleParsers.parseRegister none chip' = some parsed' →
            parsed'.targetType = "ubl/document" → chip'.createdAt ≤ chip.createdAt
  := ⟨_, _, rfl, rfl, rfl, @latestVersion_createdAt_max sampleParsers none sampleChipsByType _ rfl
    "ubl/document" _ rfl "1.0" rfl⟩

end

/-! ### Known-answer tests on the materialized registry -/

/-- A version as `registry_kat_test` reads it: its KATs. -/
def katVersionView (version : VersionView) : RegistryVersionView :=
  ⟨version.kats⟩

/-- A type as `registry_kat_test` reads it: the KATs of each version. -/
def katTypeView (view : TypeView) : RegistryTypeView :=
  ⟨view.versions.map fun y => (y.1, katVersionView y.2)⟩

/-- The registry as `registry_kat_test` reads it: the KATs of each version of each type. -/
def katView (types : List (String × TypeView)) : RegistryView :=
  ⟨types.map fun x => (x.1, katTypeView x.2)⟩

section

variable (host : Host) (state : AppState) (answer : Submission → Response)

/-- What a write of `registry_kat_test` on a registry submits: the `input` of the KAT the form
names. -/
theorem mem_registryKatTest_ok_writes {registry : RegistryView} {form : RegistryKatTestForm}
    {w : Write} (hw : w ∈ (registryKatTest host state answer (.ok registry) form).2) :
  ∃ typeView versionView kat input, registry.types.lookup form.chipType = some typeView ∧
    typeView.versions.lookup form.version = some versionView ∧
    versionView.kats.get? form.katIndex = some kat ∧ kat.get "input" = some input ∧
    w ∈ (submitChipBytes host state none true (host.toVec input)).writes
  := by
  simp only [registryKatTest] at hw
  split at hw
  · exact absurd hw (List.not_mem_nil _)
  · rename_i typeView htype
    split at hw
    · exact absurd hw (List.not_mem_nil _)
    · rename_i versionView hversion
      split at hw
      · exact absurd hw (List.not_mem_nil _)
      · rename_i kat hkat
        split at hw
        · exact absurd hw (List.not_mem_nil _)
        · rename_i input hinput
          exact ⟨typeView, versionView, kat, input, htype, hversion, hkat, hinput, hw⟩

variable (parsers : MetaChipParsers) (chipsByType : String → Except String (List StoredChip))

/-- The trusted known-answer test of the registry submits only the `input` of a KAT that a
register chip of the requested type and version, or a describe chip of the requested type,
carries. -/
theorem registryKatTest_submits_registered_kat {form : RegistryKatTestForm} {w : Write}
    (hw : w ∈ (registryKatTest host state answer
      ((materializeRegistry chipsByType parsers none).map katView) form).2) :
  ∃ kat input, kat.get "input" = some input ∧
    w ∈ (submitChipBytes host state none true (host.toVec input)).writes ∧
    ((∃ registers, chipsByType "ubl/meta.register" = .ok registers ∧
        ∃ chip ∈ registers, ∃ p, readChip parsers.parseRegister none chip = some p ∧
          p.targetType = form.chipType ∧ p.typeVersion = form.version ∧ some kat ∈ p.kats) ∨
      ∃ describes, chipsByType "ubl/meta.describe" = .ok describes ∧
        ∃ chip ∈ describes, ∃ p, readChip parsers.parseDescribe none chip = some p ∧
          p.targetType = form.chipType ∧ some kat ∈ p.kats)
  := by
  cases hok : materializeRegistry chipsByType parsers none with
  | error e =>
    rw [hok] at hw
    exact absurd hw (List.not_mem_nil _)
  | ok types =>
    rw [hok] at hw
    obtain ⟨typeView, versionView, kat, input, htype, hversion, hkat, hinput, hw⟩ :=
      mem_registryKatTest_ok_writes host state answer hw
    obtain ⟨registers, describes, deprecates, hr, hd, hp⟩ :=
      queries_of_materializeRegistry_eq_ok parsers none chipsByType hok
    rw [katView, lookup_map_snd] at htype
    obtain ⟨e, he, rfl⟩ := Option.map_eq_some'.mp htype
    rw [katTypeView, lookup_map_snd] at hversion
    obtain ⟨version, hv, rfl⟩ := Option.map_eq_some'.mp hversion
    refine ⟨kat, input, hinput, hw, ?_⟩
    rcases (describes_of_lookup parsers none chipsByType hr hd hp hok he).kat_source hv
      (List.get?_mem hkat) with ⟨⟨chip, p⟩, hmem, hv', hk⟩ | ⟨⟨chip, p⟩, hmem, hk⟩
    · obtain ⟨hchip, hread, ht⟩ := (mem_hits_sorted _ _ _).mp hmem
      exact .inl ⟨registers, hr, chip, hchip, p, hread, ht, hv', hk⟩
    · obtain ⟨hchip, hread, ht⟩ := (mem_hits_sorted _ _ _).mp hmem
      exact .inr ⟨describes, hd, chip, hchip, p, hread, ht, hk⟩

theorem registryKatTest_submits_registered_kat_sample :
  ∃ w, w ∈ (registryKatTest demoHost demoState (fun _ => ⟨200, [], .null⟩)
      ((materializeRegistry sampleChipsByType sampleParsers none).map katView)
      ⟨"ubl/document", "1.0", 0⟩).2 ∧
    ∃ kat input, kat.get "input" = some input ∧
      w ∈ (submitChipBytes demoHost demoState none true (demoHost.toVec input)).writes ∧
      ((∃ registers, sampleChipsByType "ubl/meta.register" = .ok registers ∧
          ∃ chip ∈ registers, ∃ p, readChip sampleParsers.parseRegister none chip = some p ∧
            p.targetType = "ubl/document" ∧ p.typeVersion = "1.0" ∧ some kat ∈ p.kats) ∨
        ∃ describes, sampleChipsByType "ubl/meta.describe" = .ok describes ∧
          ∃ chip ∈ describes, ∃ p, readChip sampleParsers.parseDescribe none chip = some p ∧
            p.targetType = "ubl/document" ∧ some kat ∈ p.kats)
  := by
  obtain ⟨w, hw⟩ : ∃ w, w ∈ (registryKatTest demoHost demoState (fun _ => ⟨200, [], .null⟩)
      ((materializeRegistry sampleChipsByType sampleParsers none).map katView)
      ⟨"ubl/document", "1.0", 0⟩).2 :=
    ⟨_, List.mem_cons_self _ _⟩
  exact ⟨w, hw, registryKatTest_submits_registered_kat demoHost demoState _ sampleParsers
    sampleChipsByType hw⟩

/-- A type that describe chips give KATs but no register chip registers is listed with
`has_kats` set and no version: each of its known-answer tests is answered 404 and submits
nothing. -/
theorem katTest_of_described_only {registers describes deprecates : List StoredChip}
    (hr : chipsByType "ubl/meta.register" = .ok registers)
    (hd : chipsByType "ubl/meta.describe" = .ok describes)
    (hp : chipsByType "ubl/meta.deprecate" = .ok deprecates) {t : String}
    (hunregistered : ∀ chip ∈ registers, ∀ p,
      readChip parsers.parseRegister none chip = some p → p.targetType ≠ t)
    (hdescribed : ∃ chip ∈ describes, ∃ p, readChip parsers.parseDescribe none chip = some p ∧
      p.targetType = t ∧ p.kats ≠ []) :
  ∃ types e, materializeRegistry chipsByType parsers none = .ok types ∧
    types.lookup t = some e ∧ e.hasKats = true ∧ e.versions = [] ∧
    ∀ form : RegistryKatTestForm, form.chipType = t →
      registryKatTest host state answer ((materializeRegistry chipsByType parsers none).map katView)
        form = (.error 404 (errorBody "NOT_FOUND" ("Registry version '" ++ form.version ++
          "' not found for type '" ++ t ++ "'")), [])
  := by
  obtain ⟨types, hok, -, -⟩ := materializeRegistry_lookup parsers none chipsByType hr hd hp
  have hregs : registerHits parsers none registers t = [] :=
    List.eq_nil_iff_forall_not_mem.mpr fun ⟨c, p⟩ hmem => by
      obtain ⟨hc, hread, ht⟩ := (mem_hits_sorted _ _ _).mp hmem
      exact hunregistered c (hc) p hread ht
  obtain ⟨chip, hchip, p, hread, ht, hkats⟩ := hdescribed
  have hdmem : (chip, p) ∈ describeHits parsers none describes t :=
    (mem_hits_sorted _ _ _).mpr ⟨hchip, hread, ht⟩
  obtain ⟨e, he⟩ : ∃ e, types.lookup t = some e := Option.ne_none_iff_exists'.mp fun hnone => by
    rw [((lookup_eq_none_iff_of_eq_ok parsers none chipsByType hr hd hp hok t).mp hnone).2.1] at hdmem
    exact List.not_mem_nil _ hdmem
  have hdesc := describes_of_lookup parsers none chipsByType hr hd hp hok he
  have hversions : e.versions = [] :=
    eq_nil_of_lookup_eq_none fun v => by rw [hdesc.versions v, hregs]; rfl
  refine ⟨types, e, hok, he, ?_, hversions, fun form hform => ?_⟩
  · rw [hdesc.hasKats, hregs, List.any_nil, Bool.false_or, List.any_eq_true]
    exact ⟨(chip, p), hdmem, by simpa using hkats⟩
  · have hview : (katView types).types.lookup t = some ⟨[]⟩ := by
      rw [katView, lookup_map_snd, he, Option.map_some', katTypeView, hversions]
      rfl
    rw [hok]
    simp only [registryKatTest, Except.map, hform, hview, List.lookup_nil]

theorem katTest_of_described_only_sample :
  sampleChipsByType "ubl/meta.register" = .ok [sampleRegisterChip] ∧
    sampleChipsByType "ubl/meta.describe" = .ok [sampleDescribeChip] ∧
    sampleChipsByType "ubl/meta.deprecate" = .ok [] ∧
    (∀ chip ∈ [sampleRegisterChip], ∀ p,
      readChip sampleParsers.parseRegister none chip = some p → p.targetType ≠ "ubl/orphan") ∧
    (∃ chip ∈ [sampleDescribeChip], ∃ p, readChip sampleParsers.parseDescribe none chip = some p ∧
      p.targetType = "ubl/orphan" ∧ p.kats ≠ []) ∧
    ∃ types e, materializeRegistry sampleChipsByType sampleParsers none = .ok types ∧
      types.lookup "ubl/orphan" = some e ∧ e.hasKats = true ∧ e.versions = [] ∧
      ∀ form : RegistryKatTestForm, form.chipType = "ubl/orphan" →
        registryKatTest demoHost demoState (fun _ => ⟨200, [], .null⟩)
          ((materializeRegistry sampleChipsByType sampleParsers none).map katView) form =
          (.error 404 (errorBody "NOT_FOUND" ("Registry version '" ++ form.version ++
            "' not found for type '" ++ "ubl/orphan" ++ "'")), [])
  := by
  have hunregistered : ∀ chip ∈ [sampleRegisterChip], ∀ p,
      readChip sampleParsers.parseRegister none chip = some p → p.targetType ≠ "ubl/orphan" := by
    intro chip hchip p hp
    rw [List.mem_singleton] at hchip
    subst hchip
    have hread : readChip sampleParsers.parseRegister none sampleRegisterChip =
        some ⟨"ubl/document", "1.0", "A document", [some sampleKat], none, none⟩ := rfl
    rw [hread, Option.some.injEq] at hp
    subst hp
    decide
  have hdescribed : ∃ chip ∈ [sampleDescribeChip], ∃ p,
      readChip sampleParsers.parseDescribe none chip = some p ∧ p.targetType = "ubl/orphan" ∧
        p.kats ≠ [] :=
    ⟨_, List.mem_singleton_self _, _, rfl, rfl, List.cons_ne_nil _ _⟩
  exact ⟨rfl, rfl, rfl, hunregistered, hdescribed, katTest_of_described_only demoHost demoState _
    sampleParsers sampleChipsByType rfl rfl rfl hunregistered hdescribed⟩

end

/-! ### The list of types -/

/-- A row of `registry_types`. -/
def typeRow (view : TypeView) : Json :=
  .object [("type", .string view.chipType), ("latest_version", Json.ofOptStr view.latestVersion),
    ("deprecated", .bool view.deprecated), ("has_kats", .bool view.hasKats),
    ("required_cap", Json.ofOptStr view.requiredCap), ("last_cid", Json.ofOptStr view.lastCid),
    ("last_updated_at", Json.ofOptStr view.lastUpdatedAt),
    ("versions_count", .number (.posInt view.versions.length))]

/-- `registry_types`, on the registry of the world its query names: the status and the
body. -/
def registryTypes (registry : Except String (List (String × TypeView))) : Nat × Json :=
  match registry with
  | .error e => (500, errorBody "INTERNAL_ERROR" ("registry materialization failed: " ++ e))
  | .ok types =>
    let rows := types.map fun x => typeRow x.2
    (200, .object [("@type", .string "ubl/registry.types"),
      ("count", .number (.posInt rows.length)), ("types", .array rows)])

section

variable (parsers : MetaChipParsers) (worldFilter : Option String)
  (chipsByType : String → Except String (List StoredChip))

/-- `GET /v1/registry/types` lists one row per type that a meta chip of the requested world
targets, each type once and in increasing order of name, and counts them. -/
theorem registryTypes_types {registers describes deprecates : List StoredChip}
    (hr : chipsByType "ubl/meta.register" = .ok registers)
    (hd : chipsByType "ubl/meta.describe" = .ok describes)
    (hp : chipsByType "ubl/meta.deprecate" = .ok deprecates) :
  ∃ types : List (String × TypeView),
    registryTypes (materializeRegistry chipsByType parsers worldFilter) =
      (200, .object [("@type", .string "ubl/registry.types"),
        ("count", .number (.posInt types.length)), ("types", .array (types.map fun x => typeRow x.2))]) ∧
    (types.map fun x => x.2.chipType).Pairwise (· < ·) ∧
    ∀ t, t ∈ types.map (fun x => x.2.chipType) ↔
      (registerHits parsers worldFilter registers t ≠ [] ∨
        describeHits parsers worldFilter describes t ≠ [] ∨
        deprecateHits parsers worldFilter deprecates t ≠ [])
  := by
  obtain ⟨types, hok, hsorted, -⟩ :=
    materializeRegistry_lookup parsers worldFilter chipsByType hr hd hp
  have hchip : types.map (fun x => x.2.chipType) = types.map Prod.fst :=
    List.map_congr_left fun x hx =>
      (describes_of_lookup parsers worldFilter chipsByType hr hd hp hok
        (lookup_of_mem_of_keysSorted hsorted hx)).chipType
  refine ⟨types, by simp only [hok, registryTypes, List.length_map], ?_, fun t => ?_⟩
  · rw [hchip]
    exact List.pairwise_map.mpr hsorted
  · rw [hchip, mem_keys_iff_lookup, Ne,
      lookup_eq_none_iff_of_eq_ok parsers worldFilter chipsByType hr hd hp hok t]
    simp only [not_and_or]

theorem registryTypes_types_sample :
  sampleChipsByType "ubl/meta.register" = .ok [sampleRegisterChip] ∧
    sampleChipsByType "ubl/meta.describe" = .ok [sampleDescribeChip] ∧
    sampleChipsByType "ubl/meta.deprecate" = .ok [] ∧
    ∃ types : List (String × TypeView),
      registryTypes (materializeRegistry sampleChipsByType sampleParsers none) =
        (200, .object [("@type", .string "ubl/registry.types"),
          ("count", .number (.posInt types.length)),
          ("types", .array (types.map fun x => typeRow x.2))]) ∧
      (types.map fun x => x.2.chipType).Pairwise (· < ·) ∧
      ∀ t, t ∈ types.map (fun x => x.2.chipType) ↔
        (registerHits sampleParsers none [sampleRegisterChip] t ≠ [] ∨
          describeHits sampleParsers none [sampleDescribeChip] t ≠ [] ∨
          deprecateHits sampleParsers none [] t ≠ [])
  := ⟨rfl, rfl, rfl, registryTypes_types sampleParsers none sampleChipsByType rfl rfl rfl⟩

end

/-! ### One type and one version -/

/-- A version as `registry_type_detail` lists it. -/
def versionRow (ver : VersionView) : Json :=
  .object [("version", .string ver.version), ("schema", ver.schema.getD .null),
    ("kats", .array ver.kats), ("required_cap", Json.ofOptStr ver.requiredCap),
    ("register_cid", Json.ofOptStr ver.registerCid), ("updated_at", Json.ofOptStr ver.updatedAt)]

/-- The answer of a registry route whose type the registry does not hold. -/
def typeNotFound (chipType : String) : Nat × Json :=
  (404, errorBody "NOT_FOUND" ("Registry type '" ++ chipType ++ "' not found"))

@[simp]
theorem typeNotFound_fst (chipType : String) : (typeNotFound chipType).1 = 404
  := rfl

/-- The answer of `registry_type_version` when the type holds no such version. -/
def versionNotFound (chipType ver : String) : Nat × Json :=
  (404, errorBody "NOT_FOUND" ("Registry version '" ++ ver ++ "' not found for type '" ++ chipType ++ "'"))

@[simp]
theorem versionNotFound_fst (chipType ver : String) : (versionNotFound chipType ver).1 = 404
  := rfl

/-- The two answers "not found" differ. -/
theorem versionNotFound_ne_typeNotFound (t v : String) : versionNotFound t v ≠ typeNotFound t
  := by
  intro h
  simp only [versionNotFound, typeNotFound, errorBody, Prod.mk.injEq, Json.object.injEq,
    List.cons.injEq, Json.string.injEq, true_and, and_true] at h
  have h' := congrArg (fun s : String => s.data.take 10) h
  simp only [String.data_append, List.append_assoc] at h'
  rw [List.take_append_of_le_length (by decide), List.take_append_of_le_length (by decide)] at h'
  exact absurd h' (by decide)

/-- `registry_type_detail`, on the registry of every world: the status and the body. -/
def registryTypeDetail (registry : Except String (List (String × TypeView))) (chipType : String) :
    Nat × Json :=
  match registry with
  | .error e => (500, errorBody "INTERNAL_ERROR" ("registry materialization failed: " ++ e))
  | .ok types =>
    match types.lookup chipType with
    | none => typeNotFound chipType
    | some view =>
      (200, .object [("@type", .string "ubl/registry.type"), ("type", .string view.chipType),
        ("latest_version", Json.ofOptStr view.latestVersion), ("deprecated", .bool view.deprecated),
        ("description", Json.ofOptStr view.description), ("docs_url", Json.ofOptStr view.docsUrl),
        ("deprecation", view.deprecation.getD .null), ("has_kats", .bool view.hasKats),
        ("required_cap", Json.ofOptStr view.requiredCap), ("last_cid", Json.ofOptStr view.lastCid),
        ("last_updated_at", Json.ofOptStr view.lastUpdatedAt),
        ("versions", .array (view.versions.map fun x => versionRow x.2))])

/-- `registry_type_version`, on the registry of every world: the status and the body. -/
def registryTypeVersion (registry : Except String (List (String × TypeView)))
    (chipType ver : String) : Nat × Json :=
  match registry with
  | .error e => (500, errorBody "INTERNAL_ERROR" ("registry materialization failed: " ++ e))
  | .ok types =>
    match types.lookup chipType with
    | none => typeNotFound chipType
    | some view =>
      match view.versions.lookup ver with
      | none => versionNotFound chipType ver
      | some version =>
        (200, .object [("@type", .string "ubl/registry.version"), ("type", .string chipType),
          ("version", .string version.version), ("schema", version.schema.getD .null),
          ("kats", .array version.kats), ("required_cap", Json.ofOptStr version.requiredCap),
          ("register_cid", Json.ofOptStr version.registerCid),
          ("updated_at", Json.ofOptStr version.updatedAt), ("deprecated", .bool view.deprecated),
          ("deprecation", view.deprecation.getD .null)])

/-- The KATs of describe chips change neither the name nor the registration of a version. -/
theorem withDescribedKats_version (ds : List (StoredChip × MetaDescribe)) (ver : VersionView) :
  (withDescribedKats ds ver).version = ver.version ∧
    (withDescribedKats ds ver).registerCid = ver.registerCid
  := by
  unfold withDescribedKats
  split <;> exact ⟨rfl, rfl⟩

/-- A type holds no version `v` when no register chip of it registers `v`. -/
theorem Describes.lookup_versions_eq_none_iff {t : String} {regs : List (StoredChip × MetaRegister)}
    {descs : List (StoredChip × MetaDescribe)} {deps : List (StoredChip × MetaDeprecate)}
    {e : TypeView} (hd : Describes t regs descs deps e) (v : String) :
  e.versions.lookup v = none ↔ ∀ r ∈ regs, r.2.typeVersion ≠ v
  := by
  rw [hd.versions v, Option.map_eq_none', Option.map_eq_none', List.getLast?_eq_none_iff,
    List.filter_eq_nil_iff]
  simp

/-- A version a type holds is that of the register chip of the version that comes last in
`regs`, under its own name and with that chip's CID. -/
theorem Describes.lookup_versions_eq_some {t : String} {regs : List (StoredChip × MetaRegister)}
    {descs : List (StoredChip × MetaDescribe)} {deps : List (StoredChip × MetaDeprecate)}
    {e : TypeView} (hd : Describes t regs descs deps e) {v : String} {ver : VersionView}
    (hv : e.versions.lookup v = some ver) :
  ∃ r, (regs.filter (·.2.typeVersion == v)).getLast? = some r ∧ ver.version = v ∧
    ver.registerCid = some r.1.cid
  := by
  rw [hd.versions v] at hv
  obtain ⟨ver₀, hlast, rfl⟩ := Option.map_eq_some'.mp hv
  obtain ⟨r, hr, rfl⟩ := Option.map_eq_some'.mp hlast
  have hv' : r.2.typeVersion = v := by
    simpa using (List.mem_filter.mp (List.mem_of_getLast?_eq_some hr)).2
  refine ⟨r, hr, ?_⟩
  split
  · rw [(withDescribedKats_version _ _).1, (withDescribedKats_version _ _).2]
    exact ⟨hv', rfl⟩
  · exact ⟨hv', rfl⟩

/-- Each version of a type is held under its own name. -/
theorem Describes.map_version_versions {t : String} {regs : List (StoredChip × MetaRegister)}
    {descs : List (StoredChip × MetaDescribe)} {deps : List (StoredChip × MetaDeprecate)}
    {e : TypeView} (hd : Describes t regs descs deps e) :
  e.versions.map (fun x => x.2.version) = e.versions.map Prod.fst
  := List.map_congr_left fun _ hx =>
    (hd.lookup_versions_eq_some (lookup_of_mem_of_keysSorted hd.versionsSorted hx)).choose_spec.2.1

/-- A type holds the versions its register chips register. -/
theorem Describes.mem_versions_iff {t : String} {regs : List (StoredChip × MetaRegister)}
    {descs : List (StoredChip × MetaDescribe)} {deps : List (StoredChip × MetaDeprecate)}
    {e : TypeView} (hd : Describes t regs descs deps e) (v : String) :
  v ∈ e.versions.map Prod.fst ↔ ∃ r ∈ regs, r.2.typeVersion = v
  := by
  rw [mem_keys_iff_lookup, Ne, hd.lookup_versions_eq_none_iff]
  push_neg
  rfl

section

variable (parsers : MetaChipParsers) (chipsByType : String → Except String (List StoredChip))

/-- `GET /v1/registry/types/:chip_type/:version` answers 200 exactly when some register chip
registers that version of the type, and then names the registration of the one created last;
it answers "type not found" exactly when no meta chip targets the type. -/
theorem registryTypeVersion_answer {registers describes deprecates : List StoredChip}
    (hr : chipsByType "ubl/meta.register" = .ok registers)
    (hd : chipsByType "ubl/meta.describe" = .ok describes)
    (hp : chipsByType "ubl/meta.deprecate" = .ok deprecates) (t v : String) :
  ((registryTypeVersion (materializeRegistry chipsByType parsers none) t v).1 = 200 ↔
      ∃ chip ∈ registers, ∃ parsed, readChip parsers.parseRegister none chip = some parsed ∧
        parsed.targetType = t ∧ parsed.typeVersion = v ∧
        (registryTypeVersion (materializeRegistry chipsByType parsers none) t v).2.get
          "register_cid" = some (.string chip.cid) ∧
        ∀ chip' ∈ registers, ∀ parsed',
          readChip parsers.parseRegister none chip' = some parsed' → parsed'.targetType = t →
            parsed'.typeVersion = v → chip'.createdAt ≤ chip.createdAt) ∧
    (registryTypeVersion (materializeRegistry chipsByType parsers none) t v = typeNotFound t ↔
      registerHits parsers none registers t = [] ∧ describeHits parsers none describes t = [] ∧
        deprecateHits parsers none deprecates t = [])
  := by
  obtain ⟨types, hok, -, -⟩ := materializeRegistry_lookup parsers none chipsByType hr hd hp
  have hnone := lookup_eq_none_iff_of_eq_ok parsers none chipsByType hr hd hp hok t
  -- a register chip of `(t, v)` is a hit of the register loop
  have hhit : ∀ chip parsed, chip ∈ registers →
      readChip parsers.parseRegister none chip = some parsed → parsed.targetType = t →
      (chip, parsed) ∈ registerHits parsers none registers t :=
    fun chip parsed hchip hread ht =>
      (mem_hits_sorted _ _ _).mpr ⟨hchip, hread, ht⟩
  rw [hok]
  cases he : types.lookup t with
  | none =>
    have hans : registryTypeVersion (.ok types) t v = typeNotFound t := by
      simp only [registryTypeVersion, he]
    rw [hans]
    refine ⟨⟨fun h => absurd h (by simp), ?_⟩, iff_of_true rfl (hnone.mp he)⟩
    rintro ⟨chip, hchip, parsed, hread, ht, -⟩
    exact (List.not_mem_nil _ ((hnone.mp he).1 ▸ hhit chip parsed hchip hread ht)).elim
  | some e =>
    have hdesc := describes_of_lookup parsers none chipsByType hr hd hp hok he
    have hsome : ¬(registerHits parsers none registers t = [] ∧
        describeHits parsers none describes t = [] ∧ deprecateHits parsers none deprecates t = []) :=
      fun h => by rw [← hnone, he] at h; cases h
    cases hv : e.versions.lookup v with
    | none =>
      have hans : registryTypeVersion (.ok types) t v = versionNotFound t v := by
        simp only [registryTypeVersion, he, hv]
      rw [hans]
      refine ⟨⟨fun h => absurd h (by simp), ?_⟩,
        iff_of_false (versionNotFound_ne_typeNotFound t v) hsome⟩
      rintro ⟨chip, hchip, parsed, hread, ht, hpv, -⟩
      exact ((hdesc.lookup_versions_eq_none_iff v).mp hv _ (hhit chip parsed hchip hread ht) hpv).elim
    | some ver =>
      obtain ⟨⟨chip, parsed⟩, hlast, -, hcid⟩ := hdesc.lookup_versions_eq_some hv
      have hmem := List.mem_filter.mp (List.mem_of_getLast?_eq_some hlast)
      obtain ⟨hchip, hread, ht⟩ := (mem_hits_sorted _ _ _).mp hmem.1
      have hsorted := (hits_sortByCreatedAt_sorted parsers.parseRegister (·.targetType) none
        registers t).filter (·.2.typeVersion == v)
      have hok200 : (registryTypeVersion (.ok types) t v).1 = 200 := by
        simp only [registryTypeVersion, he, hv]
      refine ⟨iff_of_true hok200 ⟨chip, hchip, parsed, hread, ht,
          by simpa using hmem.2, ?_, fun chip' hchip' parsed' hread' ht' hv' => ?_⟩,
        iff_of_false (fun h => absurd (congrArg Prod.fst h ▸ hok200) (by simp)) hsome⟩
      · simp only [registryTypeVersion, he, hv, hcid]
        rfl
      · exact @rel_of_getLast? _
          (fun a b : StoredChip × MetaRegister => a.1.createdAt ≤ b.1.createdAt)
          (fun _ => le_refl _) _ hsorted _ _ hlast
          (List.mem_filter.mpr ⟨hhit chip' parsed' hchip' hread' ht', by simpa using hv'⟩)

theorem registryTypeVersion_answer_sample :
  sampleChipsByType "ubl/meta.register" = .ok [sampleRegisterChip] ∧
    sampleChipsByType "ubl/meta.describe" = .ok [sampleDescribeChip] ∧
    sampleChipsByType "ubl/meta.deprecate" = .ok [] ∧
    ((registryTypeVersion (materializeRegistry sampleChipsByType sampleParsers none)
        "ubl/document" "1.0").1 = 200 ↔
      ∃ chip ∈ [sampleRegisterChip], ∃ parsed,
        readChip sampleParsers.parseRegister none chip = some parsed ∧
        parsed.targetType = "ubl/document" ∧ parsed.typeVersion = "1.0" ∧
        (registryTypeVersion (materializeRegistry sampleChipsByType sampleParsers none)
          "ubl/document" "1.0").2.get "register_cid" = some (.string chip.cid) ∧
        ∀ chip' ∈ [sampleRegisterChip], ∀ parsed',
          readChip sampleParsers.parseRegister none chip' = some parsed' →
            parsed'.targetType = "ubl/document" → parsed'.typeVersion = "1.0" →
              chip'.createdAt ≤ chip.createdAt) ∧
    (registryTypeVersion (materializeRegistry sampleChipsByType sampleParsers none)
        "ubl/document" "1.0" = typeNotFound "ubl/document" ↔
      registerHits sampleParsers none [sampleRegisterChip] "ubl/document" = [] ∧
        describeHits sampleParsers none [sampleDescribeChip] "ubl/document" = [] ∧
        deprecateHits sampleParsers none [] "ubl/document" = [])
  := ⟨rfl, rfl, rfl,
    registryTypeVersion_answer sampleParsers sampleChipsByType rfl rfl rfl "ubl/document" "1.0"⟩

/-- `GET /v1/registry/types/:chip_type` answers "type not found" exactly when no meta chip
targets the type, and otherwise 200 with one row per version some register chip registers for
the type, in increasing order of version. -/
theorem registryTypeDetail_versions {registers describes deprecates : List StoredChip}
    (hr : chipsByType "ubl/meta.register" = .ok registers)
    (hd : chipsByType "ubl/meta.describe" = .ok describes)
    (hp : chipsByType "ubl/meta.deprecate" = .ok deprecates) (t : String) :
  (registryTypeDetail (materializeRegistry chipsByType parsers none) t = typeNotFound t ↔
      registerHits parsers none registers t = [] ∧ describeHits parsers none describes t = [] ∧
        deprecateHits parsers none deprecates t = []) ∧
    (¬(registerHits parsers none registers t = [] ∧ describeHits parsers none describes t = [] ∧
        deprecateHits parsers none deprecates t = []) →
      ∃ vs : List VersionView,
        (registryTypeDetail (materializeRegistry chipsByType parsers none) t).1 = 200 ∧
        (registryTypeDetail (materializeRegistry chipsByType parsers none) t).2.get "versions" =
          some (.array (vs.map versionRow)) ∧
        (vs.map (·.version)).Pairwise (· < ·) ∧
        ∀ v, v ∈ vs.map (·.version) ↔
          ∃ chip ∈ registers, ∃ parsed, readChip parsers.parseRegister none chip = some parsed ∧
            parsed.targetType = t ∧ parsed.typeVersion = v)
  := by
  obtain ⟨types, hok, -, -⟩ := materializeRegistry_lookup parsers none chipsByType hr hd hp
  have hnone := lookup_eq_none_iff_of_eq_ok parsers none chipsByType hr hd hp hok t
  rw [hok]
  cases he : types.lookup t with
  | none =>
    have hans : registryTypeDetail (.ok types) t = typeNotFound t := by
      simp only [registryTypeDetail, he]
    exact ⟨iff_of_true hans (hnone.mp he), fun h => absurd (hnone.mp he) h⟩
  | some e =>
    have hdesc := describes_of_lookup parsers none chipsByType hr hd hp hok he
    have h200 : (registryTypeDetail (.ok types) t).1 = 200 := by
      simp only [registryTypeDetail, he]
    refine ⟨iff_of_false (fun h => absurd (congrArg Prod.fst h ▸ h200) (by simp))
      (fun h => by rw [← hnone, he] at h; cases h), fun _ => ⟨e.versions.map (·.2), h200, ?_, ?_,
        fun v => ?_⟩⟩
    · simp only [registryTypeDetail, he, List.map_map]
      rfl
    · rw [List.map_map]
      exact hdesc.map_version_versions ▸ List.pairwise_map.mpr hdesc.versionsSorted
    · rw [List.map_map]
      show v ∈ e.versions.map (fun x => x.2.version) ↔ _
      rw [hdesc.map_version_versions, hdesc.mem_versions_iff]
      constructor
      · rintro ⟨⟨chip, parsed⟩, hmem, hv⟩
        obtain ⟨hchip, hread, ht⟩ := (mem_hits_sorted _ _ _).mp hmem
        exact ⟨chip, hchip, parsed, hread, ht, hv⟩
      · rintro ⟨chip, hchip, parsed, hread, ht, hv⟩
        exact ⟨(chip, parsed), (mem_hits_sorted _ _ _).mpr ⟨hchip, hread, ht⟩, hv⟩

theorem registryTypeDetail_versions_sample :
  sampleChipsByType "ubl/meta.register" = .ok [sampleRegisterChip] ∧
    sampleChipsByType "ubl/meta.describe" = .ok [sampleDescribeChip] ∧
    sampleChipsByType "ubl/meta.deprecate" = .ok [] ∧
    (registryTypeDetail (materializeRegistry sampleChipsByType sampleParsers none) "ubl/document" =
        typeNotFound "ubl/document" ↔
      registerHits sampleParsers none [sampleRegisterChip] "ubl/document" = [] ∧
        describeHits sampleParsers none [sampleDescribeChip] "ubl/document" = [] ∧
        deprecateHits sampleParsers none [] "ubl/document" = []) ∧
    (¬(registerHits sampleParsers none [sampleRegisterChip] "ubl/document" = [] ∧
        describeHits sampleParsers none [sampleDescribeChip] "ubl/document" = [] ∧
        deprecateHits sampleParsers none [] "ubl/document" = []) →
      ∃ vs : List VersionView,
        (registryTypeDetail (materializeRegistry sampleChipsByType sampleParsers none)
          "ubl/document").1 = 200 ∧
        (registryTypeDetail (materializeRegistry sampleChipsByType sampleParsers none)
          "ubl/document").2.get "versions" = some (.array (vs.map versionRow)) ∧
        (vs.map (·.version)).Pairwise (· < ·) ∧
        ∀ v, v ∈ vs.map (·.version) ↔
          ∃ chip ∈ [sampleRegisterChip], ∃ parsed,
            readChip sampleParsers.parseRegister none chip = some parsed ∧
            parsed.targetType = "ubl/document" ∧ parsed.typeVersion = v)
  := ⟨rfl, rfl, rfl,
    registryTypeDetail_versions sampleParsers sampleChipsByType rfl rfl rfl "ubl/document"⟩

end

end Registry

end UblGate
