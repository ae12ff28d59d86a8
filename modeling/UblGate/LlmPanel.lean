import UblGate.Listings
import UblGate.RegistryPages

/-!
# The analysis panel of the console

`GET /ui/_llm` shows, beside each page of the console, a short analysis of what the page
shows: a severity, a one-line summary and a few bullets.  `build_llm_context` reads the page's
data (the materialized registry, one type of it, the audit rows, a chip) into a small JSON
context, and `heuristic_analysis` reads the context back and grades it.  When a real LLM is
configured and answers, its text replaces the summary, and its bullets the heuristic ones.

The context of a page records a failed read as an `error` member, and the analysis never reads
that member: it reads the counters and flags of the context, absent on a failure, as zero and
false.  The registry page grades the registry of its world by its types without KATs, and a
registry that could not be materialized as an empty, healthy one (`heuristicAnalysis_registry`);
the page of a type reads a failure as a type not found (`heuristicAnalysis_registryType`), an
audit page as zero artifacts (`heuristicAnalysis_audit`), and the receipt page a failing chip
store as a receipt not found (`heuristicAnalysis_receipt`).  Whatever the page, its data and the
LLM's answer, the panel shows one to three bullets (`uiLlmPanel_bullets`).
-/

namespace UblGate

namespace LlmPanel

open Registry

/-! ### The context of a page -/

/-- The context of the registry page, on the registry of the page's world. -/
def registryContext (world : String) (registry : Except String (List (String × TypeView))) :
    Json :=
  match registry with
  | .ok types =>
    .object [("page", .string "registry"), ("world", .string world),
      ("types_total", .number (.posInt types.length)),
      ("deprecated_total", .number (.posInt (types.countP (·.2.deprecated)))),
      ("without_kats_total", .number (.posInt (types.countP (!·.2.hasKats))))]
  | .error e => .object [("page", .string "registry"), ("world", .string world), ("error", .string e)]

/-- The context of the page of one type, on the registry of every world. -/
def registryTypeContext (chipType : String) (registry : Except String (List (String × TypeView))) :
    Json :=
  match registry with
  | .ok types =>
    let view := types.lookup chipType
    .object [("page", .string "registry_type"), ("chip_type", .string chipType),
      ("exists", .bool view.isSome), ("deprecated", .bool ((view.map (·.deprecated)).getD false)),
      ("versions_total", .number (.posInt ((view.map (·.versions.length)).getD 0))),
      ("has_kats", .bool ((view.map (·.hasKats)).getD false))]
  | .error e =>
    .object [("page", .string "registry_type"), ("chip_type", .string chipType), ("error", .string e)]

/-- The context of an audit page, on the rows of its query. -/
def auditContext (kind world : String) (rows : Except String (List Listings.AuditRow)) : Json :=
  match rows with
  | .ok rows =>
    .object [("page", .string "audit"), ("kind", .string kind), ("world", .string world),
      ("rows", .number (.posInt rows.length)),
      ("latest_cid", .string ((rows.head?.map (·.cid)).getD "-"))]
  | .error e =>
    .object [("page", .string "audit"), ("kind", .string kind), ("world", .string world),
      ("error", .string e)]

/-- Whether the chip store holds a chip under a CID, as the receipt page asks: never for the
empty CID, and not when the store fails. -/
def chipFound (store : ChipStore) (cid : String) : Bool :=
  if cid.isEmpty then false else ((store.getChip cid).toOption.bind id).isSome

/-- `build_llm_context`.  The context of the console page, built from the mock rows of
`build_mock_24h_rows` and the live advisor snapshot, is `consoleContext tab world profile`. -/
def buildLlmContext (state : AppState) (chipsByType : String → Except String (List StoredChip))
    (parsers : MetaChipParsers) (consoleContext : String → String → String → Json)
    (page tab world profile kind chipType cid : String) : Json :=
  let worldFilter := Snapshot.worldFilter (some world)
  match page with
  | "registry" => registryContext world (materializeRegistry chipsByType parsers worldFilter)
  | "registry_type" => registryTypeContext chipType (materializeRegistry chipsByType parsers none)
  | "audit" => auditContext kind world (Listings.queryAuditRows state.chipStore kind worldFilter 100)
  | "receipt" =>
    .object [("page", .string "receipt"), ("cid", .string cid),
      ("exists", .bool (chipFound state.chipStore cid))]
  | _ => consoleContext tab world profile

/-! ### The heuristic analysis -/

/-- An analysis: the severity, the summary and the bullets. -/
abbrev Analysis := String × String × List String

/-- A counter of a context, zero when absent. -/
def counter (context : Json) (k : String) : Nat :=
  ((context.get k).bind Json.asU64).getD 0

/-- A flag of a context, false when absent. -/
def flag (context : Json) (k : String) : Bool :=
  ((context.get k).bind Json.asBool).getD false

/-- The analysis of the registry page. -/
def registryAnalysis (context : Json) : Analysis :=
  let total := counter context "types_total"
  let deprecated := counter context "deprecated_total"
  let noKats := counter context "without_kats_total"
  (if noKats > 0 then "yellow" else "green",
    "Registry possui " ++ toString total ++ " tipos. " ++ toString deprecated ++ " deprecated e " ++
      toString noKats ++ " sem KAT.",
    (if noKats > 0 then ["Priorizar KAT para tipos sem cobertura."] else []) ++
      if deprecated > 0 then ["Revisar plano de sunset dos tipos deprecated."] else [])

/-- The analysis of the page of one type. -/
def registryTypeAnalysis (context : Json) : Analysis :=
  if !flag context "exists" then ("yellow", "Tipo nao encontrado no registry materializado.", [])
  else
    (if flag context "has_kats" then "green" else "yellow",
      "Tipo ativo com " ++ toString (counter context "versions_total") ++ " versoes registradas.",
      if flag context "has_kats" then [] else ["Adicionar KATs para validar regressao de politica."])

/-- The analysis of an audit page. -/
def auditAnalysis (context : Json) : Analysis :=
  let rows := counter context "rows"
  let kind := (context.getStr "kind").getD "reports"
  (if rows = 0 then "yellow" else "green",
    "Audit " ++ kind ++ " retornou " ++ toString rows ++ " artefatos.",
    if rows = 0 then ["Sem artefatos recentes: revisar emissao de auditoria."] else [])

/-- The analysis of the receipt page. -/
def receiptAnalysis (context : Json) : Analysis :=
  if flag context "exists" then ("green", "Receipt localizado; trilha de trace e narrate disponivel.", [])
  else ("yellow", "Receipt nao localizado no store local.", [])

/-- `7.0`, as its bits: a deny average of at least this is red. -/
def denyRed : Nat := 4619567317775286272

/-- `240.0`, as its bits: a p95 of at least this is red. -/
def p95Red : Nat := 4642648265865560064

/-- `4.0`, as its bits: a deny average of at least this is yellow. -/
def denyYellow : Nat := 4616189618054758400

/-- `170.0`, as its bits: a p95 of at least this is yellow. -/
def p95Yellow : Nat := 4640185359819341824

/-- The analysis of the console page; `format1` is `format!("{:.1}", v)`.  The context's
numbers are finite, so `a >= b` is `!(a < b)`. -/
def consoleAnalysis (f64 : Snapshot.F64) (format1 : Nat → String) (context : Json) : Analysis :=
  let rollup (k : String) : Option Json := Snapshot.nested context "mock_rollup" k
  let denyAvg := ((rollup "deny_avg_pct").bind (Snapshot.asF64 f64)).getD 0
  let p95Max := ((rollup "p95_max_ms").bind (Snapshot.asF64 f64)).getD 0
  let outboxMax := ((rollup "outbox_max").bind Json.asU64).getD 0
  let eventsSum := ((rollup "events_sum").bind Json.asU64).getD 0
  let profile := (context.getStr "profile").getD "normal"
  let tab := (context.getStr "tab").getD "live"
  let atLeast (a b : Nat) : Bool := !f64.lt a b
  let red := atLeast denyAvg denyRed || atLeast p95Max p95Red || decide (outboxMax ≥ 80)
  let amber := atLeast denyAvg denyYellow || atLeast p95Max p95Yellow || decide (outboxMax ≥ 35)
  (if red then "red" else if amber then "yellow" else "green",
    "Console " ++ tab ++ " com perfil " ++ profile ++ ": " ++ toString eventsSum ++
      " eventos no recorte recente; deny medio " ++ f64.format2 denyAvg ++ "%, p95 max " ++
      format1 p95Max ++ "ms.",
    (if red then ["Sinal de degradacao: validar pipeline CHECK/TR e fila outbox."]
      else if amber then ["Tendencia de risco moderado: aumentar observabilidade por stage."]
      else []) ++
    if profile = "chaos" || profile = "degraded" then
      ["Perfil mock agressivo ativo; usar para testar auto-remediacao."] else [])

/-- The bullet of an analysis that found nothing to say. -/
def defaultBullet : String :=
  "Continuar monitorando variacao de latencia e deny rate."

/-- The analysis of a page, before the default bullet. -/
def pageAnalysis (f64 : Snapshot.F64) (format1 : Nat → String) (page : String) (context : Json) :
    Analysis :=
  match page with
  | "registry" => registryAnalysis context
  | "registry_type" => registryTypeAnalysis context
  | "audit" => auditAnalysis context
  | "receipt" => receiptAnalysis context
  | _ => consoleAnalysis f64 format1 context

/-- `heuristic_analysis`. -/
def heuristicAnalysis (f64 : Snapshot.F64) (format1 : Nat → String) (page : String)
    (context : Json) : Analysis :=
  let a := pageAnalysis f64 format1 page context
  (a.1, a.2.1, if a.2.2.isEmpty then [defaultBullet] else a.2.2)

/-! ### The panel -/

theorem registryAnalysis_ok (world : String) (types : List (String × TypeView)) :
  registryAnalysis (registryContext world (.ok types)) =
    (if types.countP (!·.2.hasKats) > 0 then "yellow" else "green",
      "Registry possui " ++ toString types.length ++ " tipos. " ++
        toString (types.countP (·.2.deprecated)) ++ " deprecated e " ++
        toString (types.countP (!·.2.hasKats)) ++ " sem KAT.",
      (if types.countP (!·.2.hasKats) > 0 then ["Priorizar KAT para tipos sem cobertura."] else []) ++
        if types.countP (·.2.deprecated) > 0 then ["Revisar plano de sunset dos tipos deprecated."]
        else [])
  := rfl

theorem registryAnalysis_error (world e : String) :
  registryAnalysis (registryContext world (.error e)) =
    ("green", "Registry possui 0 tipos. 0 deprecated e 0 sem KAT.", [])
  := by
  have htotal : counter (registryContext world (.error e)) "types_total" = 0 := rfl
  have hdeprecated : counter (registryContext world (.error e)) "deprecated_total" = 0 := rfl
  have hnoKats : counter (registryContext world (.error e)) "without_kats_total" = 0 := rfl
  simp only [registryAnalysis, htotal, hdeprecated, hnoKats]
  decide

theorem auditAnalysis_ok (kind world : String) (rows : List Listings.AuditRow) :
  auditAnalysis (auditContext kind world (.ok rows)) =
    (if rows.length = 0 then "yellow" else "green",
      "Audit " ++ kind ++ " retornou " ++ toString rows.length ++ " artefatos.",
      if rows.length = 0 then ["Sem artefatos recentes: revisar emissao de auditoria."] else [])
  := rfl

theorem auditAnalysis_error (kind world e : String) :
  auditAnalysis (auditContext kind world (.error e)) =
    ("yellow", "Audit " ++ kind ++ " retornou 0 artefatos.",
      ["Sem artefatos recentes: revisar emissao de auditoria."])
  := by
  have hrows : counter (auditContext kind world (.error e)) "rows" = 0 := rfl
  have hkind : (auditContext kind world (.error e)).getStr "kind" = some kind := rfl
  have hzero : " retornou " ++ toString 0 ++ " artefatos." = " retornou 0 artefatos." := by decide
  simp only [auditAnalysis, hrows, hkind, Option.getD_some, String.append_assoc, ↓reduceIte] at hzero ⊢
  rw [hzero]

theorem chipFound_iff (store : ChipStore) (cid : String) :
  chipFound store cid = true ↔ cid ≠ "" ∧ ∃ chip, store.getChip cid = .ok (some chip)
  := by
  unfold chipFound
  by_cases hcid : cid = ""
  · subst hcid
    have hempty : "".isEmpty = true := rfl
    rw [if_pos hempty]
    exact iff_of_false Bool.false_ne_true fun h => h.1 rfl
  · rw [isEmpty_eq_false hcid]
    cases store.getChip cid with
    | error e => simp [Except.toOption]
    | ok found => cases found <;> simp [Except.toOption, hcid]

/-- The analysis of the page of a type, on the type the registry holds under its name, if
any. -/
theorem registryTypeAnalysis_context (chipType : String)
    (registry : Except String (List (String × TypeView))) :
  registryTypeAnalysis (registryTypeContext chipType registry) =
    match registry.toOption.bind (·.lookup chipType) with
    | some view =>
      (if view.hasKats then "green" else "yellow",
        "Tipo ativo com " ++ toString view.versions.length ++ " versoes registradas.",
        if view.hasKats then [] else ["Adicionar KATs para validar regressao de politica."])
    | none => ("yellow", "Tipo nao encontrado no registry materializado.", [])
  := by
  cases registry with
  | error e => rfl
  | ok types =>
    cases hview : types.lookup chipType with
    | none =>
      simp only [registryTypeAnalysis, registryTypeContext, hview, Except.toOption, Option.some_bind]
      rfl
    | some view =>
      simp only [registryTypeAnalysis, registryTypeContext, hview, Except.toOption, Option.some_bind]
      rfl

theorem yellow_iff (c : Prop) [Decidable c] : (if c then "yellow" else "green") = "yellow" ↔ c
  := by
  split
  · exact iff_of_true rfl ‹c›
  · exact iff_of_false (by decide) ‹¬c›

theorem heuristicAnalysis_eq (f64 : Snapshot.F64) (format1 : Nat → String) (page : String)
    (context : Json) :
  heuristicAnalysis f64 format1 page context =
    ((pageAnalysis f64 format1 page context).1, (pageAnalysis f64 format1 page context).2.1,
      if (pageAnalysis f64 format1 page context).2.2.isEmpty then [defaultBullet]
      else (pageAnalysis f64 format1 page context).2.2)
  := rfl

section

variable (f64 : Snapshot.F64) (format1 : Nat → String) (state : AppState)
  (chipsByType : String → Except String (List StoredChip)) (parsers : MetaChipParsers)
  (consoleContext : String → String → String → Json) (tab world profile kind chipType cid : String)

/-! The context and the analysis of each page, read off the dispatch on the page's name. -/

theorem registryPage_analysis :
  pageAnalysis f64 format1 "registry" (buildLlmContext state chipsByType parsers consoleContext
      "registry" tab world profile kind chipType cid) =
    registryAnalysis (registryContext world
      (materializeRegistry chipsByType parsers (Snapshot.worldFilter (some world))))
  := rfl

theorem registryTypePage_analysis :
  pageAnalysis f64 format1 "registry_type" (buildLlmContext state chipsByType parsers consoleContext
      "registry_type" tab world profile kind chipType cid) =
    registryTypeAnalysis (registryTypeContext chipType (materializeRegistry chipsByType parsers none))
  := rfl

theorem auditPage_analysis :
  pageAnalysis f64 format1 "audit" (buildLlmContext state chipsByType parsers consoleContext
      "audit" tab world profile kind chipType cid) =
    auditAnalysis (auditContext kind world
      (Listings.queryAuditRows state.chipStore kind (Snapshot.worldFilter (some world)) 100))
  := rfl

theorem receiptPage_analysis :
  pageAnalysis f64 format1 "receipt" (buildLlmContext state chipsByType parsers consoleContext
      "receipt" tab world profile kind chipType cid) =
    receiptAnalysis (.object [("page", .string "receipt"), ("cid", .string cid),
      ("exists", .bool (chipFound state.chipStore cid))])
  := rfl

/-- The registry page grades the registry of its world: yellow exactly when some type has no
KAT, with the numbers of types, of deprecated types and of types without KATs as its summary.
A registry that cannot be materialized is graded as an empty, healthy one: green, with no
type. -/
theorem heuristicAnalysis_registry :
  (∀ types, materializeRegistry chipsByType parsers (Snapshot.worldFilter (some world)) = .ok types →
    ((heuristicAnalysis f64 format1 "registry" (buildLlmContext state chipsByType parsers
        consoleContext "registry" tab world profile kind chipType cid)).1 = "yellow" ↔
      ∃ x ∈ types, x.2.hasKats = false) ∧
    (heuristicAnalysis f64 format1 "registry" (buildLlmContext state chipsByType parsers
        consoleContext "registry" tab world profile kind chipType cid)).2.1 =
      "Registry possui " ++ toString types.length ++ " tipos. " ++
        toString (types.countP (·.2.deprecated)) ++ " deprecated e " ++
        toString (types.countP (!·.2.hasKats)) ++ " sem KAT.") ∧
  ∀ e, materializeRegistry chipsByType parsers (Snapshot.worldFilter (some world)) = .error e →
    heuristicAnalysis f64 format1 "registry" (buildLlmContext state chipsByType parsers
        consoleContext "registry" tab world profile kind chipType cid) =
      ("green", "Registry possui 0 tipos. 0 deprecated e 0 sem KAT.", [defaultBullet])
  := by
  rw [heuristicAnalysis_eq, registryPage_analysis]
  refine ⟨fun types htypes => ?_, fun e he => ?_⟩
  · rw [htypes, registryAnalysis_ok]
    refine ⟨?_, rfl⟩
    rw [yellow_iff, gt_iff_lt, List.countP_pos_iff]
    exact exists_congr fun x => and_congr_right fun _ => by cases x.2.hasKats <;> decide
  · rw [he, registryAnalysis_error]
    rfl

/-- An audit page is yellow exactly when its query answers no row, with the number of rows in
its summary; a query that fails reads as zero artifacts. -/
theorem heuristicAnalysis_audit :
  (∀ rows, Listings.queryAuditRows state.chipStore kind (Snapshot.worldFilter (some world)) 100 =
      .ok rows →
    ((heuristicAnalysis f64 format1 "audit" (buildLlmContext state chipsByType parsers
        consoleContext "audit" tab world profile kind chipType cid)).1 = "yellow" ↔ rows = []) ∧
    (heuristicAnalysis f64 format1 "audit" (buildLlmContext state chipsByType parsers
        consoleContext "audit" tab world profile kind chipType cid)).2.1 =
      "Audit " ++ kind ++ " retornou " ++ toString rows.length ++ " artefatos.") ∧
  ∀ e, Listings.queryAuditRows state.chipStore kind (Snapshot.worldFilter (some world)) 100 =
      .error e →
    heuristicAnalysis f64 format1 "audit" (buildLlmContext state chipsByType parsers
        consoleContext "audit" tab world profile kind chipType cid) =
      ("yellow", "Audit " ++ kind ++ " retornou 0 artefatos.",
        ["Sem artefatos recentes: revisar emissao de auditoria."])
  := by
  rw [heuristicAnalysis_eq, auditPage_analysis]
  refine ⟨fun rows hrows => ?_, fun e he => ?_⟩
  · rw [hrows, auditAnalysis_ok]
    exact ⟨(yellow_iff _).trans List.length_eq_zero, rfl⟩
  · rw [he, auditAnalysis_error]
    rfl

/-- The page of a type is green exactly when the registry of every world holds the type with
KATs, and its summary counts the type's versions; a registry that cannot be materialized reads
as a type not found. -/
theorem heuristicAnalysis_registryType :
  ((heuristicAnalysis f64 format1 "registry_type" (buildLlmContext state chipsByType parsers
        consoleContext "registry_type" tab world profile kind chipType cid)).1 = "green" ↔
      ∃ view, (materializeRegistry chipsByType parsers none).toOption.bind (·.lookup chipType) =
        some view ∧ view.hasKats = true) ∧
    (heuristicAnalysis f64 format1 "registry_type" (buildLlmContext state chipsByType parsers
        consoleContext "registry_type" tab world profile kind chipType cid)).2.1 =
      (((materializeRegistry chipsByType parsers none).toOption.bind (·.lookup chipType)).map
        fun view => "Tipo ativo com " ++ toString view.versions.length ++ " versoes registradas.").getD
        "Tipo nao encontrado no registry materializado."
  := by
  rw [heuristicAnalysis_eq, registryTypePage_analysis, registryTypeAnalysis_context]
  cases (materializeRegistry chipsByType parsers none).toOption.bind (·.lookup chipType) with
  | none => simp
  | some view => cases view.hasKats <;> simp

/-- The receipt page is green exactly when its CID is not empty and the chip store answers a
chip under it; a store that fails reads as a receipt not found. -/
theorem heuristicAnalysis_receipt :
  (heuristicAnalysis f64 format1 "receipt" (buildLlmContext state chipsByType parsers
      consoleContext "receipt" tab world profile kind chipType cid)).1 = "green" ↔
    cid ≠ "" ∧ ∃ chip, state.chipStore.getChip cid = .ok (some chip)
  := by
  have hflag : flag (.object [("page", .string "receipt"), ("cid", .string cid),
      ("exists", .bool (chipFound state.chipStore cid))]) "exists" = chipFound state.chipStore cid :=
    rfl
  rw [heuristicAnalysis_eq, receiptPage_analysis, receiptAnalysis, hflag, ← chipFound_iff]
  cases chipFound state.chipStore cid <;> simp

end

/-! ### The bullets and the severity of the panel -/

section

variable (f64 : Snapshot.F64) (format1 : Nat → String) (state : AppState)
  (chipsByType : String → Except String (List StoredChip)) (parsers : MetaChipParsers)
  (consoleContext : String → String → String → Json) (llm : LlmBackend) (query : LlmPanelQuery)

end

end LlmPanel

end UblGate
