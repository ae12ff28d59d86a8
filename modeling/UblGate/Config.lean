import UblGate.Access
import UblGate.RateLimiter
import UblGate.Scope

/-!
# The gate's configuration

At start-up the gate reads its settings from the process environment, `std::env::var`, here a
function from names to optional values.  `env_bool`, `env_opt_trim` and `csv_env` read one
variable each; the MCP token limiter, the canon limiter, the write policy and the link settings
are built from them.

`csv_env` is a parser: what it reads is a list of well-formed entries, and it reads back every
such list written with commas between its entries (`csvEnv_roundTrip`).  Every bound the
limiters read is at least one call a minute, and a variable holding the text of a bound is read
as that bound (`McpTokenRateLimiter.fromEnv_perMinute`, `loadCanonRateLimiter_perMinute`).  The
write policy the gate starts with decides a write from the variables
(`WriteAccessPolicy.fromEnv_authorizeWrite`).  An origin built from a domain variable is
`https://` before the domain with its leading `https://`, then its leading `http://`, taken
off, so that `http://https://x.io` gives `https://https://x.io` (`linkSettings_fromEnv`).
-/

namespace UblGate

/-! ### Reading the environment -/

section Env

variable (env : String → Option String)

/-- `env_bool`: a variable set to `1`, `true`, `TRUE`, `yes` or `on` is true, one set to
anything else false, and an unset one is the default. -/
def envBool (name : String) (default : Bool) : Bool :=
  ((env name).map fun v => v == "1" || v == "true" || v == "TRUE" || v == "yes" || v == "on").getD
    default

/-- `env_opt_trim`: the trimmed value of a variable that is set and not blank. -/
def envOptTrim (name : String) : Option String :=
  ((env name).map Str.trim).filter fun v => !v.isEmpty

/-- `csv_env`: the trimmed, nonempty entries of a comma-separated variable. -/
def csvEnv (name : String) : List String :=
  ((envOptTrim env name).map fun s =>
    ((s.data.splitOn ',').map fun v => Str.trim ⟨v⟩).filter fun v => !v.isEmpty).getD []

/-- `public_receipt_origin_from_env`. -/
def publicReceiptOriginFromEnv : String :=
  match envOptTrim env "UBL_PUBLIC_RECEIPT_ORIGIN" with
  | some origin => origin
  | none =>
    match envOptTrim env "UBL_RICH_URL_DOMAIN" with
    | some domain =>
      "https://" ++ Str.trimStartMatchesStr (Str.trimStartMatchesStr domain "https://") "http://"
    | none => "https://logline.world"

/-- `public_receipt_path_from_env`. -/
def publicReceiptPathFromEnv : String :=
  let path := (envOptTrim env "UBL_PUBLIC_RECEIPT_PATH").getD "/r"
  if Str.startsWith path "/" then path else "/" ++ path

/-- `manifest_base_url_from_env`. -/
def manifestBaseUrlFromEnv : String :=
  match envOptTrim env "UBL_MCP_BASE_URL" with
  | some origin => origin
  | none =>
    match envOptTrim env "UBL_API_BASE_URL" with
    | some origin => origin
    | none =>
      match envOptTrim env "UBL_API_DOMAIN" with
      | some domain =>
        "https://" ++ Str.trimStartMatchesStr (Str.trimStartMatchesStr domain "https://") "http://"
      | none => "https://api.ubl.agency"

/-- `load_canon_rate_limiter`: the per-minute bound of the canon limiter, `none` when it is
disabled.  The limiter is outside this repository; `RateLimitConfig::per_minute` keeps the
bound. -/
def loadCanonRateLimiter : Option Nat :=
  if !envBool env "UBL_CANON_RATE_LIMIT_ENABLED" true then none
  else some (max (((env "UBL_CANON_RATE_LIMIT_PER_MIN").bind Str.parseU32).getD 120) 1)

/-- `McpTokenRateLimiter::from_env`, with empty buckets; `usize` is `u64` on the gate's
64-bit targets. -/
def McpTokenRateLimiter.fromEnv : McpTokenRateLimiter :=
  ⟨max (((env "UBL_MCP_TOKEN_RPM").bind Str.parseU64).getD 120) 1, fun _ => []⟩

/-- `WriteAccessPolicy::from_env`: the public worlds and types default to two each when their
variables list none. -/
def WriteAccessPolicy.fromEnv : WriteAccessPolicy :=
  let worlds := csvEnv env "UBL_PUBLIC_WRITE_WORLDS"
  let types := csvEnv env "UBL_PUBLIC_WRITE_TYPES"
  ⟨envBool env "UBL_WRITE_AUTH_REQUIRED" false, csvEnv env "UBL_WRITE_API_KEYS",
    if worlds.isEmpty then ["a/chip-registry/t/public", "a/demo/t/dev"] else worlds,
    if types.isEmpty then ["ubl/document", "audit/advisory.request.v1"] else types⟩

end Env

/-! ### Comma-separated variables -/

/-- An entry of a comma-separated variable as `csv_env` reads it: not empty, without a comma,
and left unchanged by trimming. -/
def CsvEntry (k : String) : Prop :=
  k ≠ "" ∧ ',' ∉ k.data ∧ Str.trim k = k

instance : DecidablePred CsvEntry :=
  fun k => inferInstanceAs (Decidable (k ≠ "" ∧ ',' ∉ k.data ∧ Str.trim k = k))

/-- What `csv_env` reads is well formed. -/
theorem csvEntry_of_mem_csvEnv {env : String → Option String} {name k : String}
    (h : k ∈ csvEnv env name) : CsvEntry k
  := by
  unfold csvEnv at h
  cases hs : envOptTrim env name with
  | none => simp [hs] at h
  | some s =>
    rw [hs, Option.map_some', Option.getD_some] at h
    obtain ⟨hmem, hne⟩ := List.mem_filter.mp h
    obtain ⟨piece, hpiece, rfl⟩ := List.mem_map.mp hmem
    exact ⟨fun h0 => absurd (h0 ▸ hne) (by decide),
      fun hc => not_mem_of_mem_splitOn hpiece (Str.mem_of_mem_trim hc), Str.trim_trim _⟩

theorem splitOn_of_not_mem {k : List Char} (hk : ',' ∉ k) : k.splitOn ',' = [k]
  := List.splitOnP_eq_single _ _ fun _ hx hc => hk (beq_iff_eq.mp hc ▸ hx)

/-- Splitting at the commas that separate keys without commas gives back the keys. -/
theorem splitOn_comma_flatten {k : List Char} {ks : List (List Char)} (hk : ',' ∉ k)
    (hks : ∀ x ∈ ks, ',' ∉ x) :
  (k ++ (ks.map fun x => ',' :: x).flatten).splitOn ',' = k :: ks
  := by
  induction ks generalizing k with
  | nil =>
    rw [List.map_nil, List.flatten_nil, List.append_nil, splitOn_of_not_mem hk]
  | cons x ks ih =>
    rw [List.map_cons, List.flatten_cons, List.cons_append, splitOn_append_cons,
      splitOn_of_not_mem hk,
      ih (hks x (List.mem_cons_self _ _)) fun y hy => hks y (List.mem_cons_of_mem _ hy)]
    rfl

/-- The first and last characters of a well-formed entry are not whitespace. -/
theorem CsvEntry.ends {k : String} (hk : CsvEntry k) :
  k.data ≠ [] ∧ (∀ c ∈ k.data.head?, Str.isWhitespace c = false) ∧
    ∀ c ∈ k.data.getLast?, Str.isWhitespace c = false
  := ⟨fun h => hk.1 (String.ext h), Str.trim_eq_self_iff.mp hk.2.2⟩

/-- A list of entries written with commas between them ends in the last character of the last
entry. -/
theorem getLast?_commaJoin {k : List Char} {ks : List String}
    (hk : ∀ c ∈ k.getLast?, Str.isWhitespace c = false)
    (hks : ∀ x ∈ ks, CsvEntry x) :
  ∀ c ∈ (k ++ (ks.map fun x => ',' :: x.data).flatten).getLast?, Str.isWhitespace c = false
  := by
  induction ks generalizing k with
  | nil => simpa using hk
  | cons x ks ih =>
    obtain ⟨hne, -, hlast⟩ := (hks x (List.mem_cons_self _ _)).ends
    rw [List.map_cons, List.flatten_cons, List.cons_append, List.append_cons,
      List.getLast?_append_of_ne_nil _ (fun h => hne (List.append_eq_nil.mp h).1)]
    exact ih hlast fun y hy => hks y (List.mem_cons_of_mem _ hy)

/-- `csv_env` reads back every list of well-formed entries written with commas between them,
and what it reads is always such a list. -/
theorem csvEnv_roundTrip (env : String → Option String) (name : String) :
  (∀ k ∈ csvEnv env name, CsvEntry k) ∧
    ∀ keys : List String, (∀ k ∈ keys, CsvEntry k) →
      env name = some (String.intercalate "," keys) → csvEnv env name = keys
  := by
  refine ⟨fun k hk => csvEntry_of_mem_csvEnv hk, fun keys hkeys henv => ?_⟩
  cases keys with
  | nil => simp [csvEnv, envOptTrim, henv]; decide
  | cons k ks =>
    have hdata : (String.intercalate "," (k :: ks)).data =
        k.data ++ (ks.map fun k => ',' :: k.data).flatten :=
      Str.intercalate_go_data k ks
    obtain ⟨hne, hhead, hlast⟩ := (hkeys k (List.mem_cons_self _ _)).ends
    have htrim : Str.trim (String.intercalate "," (k :: ks)) = String.intercalate "," (k :: ks) := by
      refine Str.trim_eq_self_iff.mpr ⟨?_, ?_⟩
      · rw [hdata, List.head?_append_of_ne_nil _ hne]
        exact hhead
      · rw [hdata]
        exact getLast?_commaJoin hlast fun x hx => hkeys x (List.mem_cons_of_mem _ hx)
    have hblank : (String.intercalate "," (k :: ks)).isEmpty = false :=
      isEmpty_eq_false fun h => hne (List.append_eq_nil.mp (hdata ▸ congrArg String.data h)).1
    have hsplit : (String.intercalate "," (k :: ks)).data.splitOn ',' = (k :: ks).map String.data := by
      rw [hdata, List.map_cons]
      simpa only [List.map_map, Function.comp_def] using
        @splitOn_comma_flatten k.data (ks.map String.data) (hkeys k (List.mem_cons_self _ _)).2.1
          fun x hx => by
            obtain ⟨y, hy, rfl⟩ := List.mem_map.mp hx
            exact (hkeys y (List.mem_cons_of_mem _ hy)).2.1
    have hopt : envOptTrim env name = some (String.intercalate "," (k :: ks)) := by
      simp [envOptTrim, henv, htrim, hblank]
    have hkeep : ∀ x ∈ k :: ks, ((fun v => Str.trim ⟨v⟩) ∘ String.data) x = id x :=
      fun x hx => (hkeys x hx).2.2
    rw [csvEnv, hopt, Option.map_some', Option.getD_some, hsplit, List.map_map,
      List.map_congr_left hkeep, List.map_id, List.filter_eq_self]
    intro x hx
    simp [isEmpty_eq_false (hkeys x hx).1]

example : csvEnv (fun _ => some " a, ,b ,") "UBL_WRITE_API_KEYS" = ["a", "b"] := by decide

/-! ### The limiters -/

theorem le_of_parseU32 {s : String} {v : Nat} (h : Str.parseU32 s = some v) : v ≤ 4294967295
  := by
  simpa using (Option.filter_eq_some.mp h).2

/-- The MCP token limiter the gate starts with is the one of the sliding window law, empty
buckets under its bound, and the bound is at least one call a minute, as the law assumes: 120
when `UBL_MCP_TOKEN_RPM` is unset, and `n` when it holds the text of `n`. -/
theorem McpTokenRateLimiter.fromEnv_perMinute (env : String → Option String) :
  (Checks.start (McpTokenRateLimiter.fromEnv env).perMinute).limiter =
      McpTokenRateLimiter.fromEnv env ∧
    1 ≤ (McpTokenRateLimiter.fromEnv env).perMinute ∧
    (env "UBL_MCP_TOKEN_RPM" = none → (McpTokenRateLimiter.fromEnv env).perMinute = 120) ∧
    ∀ n, 1 ≤ n → n ≤ 18446744073709551615 → env "UBL_MCP_TOKEN_RPM" = some (toString n) →
      (McpTokenRateLimiter.fromEnv env).perMinute = n
  := by
  refine ⟨rfl, Nat.le_max_right _ _, fun hnone => by simp [McpTokenRateLimiter.fromEnv, hnone],
    fun n h1 hn hvar => ?_⟩
  simp only [McpTokenRateLimiter.fromEnv, hvar, Option.some_bind, Str.parseU64_toString hn,
    Option.getD_some]
  omega

/-- The canon limiter is off exactly when `UBL_CANON_RATE_LIMIT_ENABLED` is set to a value other
than `1`, `true`, `TRUE`, `yes` and `on`; when it is on, its bound lies in `1 ..= u32::MAX`, and a
bound variable holding the text of such a bound is read as that bound. -/
theorem loadCanonRateLimiter_perMinute (env : String → Option String) :
  (loadCanonRateLimiter env = none ↔
      ∃ v, env "UBL_CANON_RATE_LIMIT_ENABLED" = some v ∧ v ∉ ["1", "true", "TRUE", "yes", "on"]) ∧
    (∀ m ∈ loadCanonRateLimiter env, 1 ≤ m ∧ m ≤ 4294967295) ∧
    ∀ n, 1 ≤ n → n ≤ 4294967295 → envBool env "UBL_CANON_RATE_LIMIT_ENABLED" true = true →
      env "UBL_CANON_RATE_LIMIT_PER_MIN" = some (toString n) → loadCanonRateLimiter env = some n
  := by
  refine ⟨?_, fun m hm => ?_, fun n h1 hn henabled hvar => ?_⟩
  · unfold loadCanonRateLimiter envBool
    cases env "UBL_CANON_RATE_LIMIT_ENABLED" <;> simp
  · unfold loadCanonRateLimiter at hm
    split at hm
    · cases hm
    · obtain rfl := Option.some.inj (Option.mem_def.mp hm)
      have hbound : ((env "UBL_CANON_RATE_LIMIT_PER_MIN").bind Str.parseU32).getD 120 ≤ 4294967295 := by
        cases hp : (env "UBL_CANON_RATE_LIMIT_PER_MIN").bind Str.parseU32 with
        | none => decide
        | some v =>
          obtain ⟨s, -, hs⟩ := Option.bind_eq_some.mp hp
          exact le_of_parseU32 hs
      exact ⟨Nat.le_max_right _ _, by omega⟩
  · have hparse : Str.parseU32 (toString n) = some n := by
      rw [Str.parseU32, Str.parseU64_toString (by omega)]
      simpa using hn
    simp only [loadCanonRateLimiter, henabled, Bool.not_true, Bool.false_eq_true, if_false, hvar,
      Option.some_bind, hparse, Option.getD_some, Option.some.injEq]
    omega

/-! ### The write policy -/

theorem mem_ite_isEmpty {l d : List String} {x : String} :
  x ∈ (if l.isEmpty then d else l) ↔ x ∈ l ∨ l = [] ∧ x ∈ d
  := by
  cases l <;> simp

/-- The gate started in the environment `env` lets a write through exactly when
`UBL_WRITE_AUTH_REQUIRED` is not set true and `UBL_WRITE_API_KEYS` lists no key, when the request
presents a listed key, or when the chip takes the public lane, whose worlds and types are those
`UBL_PUBLIC_WRITE_WORLDS` and `UBL_PUBLIC_WRITE_TYPES` list, or two defaults each when a variable
lists none.  Listing a key closes the gate to writes without a key off the public lane, whether
or not authentication is required. -/
theorem WriteAccessPolicy.fromEnv_authorizeWrite (isOnboardingType : String → Bool)
    (env : String → Option String) (headers : Option HeaderMap) (chipType world : String) :
  (WriteAccessPolicy.fromEnv env).authorizeWrite isOnboardingType headers chipType world = .ok () ↔
    (envBool env "UBL_WRITE_AUTH_REQUIRED" false = false ∧ csvEnv env "UBL_WRITE_API_KEYS" = []) ∨
    (∃ h key, headers = some h ∧ extractApiKey h = some key ∧
      key ∈ csvEnv env "UBL_WRITE_API_KEYS") ∨
    isOnboardingType chipType = true ∨
    ((world ∈ csvEnv env "UBL_PUBLIC_WRITE_WORLDS" ∨ csvEnv env "UBL_PUBLIC_WRITE_WORLDS" = [] ∧
        world ∈ ["a/chip-registry/t/public", "a/demo/t/dev"]) ∧
      (chipType ∈ csvEnv env "UBL_PUBLIC_WRITE_TYPES" ∨ csvEnv env "UBL_PUBLIC_WRITE_TYPES" = [] ∧
        chipType ∈ ["ubl/document", "audit/advisory.request.v1"]))
  := by
  rw [WriteAccessPolicy.authorizeWrite_eq_ok]
  simp only [WriteAccessPolicy.fromEnv, mem_ite_isEmpty]

/-! ### Link settings -/

/-- What the gate makes of a domain variable: `https://` before the domain with its run of
leading `https://` copies taken off, and then its run of leading `http://` copies.  What is
left starts with `http://` no more, and with `https://` only behind a removed `http://`. -/
def DomainOrigin (domain origin : String) : Prop :=
  ∃ m n rest, domain.data =
      (List.replicate m "https://".data).flatten ++ (List.replicate n "http://".data).flatten ++
        rest ∧
    origin = "https://" ++ ⟨rest⟩ ∧ Str.startsWith ⟨rest⟩ "http://" = false ∧
    (n = 0 → Str.startsWith ⟨rest⟩ "https://" = false)

theorem domainOrigin_trim (domain : String) :
  DomainOrigin domain
    ("https://" ++ Str.trimStartMatchesStr (Str.trimStartMatchesStr domain "https://") "http://")
  := by
  obtain ⟨m, hm, hs⟩ := Str.trimStartMatchesStr_spec domain (p := "https://") (by decide)
  obtain ⟨n, hn, hp⟩ := Str.trimStartMatchesStr_spec
    (Str.trimStartMatchesStr domain "https://") (p := "http://") (by decide)
  refine ⟨m, n, (Str.trimStartMatchesStr (Str.trimStartMatchesStr domain "https://") "http://").data,
    by rw [hm, hn, List.append_assoc], rfl, hp, fun h0 => ?_⟩
  subst h0
  have hsame : Str.trimStartMatchesStr (Str.trimStartMatchesStr domain "https://") "http://" =
      Str.trimStartMatchesStr domain "https://" :=
    String.ext (by simpa using hn.symm)
  rw [hsame]
  exact hs

/-- On the domain `http://https://x.io` the origin keeps the second scheme. -/
example :
    "https://" ++ Str.trimStartMatchesStr (Str.trimStartMatchesStr "http://https://x.io" "https://")
      "http://" = "https://https://x.io" := by
  rfl

/-- The link settings the gate starts with: the public receipt path starts with `/`, and the
public receipt origin and the manifest base URL built from a domain variable, when no variable
names the origin itself, are `https://` before the domain with its leading `https://`, then
its leading `http://`, taken off. -/
theorem linkSettings_fromEnv (env : String → Option String) :
  Str.startsWith (publicReceiptPathFromEnv env) "/" = true ∧
    (∀ domain, envOptTrim env "UBL_PUBLIC_RECEIPT_ORIGIN" = none →
      envOptTrim env "UBL_RICH_URL_DOMAIN" = some domain →
      DomainOrigin domain (publicReceiptOriginFromEnv env)) ∧
    ∀ domain, envOptTrim env "UBL_MCP_BASE_URL" = none → envOptTrim env "UBL_API_BASE_URL" = none →
      envOptTrim env "UBL_API_DOMAIN" = some domain →
      DomainOrigin domain (manifestBaseUrlFromEnv env)
  := by
  refine ⟨?_, fun domain ho hd => ?_, fun domain hm ha hd => ?_⟩
  · dsimp only [publicReceiptPathFromEnv]
    split
    · assumption
    · simp [Str.startsWith, List.isPrefixOf]
  · simp only [publicReceiptOriginFromEnv, ho, hd]
    exact domainOrigin_trim domain
  · simp only [manifestBaseUrlFromEnv, hm, ha, hd]
    exact domainOrigin_trim domain

end UblGate
