import Mathlib.Data.List.Basic
import Mathlib.Logic.Function.Basic

/-!
# The MCP token rate limiter

`McpTokenRateLimiter` keeps, for every token, the bucket of the instants of its admitted
calls.  A check at instant `now` first evicts from the front of the bucket every instant at
least one window (60 s) old, then refuses the call when the bucket still holds `perMinute`
instants, answering the seconds until the oldest leaves the window, and otherwise admits it
and appends `now`.

`check` reads the clock before it takes the buckets lock, so concurrent calls run their
locked sections in an order that need not be the order of their clock readings.  A
`CheckStep` is one of the two halves of a call, and a list of them an interleaving.
Instants are nanoseconds.

Calls run one after another (`Checks.calls`) at non-decreasing instants keep `WindowInv`
for every token, and `sequential_checks_sliding_window` draws the sliding-window law from
it: a check at `t` sees exactly the token's admitted instants in `(t - 60 s, t]`, a token's
answers do not depend on the other tokens' calls, and a refused call may retry after the
seconds it is told.  Eviction is lazy, so a bucket holds stale instants until its own token
calls again (`bucket_keeps_stale_instants`).
-/

namespace UblGate

/-- The sliding window, `Duration::from_secs(60)`, in nanoseconds. -/
def window : Nat := 60 * 1000000000

/-- `McpTokenRateLimiter`: the bound per window and the bucket of each token; a token
without an entry has an empty bucket. -/
structure McpTokenRateLimiter where
  perMinute : Nat
  buckets : String → List Nat

namespace McpTokenRateLimiter

/-- The bucket of a token after the eviction loop of a check at `now`;
`Instant::duration_since` saturates at zero. -/
def evict (now : Nat) (bucket : List Nat) : List Nat :=
  bucket.dropWhile fun ts => window ≤ now - ts

/-- The locked section of `McpTokenRateLimiter::check` for a call that read `now`: the new
buckets, and `none` when the call is admitted or the retry-after seconds when it is not. -/
def checkAt (l : McpTokenRateLimiter) (tokenId : String) (now : Nat) :
    McpTokenRateLimiter × Option Nat :=
  let bucket := evict now (l.buckets tokenId)
  if l.perMinute ≤ bucket.length then
    let retryAfter := match bucket.head? with
      | some oldest => (window - (now - oldest)) / 1000000000 + 1
      | none => 1
    ({ l with buckets := Function.update l.buckets tokenId bucket }, some retryAfter)
  else ({ l with buckets := Function.update l.buckets tokenId (bucket ++ [now]) }, none)

end McpTokenRateLimiter

/-- One half of a concurrent `check` call: the call reads the clock, or takes the buckets
lock and runs its locked section with the instant it read. -/
inductive CheckStep where
  | readClock (call : Nat) (tokenId : String) (now : Nat)
  | lock (call : Nat)

/-- Concurrent checks: the limiter, the calls that read the clock and wait for the lock,
and the answers in lock order, each with its token and the instant the call read. -/
structure Checks where
  limiter : McpTokenRateLimiter
  waiting : List (Nat × String × Nat)
  answers : List (String × Nat × Option Nat)

namespace Checks

/-- One step of an interleaving; taking the lock is a no-op for a call not waiting. -/
def step (s : Checks) : CheckStep → Checks
  | .readClock call tokenId now => { s with waiting := s.waiting ++ [(call, tokenId, now)] }
  | .lock call =>
    match s.waiting.find? (·.1 == call) with
    | some (_, tokenId, now) =>
      let (limiter, answer) := s.limiter.checkAt tokenId now
      { limiter, waiting := s.waiting.filter (·.1 != call),
        answers := s.answers ++ [(tokenId, now, answer)] }
    | none => s

/-- An interleaving run from a state. -/
def run (s : Checks) (steps : List CheckStep) : Checks :=
  steps.foldl step s

/-- The token and clock reading of every admitted call. -/
def admitted (s : Checks) : List (String × Nat) :=
  s.answers.filterMap fun (tokenId, now, answer) =>
    if answer.isNone then some (tokenId, now) else none

end Checks

/-- No token has more than `perMinute` admitted calls whose instants lie in one window
`(t - 60 s, t]`. -/
def WindowBound (perMinute : Nat) (admitted : List (String × Nat)) : Prop :=
  ∀ tokenId t, (admitted.filter fun a => a.1 == tokenId && t < a.2 + window && a.2 ≤ t).length
    ≤ perMinute

/-- Two calls at 0 s and 1 s; then a third reads the clock at 59 s, but a fourth, which
reads 61 s, takes the lock first. -/
def staleClockInterleaving : List CheckStep :=
  [.readClock 0 "t" 0, .lock 0, .readClock 1 "t" 1000000000, .lock 1,
    .readClock 2 "t" 59000000000, .readClock 3 "t" 61000000000, .lock 3, .lock 2]

/-- Under two calls a minute, the fourth call of `staleClockInterleaving` evicts both
earlier instants and is admitted; the third then finds one instant in the bucket and is
admitted too.  Three admitted calls read their clocks within the 60 s window ending at
59 s. -/
theorem checks_interleaving_exceeds_window :
  (Checks.run ⟨⟨2, fun _ => []⟩, [], []⟩ staleClockInterleaving).admitted =
      [("t", 0), ("t", 1000000000), ("t", 61000000000), ("t", 59000000000)] ∧
    ¬ WindowBound 2 (Checks.run ⟨⟨2, fun _ => []⟩, [], []⟩ staleClockInterleaving).admitted
  := by
  refine ⟨by decide, fun h => ?_⟩
  have := h "t" 59000000000
  revert this
  decide

/-! ### Calls one after another -/

namespace McpTokenRateLimiter

variable {l : McpTokenRateLimiter} {j k : String} {now : Nat}

@[simp]
theorem checkAt_perMinute : (l.checkAt j now).1.perMinute = l.perMinute
  := by
  unfold checkAt
  dsimp only
  split <;> rfl

theorem checkAt_buckets_of_ne (h : j ≠ k) : (l.checkAt j now).1.buckets k = l.buckets k
  := by
  unfold checkAt
  dsimp only
  split <;> exact Function.update_noteq (Ne.symm h) _ _

theorem checkAt_eq_none_iff :
  (l.checkAt k now).2 = none ↔ (evict now (l.buckets k)).length < l.perMinute
  := by
  unfold checkAt
  dsimp only
  split <;> simp_all

theorem checkAt_buckets_self :
  (l.checkAt k now).1.buckets k =
    evict now (l.buckets k) ++ if (l.checkAt k now).2 = none then [now] else []
  := by
  unfold checkAt
  dsimp only
  split <;> simp_all

/-- A check for `k` reads only the bound and the bucket of `k`. -/
theorem checkAt_congr {l₁ l₂ : McpTokenRateLimiter} (hp : l₁.perMinute = l₂.perMinute)
    (hb : l₁.buckets k = l₂.buckets k) :
  (l₁.checkAt k now).2 = (l₂.checkAt k now).2 ∧
    (l₁.checkAt k now).1.buckets k = (l₂.checkAt k now).1.buckets k
  := by
  unfold checkAt
  dsimp only
  rw [hp, hb]
  split <;> simp

/-- On a bucket in non-decreasing order whose instants are not after `now`, eviction keeps
exactly the instants less than a window before `now`. -/
theorem evict_eq_filter {bucket : List Nat} (hs : bucket.Pairwise (· ≤ ·))
    (hle : ∀ ts ∈ bucket, ts ≤ now) :
  evict now bucket = bucket.filter fun ts => now < ts + window
  := by
  induction bucket with
  | nil => rfl
  | cons a bucket ih =>
    obtain ⟨ha, hs⟩ := List.pairwise_cons.mp hs
    have hnow := hle a (List.mem_cons_self _ _)
    by_cases h : window ≤ now - a
    · rw [evict, List.dropWhile_cons_of_pos (by simpa using h),
        List.filter_cons_of_neg (by simp; omega)]
      exact ih hs fun ts hts => hle ts (List.mem_cons_of_mem _ hts)
    · rw [evict, List.dropWhile_cons_of_neg (by simpa using h),
        List.filter_cons_of_pos (by simp; omega), List.filter_eq_self.mpr]
      intro ts hts
      have := ha ts hts
      simp only [decide_eq_true_eq]
      omega

end McpTokenRateLimiter

namespace Checks

/-- The checks before any call: every bucket empty, under the bound `perMinute`. -/
def start (perMinute : Nat) : Checks :=
  ⟨⟨perMinute, fun _ => []⟩, [], []⟩

/-- A call that runs its whole `check`, clock reading and locked section, before the next call
reads the clock. -/
def call (s : Checks) (tokenId : String) (now : Nat) : Checks :=
  let (limiter, answer) := s.limiter.checkAt tokenId now
  { s with limiter, answers := s.answers ++ [(tokenId, now, answer)] }

/-- Calls run one after another, each with the instant it read. -/
def calls (s : Checks) (cs : List (String × Nat)) : Checks :=
  cs.foldl (fun s c => s.call c.1 c.2) s

/-- The instants of the admitted calls of the token `k`, in order. -/
def admittedOf (s : Checks) (k : String) : List Nat :=
  (s.admitted.filter (·.1 == k)).map Prod.snd

variable {s : Checks} {j k : String} {now : Nat}

/-- A call that reads the clock and then takes the lock while no other call waits is a call
run on its own. -/
theorem step_readClock_lock (hw : s.waiting = []) (c : Nat) :
  (s.step (.readClock c j now)).step (.lock c) = s.call j now
  := by
  obtain ⟨limiter, waiting, answers⟩ := s
  subst hw
  simp [step, call]

@[simp]
theorem call_limiter : (s.call j now).limiter = (s.limiter.checkAt j now).1
  := rfl

@[simp]
theorem call_waiting : (s.call j now).waiting = s.waiting
  := rfl

/-- An interleaving in which every call takes the lock before the next call reads the clock
runs the calls one after another. -/
theorem run_serialized (hw : s.waiting = []) (cs : List (Nat × String × Nat)) :
  s.run (cs.flatMap fun c => [.readClock c.1 c.2.1 c.2.2, .lock c.1]) = s.calls (cs.map Prod.snd)
  := by
  induction cs generalizing s with
  | nil => rfl
  | cons c cs ih =>
    rw [List.flatMap_cons, run, List.foldl_append]
    show ((s.step (.readClock c.1 c.2.1 c.2.2)).step (.lock c.1)).run _ = _
    rw [step_readClock_lock hw, ih (by rw [call_waiting, hw])]
    rfl

@[simp]
theorem call_answers :
  (s.call j now).answers = s.answers ++ [(j, now, (s.limiter.checkAt j now).2)]
  := rfl

@[simp]
theorem calls_nil : s.calls [] = s
  := rfl

@[simp]
theorem calls_cons (c : String × Nat) (cs : List (String × Nat)) :
  s.calls (c :: cs) = (s.call c.1 c.2).calls cs
  := rfl

theorem admittedOf_call :
  (s.call j now).admittedOf k =
    s.admittedOf k ++ if j = k ∧ (s.limiter.checkAt j now).2 = none then [now] else []
  := by
  simp only [admittedOf, admitted, call_answers, List.filterMap_append, List.filterMap_cons,
    List.filterMap_nil, Option.isNone_iff_eq_none]
  by_cases hj : j = k
  · subst hj
    by_cases ha : (s.limiter.checkAt j now).2 = none <;> simp [ha]
  · by_cases ha : (s.limiter.checkAt j now).2 = none <;> simp [ha, hj]

end Checks

/-- The instants of a list in the window `(t - 60 s, t]`. -/
def inWindow (t : Nat) (instants : List Nat) : List Nat :=
  instants.filter fun ts => t < ts + window && ts ≤ t

/-! ### The sliding window -/

namespace Checks

/-- The sliding-window invariant of the token `k` after calls up to the instant `last`: its
admitted instants are in non-decreasing order and not after `last`; its bucket is the suffix
of them that eviction has not dropped yet, every dropped instant lying a window or more
before `last`; and the bucket holds at most `perMinute` instants. -/
structure WindowInv (s : Checks) (last : Nat) (k : String) : Prop where
  sorted : (s.admittedOf k).Pairwise (· ≤ ·)
  le_last : ∀ ts ∈ s.admittedOf k, ts ≤ last
  evicted : ∃ old, s.admittedOf k = old ++ s.limiter.buckets k ∧ ∀ ts ∈ old, ts + window ≤ last
  length_le : (s.limiter.buckets k).length ≤ s.limiter.perMinute

variable {s : Checks} {j k : String} {last now : Nat}

theorem windowInv_start (perMinute : Nat) (k : String) : (start perMinute).WindowInv 0 k
  := ⟨List.Pairwise.nil, nofun, ⟨[], rfl, nofun⟩, Nat.zero_le _⟩

theorem WindowInv.mono (hi : s.WindowInv last k) {last' : Nat} (h : last ≤ last') :
  s.WindowInv last' k
  := by
  obtain ⟨hs, hle, ⟨old, hold, hw⟩, hlen⟩ := hi
  exact ⟨hs, fun ts hts => Nat.le_trans (hle ts hts) h,
    ⟨old, hold, fun ts hts => Nat.le_trans (hw ts hts) h⟩, hlen⟩

/-- A call at an instant not before `last` keeps the invariant of every token. -/
theorem WindowInv.call (hi : s.WindowInv last k) (h : last ≤ now) (j : String) :
  (s.call j now).WindowInv now k
  := by
  by_cases hj : j = k
  case neg =>
    have hA : (s.call j now).admittedOf k = s.admittedOf k := by simp [admittedOf_call, hj]
    obtain ⟨hs, hle, ⟨old, hold, hw⟩, hlen⟩ := hi.mono h
    refine ⟨hA ▸ hs, hA ▸ hle, ⟨old, ?_, hw⟩, ?_⟩
    · rw [hA, call_limiter, McpTokenRateLimiter.checkAt_buckets_of_ne hj, hold]
    · simpa [McpTokenRateLimiter.checkAt_buckets_of_ne hj] using hlen
  case pos =>
    subst hj
    obtain ⟨hs, hle, ⟨old, hold, hw⟩, hlen⟩ := hi
    have hb : (s.limiter.buckets j).takeWhile (fun ts => window ≤ now - ts) ++
        McpTokenRateLimiter.evict now (s.limiter.buckets j) = s.limiter.buckets j :=
      List.takeWhile_append_dropWhile _ _
    have hA : ∀ ts ∈ s.admittedOf j, ts ≤ now := fun ts hts => Nat.le_trans (hle ts hts) h
    have hnew : (s.call j now).admittedOf j = s.admittedOf j ++
        if (s.limiter.checkAt j now).2 = none then [now] else [] := by
      simp [admittedOf_call]
    have hext : ∀ x ∈ (if (s.limiter.checkAt j now).2 = none then [now] else []), x = now := by
      split <;> simp
    refine ⟨?_, ?_, ⟨old ++ (s.limiter.buckets j).takeWhile fun ts => window ≤ now - ts, ?_, ?_⟩,
      ?_⟩
    · rw [hnew, List.pairwise_append]
      exact ⟨hs, by split <;> simp, fun a ha b hb => hext b hb ▸ hA a ha⟩
    · rw [hnew]
      exact fun ts hts => (List.mem_append.mp hts).elim (hA ts) fun hts => Nat.le_of_eq (hext ts hts)
    · rw [hnew, call_limiter, McpTokenRateLimiter.checkAt_buckets_self, hold, List.append_assoc,
        List.append_assoc]
      congr 1
      rw [← List.append_assoc, hb]
    · intro ts hts
      rcases List.mem_append.mp hts with hts | hts
      · exact Nat.le_trans (hw ts hts) h
      · have hp := List.mem_takeWhile_imp hts
        have := hA ts (hold ▸ List.mem_append_right _ (List.takeWhile_subset _ hts))
        simp only [decide_eq_true_eq] at hp
        omega
    · rw [call_limiter, McpTokenRateLimiter.checkAt_buckets_self, McpTokenRateLimiter.checkAt_perMinute]
      have hev : (McpTokenRateLimiter.evict now (s.limiter.buckets j)).length ≤
          (s.limiter.buckets j).length :=
        (List.dropWhile_suffix _).length_le
      split
      · rename_i ha
        have := McpTokenRateLimiter.checkAt_eq_none_iff.mp ha
        simp only [List.length_append, List.length_singleton]
        omega
      · simp only [List.append_nil]
        omega

/-- Calls one after another, at non-decreasing instants not before `last`, keep the invariant
at every instant not before any of them. -/
theorem WindowInv.calls (hi : s.WindowInv last k) {cs : List (String × Nat)}
    (hsorted : (cs.map Prod.snd).Pairwise (· ≤ ·)) (hfrom : ∀ c ∈ cs, last ≤ c.2) {t : Nat}
    (hlast : last ≤ t) (hto : ∀ c ∈ cs, c.2 ≤ t) :
  (s.calls cs).WindowInv t k
  := by
  induction cs generalizing s last with
  | nil => exact hi.mono hlast
  | cons c cs ih =>
    obtain ⟨hc, hsorted⟩ := List.pairwise_cons.mp hsorted
    exact ih (hi.call (hfrom c (List.mem_cons_self _ _)) c.1) hsorted
      (fun d hd => hc d.2 (List.mem_map_of_mem _ hd)) (hto c (List.mem_cons_self _ _))
      fun d hd => hto d (List.mem_cons_of_mem _ hd)

/-- Under the invariant, a check at an instant not before `last` evicts from the bucket of `k`
exactly what leaves its admitted instants in the window. -/
theorem WindowInv.evict_eq (hi : s.WindowInv last k) (h : last ≤ now) :
  McpTokenRateLimiter.evict now (s.limiter.buckets k) = inWindow now (s.admittedOf k)
  := by
  obtain ⟨hs, hle, ⟨old, hold, hw⟩, -⟩ := hi
  have hA : ∀ ts ∈ s.admittedOf k, ts ≤ now := fun ts hts => Nat.le_trans (hle ts hts) h
  rw [hold] at hs hA
  have hold' : old.filter (fun ts => now < ts + window && ts ≤ now) = [] :=
    List.filter_eq_nil_iff.mpr fun ts hts => by
      have := hw ts hts
      simp only [Bool.and_eq_true, decide_eq_true_eq, not_and, Nat.not_le]
      omega
  rw [McpTokenRateLimiter.evict_eq_filter (List.pairwise_append.mp hs).2.1
      fun ts hts => hA ts (List.mem_append_right _ hts),
    inWindow, hold, List.filter_append, hold', List.nil_append]
  refine List.filter_congr fun ts hts => ?_
  simp [hA ts (List.mem_append_right _ hts)]

/-- Under the invariant, a call for `k` at an instant not before `last` is admitted exactly
when fewer than `perMinute` admitted calls for `k` lie in its window. -/
theorem WindowInv.checkAt_eq_none_iff (hi : s.WindowInv last k) (h : last ≤ now) :
  (s.limiter.checkAt k now).2 = none ↔ (inWindow now (s.admittedOf k)).length < s.limiter.perMinute
  := by
  rw [McpTokenRateLimiter.checkAt_eq_none_iff, hi.evict_eq h]

end Checks


/-- Under the invariant, the window of a later instant keeps only instants of the window of an
earlier one. -/
theorem inWindow_inWindow {now t : Nat} {instants : List Nat} (hle : ∀ ts ∈ instants, ts ≤ now)
    (h : now ≤ t) :
  inWindow t (inWindow now instants) = inWindow t instants
  := by
  unfold inWindow
  rw [List.filter_filter]
  refine List.filter_congr fun ts hts => ?_
  have h1 : ts ≤ now := hle ts hts
  by_cases h2 : t < ts + window
  · simp [h1, Nat.le_trans h1 h, h2, Nat.lt_of_le_of_lt h h2]
  · simp [h2]

namespace Checks

variable {s : Checks} {j k : String} {last now : Nat}

@[simp]
theorem calls_perMinute (cs : List (String × Nat)) :
  (s.calls cs).limiter.perMinute = s.limiter.perMinute
  := by
  induction cs generalizing s with
  | nil => rfl
  | cons c cs ih => simp [ih]

/-- The answers of calls one after another are to the calls' tokens, in order. -/
theorem calls_answers_fst (cs : List (String × Nat)) :
  (s.calls cs).answers.map Prod.fst = s.answers.map Prod.fst ++ cs.map Prod.fst
  := by
  induction cs generalizing s with
  | nil => simp
  | cons c cs ih => simp [ih]

/-- From empty buckets, the calls for `k` alone are answered for `k` only. -/
theorem calls_filter_answers_filter (perMinute : Nat) (cs : List (String × Nat)) (k : String) :
  ((start perMinute).calls (cs.filter (·.1 == k))).answers.filter (·.1 == k) =
    ((start perMinute).calls (cs.filter (·.1 == k))).answers
  := by
  refine List.filter_eq_self.mpr fun a ha => ?_
  have hfst := List.mem_map_of_mem Prod.fst ha
  simp only [calls_answers_fst, start, List.map_nil, List.nil_append, List.mem_map,
    List.mem_filter] at hfst
  obtain ⟨c, ⟨-, hc⟩, hca⟩ := hfst
  rwa [← hca]

/-- Two checks agree on the token `k`: the same bound, the same bucket for `k`, and the same
answers to the calls for `k`. -/
def AgreeOn (k : String) (s₁ s₂ : Checks) : Prop :=
  s₁.limiter.perMinute = s₂.limiter.perMinute ∧ s₁.limiter.buckets k = s₂.limiter.buckets k ∧
    s₁.answers.filter (·.1 == k) = s₂.answers.filter (·.1 == k)

theorem AgreeOn.call_of_ne {s₁ s₂ : Checks} (h : AgreeOn k s₁ s₂) (hj : j ≠ k) :
  AgreeOn k (s₁.call j now) s₂
  := by
  obtain ⟨hp, hb, ha⟩ := h
  refine ⟨by simpa using hp, ?_, ?_⟩
  · rw [call_limiter, McpTokenRateLimiter.checkAt_buckets_of_ne hj, hb]
  · simpa [List.filter_append, hj] using ha

theorem AgreeOn.call_self {s₁ s₂ : Checks} (h : AgreeOn k s₁ s₂) :
  AgreeOn k (s₁.call k now) (s₂.call k now)
  := by
  obtain ⟨hp, hb, ha⟩ := h
  have hcongr : (s₁.limiter.checkAt k now).2 = (s₂.limiter.checkAt k now).2 ∧
      (s₁.limiter.checkAt k now).1.buckets k = (s₂.limiter.checkAt k now).1.buckets k :=
    McpTokenRateLimiter.checkAt_congr hp hb
  obtain ⟨hanswer, hbucket⟩ := hcongr
  exact ⟨by simpa using hp, hbucket, by simp [List.filter_append, ha, hanswer]⟩

/-- Calls for other tokens change nothing that concerns `k`: running all calls agrees on `k`
with running only the calls for `k`. -/
theorem AgreeOn.calls {s₁ s₂ : Checks} (h : AgreeOn k s₁ s₂) (cs : List (String × Nat)) :
  AgreeOn k (s₁.calls cs) (s₂.calls (cs.filter (·.1 == k)))
  := by
  induction cs generalizing s₁ s₂ with
  | nil => exact h
  | cons c cs ih =>
    by_cases hc : c.1 = k
    · obtain ⟨j, now⟩ := c
      subst hc
      rw [List.filter_cons_of_pos (by simp), calls_cons, calls_cons]
      exact ih h.call_self
    · rw [List.filter_cons_of_neg (by simpa using hc), calls_cons]
      exact ih (h.call_of_ne hc)

/-- Under the invariant and a bound of at least one call, a call for `k` refused at `now` is
told to retry after `r ≥ 1` seconds, and `r` seconds later, unless a call for `k` has been
admitted meanwhile, fewer than `perMinute` of its admitted calls lie in the window. -/
theorem WindowInv.retry_after (hi : s.WindowInv last k) (h : last ≤ now)
    (hpm : 1 ≤ s.limiter.perMinute) {r : Nat} (hr : (s.limiter.checkAt k now).2 = some r) :
  1 ≤ r ∧ ∀ t, now + r * 1000000000 ≤ t →
    (inWindow t (s.admittedOf k)).length < s.limiter.perMinute
  := by
  have hE := hi.evict_eq h
  have hrefused : s.limiter.perMinute ≤ (McpTokenRateLimiter.evict now (s.limiter.buckets k)).length :=
    Nat.le_of_not_lt fun hlt => by simp [McpTokenRateLimiter.checkAt_eq_none_iff.mpr hlt] at hr
  have hlen : (McpTokenRateLimiter.evict now (s.limiter.buckets k)).length ≤ s.limiter.perMinute :=
    Nat.le_trans (List.dropWhile_suffix _).length_le hi.length_le
  have hA : ∀ ts ∈ s.admittedOf k, ts ≤ now := fun ts hts => Nat.le_trans (hi.le_last ts hts) h
  cases hev : McpTokenRateLimiter.evict now (s.limiter.buckets k) with
  | nil => simp [hev] at hrefused; omega
  | cons oldest rest =>
    rw [hev] at hE hrefused hlen
    have hr' : r = (window - (now - oldest)) / 1000000000 + 1 := by
      unfold McpTokenRateLimiter.checkAt at hr
      simp only [hev, if_pos hrefused, List.head?_cons, Option.some.injEq] at hr
      exact hr.symm
    have hold : now < oldest + window ∧ oldest ≤ now := by
      have : oldest ∈ inWindow now (s.admittedOf k) := hE ▸ List.mem_cons_self _ _
      simpa [inWindow] using (List.mem_filter.mp this).2
    refine ⟨by omega, fun t ht => ?_⟩
    rw [← inWindow_inWindow hA (by omega), ← hE, inWindow,
      List.filter_cons_of_neg (by simp only [Bool.and_eq_true, decide_eq_true_eq, not_and]; omega)]
    simp only [List.length_cons] at hlen
    exact Nat.lt_of_le_of_lt (List.length_filter_le _ _) (by omega)

end Checks

/-- What the limiter promises to the calls `cs`, run one after another from empty buckets under
the bound `perMinute`, at every instant `t` not before any of them; `s` is the state they
leave behind. -/
structure SlidingWindowLaw (perMinute : Nat) (cs : List (String × Nat)) (s : Checks) : Prop where
  /-- The bucket of every token is in non-decreasing order, and a check at `t` evicts from it
  exactly what leaves the token's admitted instants in `(t - 60 s, t]`. -/
  bucket : ∀ k t, (∀ c ∈ cs, c.2 ≤ t) →
    (s.limiter.buckets k).Pairwise (· ≤ ·) ∧
      McpTokenRateLimiter.evict t (s.limiter.buckets k) = inWindow t (s.admittedOf k)
  /-- A call for `k` at `t` is admitted exactly when fewer than `perMinute` earlier admitted
  calls for `k` lie in `(t - 60 s, t]`. -/
  admitted_iff : ∀ k t, (∀ c ∈ cs, c.2 ≤ t) →
    ((s.limiter.checkAt k t).2 = none ↔ (inWindow t (s.admittedOf k)).length < perMinute)
  /-- The answers to the calls for `k` are the answers they get when no other token calls. -/
  independent : ∀ k,
    s.answers.filter (·.1 == k) = ((Checks.start perMinute).calls (cs.filter (·.1 == k))).answers
  /-- A call for `k` refused at `t` is told to retry after `r ≥ 1` seconds; after further calls,
  none of them an admitted call for `k`, a call for `k` at least `r` seconds after `t` is
  admitted. -/
  retry : ∀ k t r, (∀ c ∈ cs, c.2 ≤ t) → (s.limiter.checkAt k t).2 = some r →
    1 ≤ r ∧ ∀ (mid : List (String × Nat)) (t' : Nat), (mid.map Prod.snd).Pairwise (· ≤ ·) →
      (∀ c ∈ mid, t ≤ c.2 ∧ c.2 ≤ t') → ((s.call k t).calls mid).admittedOf k = s.admittedOf k →
      t + r * 1000000000 ≤ t' → (((s.call k t).calls mid).limiter.checkAt k t').2 = none

/-- Calls one after another at non-decreasing instants obey the sliding-window law. -/
theorem slidingWindowLaw_calls (perMinute : Nat) (hpm : 1 ≤ perMinute)
    (cs : List (String × Nat)) (hsorted : (cs.map Prod.snd).Pairwise (· ≤ ·)) :
  SlidingWindowLaw perMinute cs ((Checks.start perMinute).calls cs)
  := by
  have hinv : ∀ k t, (∀ c ∈ cs, c.2 ≤ t) → ((Checks.start perMinute).calls cs).WindowInv t k :=
    fun k t hto => (Checks.windowInv_start perMinute k).calls hsorted (fun _ _ => Nat.zero_le _)
      (Nat.zero_le _) hto
  refine ⟨fun k t hto => ⟨?_, (hinv k t hto).evict_eq le_rfl⟩,
    fun k t hto => by simpa using (hinv k t hto).checkAt_eq_none_iff le_rfl, fun k => ?_,
    fun k t r hto hr => ?_⟩
  · obtain ⟨hs, -, ⟨old, hold, -⟩, -⟩ := hinv k t hto
    exact (List.pairwise_append.mp (hold ▸ hs)).2.1
  · have hagree : Checks.AgreeOn k (Checks.start perMinute) (Checks.start perMinute) :=
      ⟨rfl, rfl, rfl⟩
    obtain ⟨-, -, hanswers⟩ := hagree.calls cs
    rw [hanswers, Checks.calls_filter_answers_filter]
  · have hi := hinv k t hto
    obtain ⟨hr1, hafter⟩ := hi.retry_after le_rfl (by simpa using hpm) hr
    refine ⟨hr1, fun mid t' hmid hbetween hnone ht' => ?_⟩
    have hi' := (hi.call le_rfl k).calls hmid (fun c hc => (hbetween c hc).1) (by omega)
      fun c hc => (hbetween c hc).2
    rw [hi'.checkAt_eq_none_iff le_rfl, hnone]
    simpa using hafter t' ht'

/-- Calls for any tokens, one after another at non-decreasing instants, under a bound of at
least one call a minute: every bucket, evicted at an instant not before the last call, holds
the token's admitted instants of the last minute; a call is admitted exactly when fewer than
`perMinute` admitted calls of its token lie in its window; a token's answers do not depend
on the other tokens' calls; and a refused call may retry after the seconds it is told. -/
theorem sequential_checks_sliding_window (perMinute : Nat) (hpm : 1 ≤ perMinute)
    (cs : List (String × Nat)) (hsorted : (cs.map Prod.snd).Pairwise (· ≤ ·)) :
  SlidingWindowLaw perMinute cs ((Checks.start perMinute).calls cs)
  := slidingWindowLaw_calls perMinute hpm cs hsorted

theorem sequential_checks_sliding_window_one_call :
  1 ≤ 1 ∧ ([("k", 0)].map Prod.snd).Pairwise (· ≤ ·) ∧
    SlidingWindowLaw 1 [("k", 0)] ((Checks.start 1).calls [("k", 0)])
  := ⟨le_rfl, by decide, sequential_checks_sliding_window 1 le_rfl [("k", 0)] (by decide)⟩

/-- Eviction is lazy: under two calls a minute, after two calls for `k` at 0 s and one for `j`
at 100 s, the bucket of `k` still holds both instants, 100 s old and equal, while none of the
admitted calls for `k` lies in the window of the last call. -/
theorem bucket_keeps_stale_instants :
  ((Checks.start 2).calls [("k", 0), ("k", 0), ("j", 100000000000)]).limiter.buckets "k" =
      [0, 0] ∧
    inWindow 100000000000
      (((Checks.start 2).calls [("k", 0), ("k", 0), ("j", 100000000000)]).admittedOf "k") = []
  := by decide


/-- The concurrent checks obey the sliding-window law whenever they do not overlap: in every
interleaving in which each call takes the lock before the next call reads the clock, at
non-decreasing instants and under a bound of at least one call a minute, the answers are
those of the calls run one after another, and `SlidingWindowLaw` holds of them. -/
theorem serialized_checks_sliding_window (perMinute : Nat) (hpm : 1 ≤ perMinute)
    (cs : List (Nat × String × Nat)) (hsorted : (cs.map fun c => c.2.2).Pairwise (· ≤ ·)) :
  SlidingWindowLaw perMinute (cs.map Prod.snd)
    ((Checks.start perMinute).run (cs.flatMap fun c => [.readClock c.1 c.2.1 c.2.2, .lock c.1]))
  := by
  rw [Checks.run_serialized rfl]
  exact slidingWindowLaw_calls perMinute hpm _ (by simpa [List.map_map] using hsorted)

theorem serialized_checks_sliding_window_two_calls :
  1 ≤ 2 ∧ ([(0, "t", 0), (1, "t", 1000000000)].map fun c => c.2.2).Pairwise (· ≤ ·) ∧
    SlidingWindowLaw 2 ([(0, "t", 0), (1, "t", 1000000000)].map Prod.snd)
      ((Checks.start 2).run ([(0, "t", 0), (1, "t", 1000000000)].flatMap fun c =>
        [.readClock c.1 c.2.1 c.2.2, .lock c.1]))
  := ⟨by decide, by decide, serialized_checks_sliding_window 2 (by decide)
    [(0, "t", 0), (1, "t", 1000000000)] (by decide)⟩

end UblGate
