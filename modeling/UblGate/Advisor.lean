import Mathlib.Data.String.Basic
import UblGate.Text

/-!
# The advisor window

`GET /v1/advisor/snapshots` and `GET /v1/advisor/tap` read the length of their window from
the `window` query parameter with `parse_window_duration`: the parameter, trimmed, is a
count of milliseconds, or a count followed by one unit character, `s`, `m` or `h` in either
case.  Anything else leaves the default of five minutes.  Durations are nanoseconds.

To split off the unit, `parse_window_duration` calls `split_at` one byte before the end of
the text, which is a character boundary only when the last character is a single byte.
`parseWindowDuration_some` says what it returns for every parameter: the window the routes'
contract describes, `claimedWindow`, except that a parameter that is not a plain count and
ends in a character of several bytes makes `split_at` panic
(`parseWindowDuration_panics_of_multibyte_last`).
-/

namespace UblGate

/-- `u64::saturating_mul`. -/
def saturatingMul (a b : Nat) : Nat :=
  min (a * b) (2 ^ 64 - 1)

/-- `Duration::from_millis`, in nanoseconds. -/
def Duration.fromMillis (ms : Nat) : Nat :=
  ms * 1000000

/-- `Duration::from_secs`, in nanoseconds. -/
def Duration.fromSecs (secs : Nat) : Nat :=
  secs * 1000000000

/-- `parse_window_duration`, with its panic as an error. -/
def parseWindowDuration (input : Option String) : Except String (Option Nat) := do
  let some input := input | return none
  let raw := Str.trim input
  if raw.isEmpty then return none
  if let some ms := Str.parseU64 raw then return some (Duration.fromMillis ms)
  let (num, unit) ← Str.splitAt raw (Str.len raw - 1)
  let some value := Str.parseU64 num | return none
  match unit with
  | "s" | "S" => return some (Duration.fromSecs value)
  | "m" | "M" => return some (Duration.fromSecs (saturatingMul value 60))
  | "h" | "H" => return some (Duration.fromSecs (saturatingMul value 3600))
  | _ => return none

/-- The window `advisor_snapshots` and `advisor_tap` use once an event store is configured:
the `window` parameter, five minutes when it gives none. -/
def advisorWindow (window : Option String) : Except String Nat :=
  (parseWindowDuration window).map fun d => d.getD (Duration.fromSecs 300)

/-! ### Splitting at a byte index -/

namespace Str

theorem splitAtByte_cons_of_pos {c : Char} {cs : List Char} {mid : Nat} (h : 0 < mid) :
  splitAtByte (c :: cs) mid =
    if c.utf8Size ≤ mid then (splitAtByte cs (mid - c.utf8Size)).map fun (a, b) => (c :: a, b)
    else none
  := by
  obtain ⟨m, rfl⟩ : ∃ m, mid = m + 1 := ⟨mid - 1, by omega⟩
  rfl

/-- `split_at` at the byte length of a prefix splits off that prefix. -/
theorem splitAtByte_utf8Len (a b : List Char) :
  splitAtByte (a ++ b) (String.utf8Len a) = some (a, b)
  := by
  induction a with
  | nil => cases b <;> rfl
  | cons x a ih =>
    have := x.utf8Size_pos
    rw [List.cons_append, String.utf8Len_cons, splitAtByte_cons_of_pos (by omega),
      if_pos (by omega), Nat.add_sub_cancel, ih]
    rfl

/-- `split_at` at a byte inside a character panics. -/
theorem splitAtByte_inside (a b : List Char) (c : Char) {k : Nat} (hk : 0 < k)
    (hkc : k < c.utf8Size) :
  splitAtByte (a ++ c :: b) (String.utf8Len a + k) = none
  := by
  induction a with
  | nil => rw [List.nil_append, String.utf8Len_nil, Nat.zero_add,
      splitAtByte_cons_of_pos hk, if_neg (by omega)]
  | cons x a ih =>
    have := x.utf8Size_pos
    rw [List.cons_append, String.utf8Len_cons, splitAtByte_cons_of_pos (by omega),
      if_pos (by omega), show String.utf8Len a + x.utf8Size + k - x.utf8Size =
        String.utf8Len a + k by omega, ih]
    rfl

theorem mk_singleton_eq {c : Char} {s : String} : (⟨[c]⟩ : String) = s ↔ [c] = s.data
  := ⟨fun h => h ▸ rfl, String.ext⟩

end Str

/-! ### What the window is -/

/-- A count `n` followed by the unit character `u`: `n` seconds, minutes or hours, with
saturating multiplication. -/
def unitDuration (u : Char) (n : Nat) : Option Nat :=
  if u = 's' ∨ u = 'S' then some (Duration.fromSecs n)
  else if u = 'm' ∨ u = 'M' then some (Duration.fromSecs (saturatingMul n 60))
  else if u = 'h' ∨ u = 'H' then some (Duration.fromSecs (saturatingMul n 3600))
  else none

/-- The window of a trimmed parameter `t` as the routes' contract describes it: none for an
empty `t`; `n` milliseconds when `t` is a `u64` text for `n`; and when `t` is such a text
followed by one unit character, that many seconds, minutes or hours. -/
def claimedWindow (t : String) : Option Nat :=
  if t.isEmpty then none
  else
    match Str.parseU64 t with
    | some n => some (Duration.fromMillis n)
    | none =>
      match t.data.getLast? with
      | some u => (Str.parseU64 ⟨t.data.dropLast⟩).bind (unitDuration u)
      | none => none

/-- Whether the last character of `t` takes more than one byte. -/
def lastCharMultibyte (t : String) : Bool :=
  match t.data.getLast? with
  | some c => decide (1 < c.utf8Size)
  | none => false

/-- The trimmed parameter split before its last character, with that character. -/
private theorem trim_data_eq {t : String} (h : t.isEmpty = false) :
  ∃ init c, t.data = init ++ [c] ∧ t.data.getLast? = some c ∧ t.data.dropLast = init
  := by
  rcases List.eq_nil_or_concat t.data with hnil | ⟨init, c, hc⟩
  · exact absurd ((String.isEmpty_iff t).mpr (String.ext hnil)) (by simp [h])
  · rw [List.concat_eq_append] at hc
    exact ⟨init, c, hc, by simp [hc], by simp [hc]⟩

private theorem unit_match_eq (c : Char) (value : Nat) :
  (match (⟨[c]⟩ : String) with
    | "s" | "S" => (pure (some (Duration.fromSecs value)) : Except String (Option Nat))
    | "m" | "M" => pure (some (Duration.fromSecs (saturatingMul value 60)))
    | "h" | "H" => pure (some (Duration.fromSecs (saturatingMul value 3600)))
    | _ => pure none) = .ok (unitDuration c value)
  := by
  unfold unitDuration
  split <;> simp_all [Str.mk_singleton_eq, pure, Except.pure]

/-- What `parse_window_duration` does with every parameter: it panics when the trimmed text
is not a `u64` text and ends in a character of several bytes, and otherwise returns the
window of `claimedWindow`. -/
theorem parseWindowDuration_some (s : String) :
  parseWindowDuration (some s) =
    if Str.parseU64 (Str.trim s) = none ∧ lastCharMultibyte (Str.trim s) = true then
      .error ("byte index " ++ toString (Str.len (Str.trim s) - 1) ++ " is not a char boundary")
    else .ok (claimedWindow (Str.trim s))
  := by
  simp only [parseWindowDuration, claimedWindow, lastCharMultibyte]
  cases hempty : (Str.trim s).isEmpty
  case true =>
    have : (Str.trim s).data = [] := by
      rw [(String.isEmpty_iff _).mp hempty]
    simp [this, pure, Except.pure, bind, Except.bind]
  case false =>
    cases hparse : Str.parseU64 (Str.trim s)
    case some ms => simp [pure, Except.pure, bind, Except.bind]
    case none =>
      obtain ⟨init, c, hdata, hlast, hdrop⟩ := trim_data_eq hempty
      have hlen : Str.len (Str.trim s) = String.utf8Len init + c.utf8Size := by
        have hbytes : ∀ t : String, Str.len t = String.utf8Len t.data := fun ⟨_⟩ => rfl
        rw [hbytes, hdata, String.utf8Len_append]
        simp
      simp only [hlast, hdrop, Bool.false_eq_true, if_false, true_and, decide_eq_true_eq]
      by_cases hc : 1 < c.utf8Size
      · have hnone : Str.splitAtByte (Str.trim s).data (Str.len (Str.trim s) - 1) = none := by
          rw [hdata, hlen, show String.utf8Len init + c.utf8Size - 1 =
            String.utf8Len init + (c.utf8Size - 1) by omega]
          exact Str.splitAtByte_inside init [] c (by omega) (by omega)
        simp [hc, Str.splitAt, hnone, bind, Except.bind, pure, Except.pure]
      · have hone : c.utf8Size = 1 := by have := c.utf8Size_pos; omega
        have hsplit : Str.splitAtByte (Str.trim s).data (Str.len (Str.trim s) - 1) =
            some (init, [c]) := by
          rw [hdata, hlen, hone, Nat.add_sub_cancel]
          exact Str.splitAtByte_utf8Len init [c]
        simp only [hc, if_false, Str.splitAt, hsplit, bind, Except.bind, pure, Except.pure]
        cases Str.parseU64 ⟨init⟩ with
        | none => rfl
        | some value => exact unit_match_eq c value

/-- A parameter that, once trimmed, is not a `u64` text and ends in a character of several
bytes makes `parse_window_duration` panic, and with it the advisor route that reads it. -/
theorem parseWindowDuration_panics_of_multibyte_last {s : String}
    (hparse : Str.parseU64 (Str.trim s) = none)
    (hlast : lastCharMultibyte (Str.trim s) = true) :
  (∃ e, parseWindowDuration (some s) = .error e) ∧ ∃ e, advisorWindow (some s) = .error e
  := by
  have h := parseWindowDuration_some s
  rw [if_pos ⟨hparse, hlast⟩] at h
  exact ⟨⟨_, h⟩, ⟨_, by rw [advisorWindow, h]; rfl⟩⟩

theorem parseWindowDuration_panics_at_five_e_acute :
  Str.parseU64 (Str.trim "5é") = none ∧ lastCharMultibyte (Str.trim "5é") = true ∧
    (∃ e, parseWindowDuration (some "5é") = .error e) ∧ ∃ e, advisorWindow (some "5é") = .error e
  := ⟨by decide, by decide, parseWindowDuration_panics_of_multibyte_last (by decide) (by decide)⟩

/-! ### Windows read back -/

theorem isEmpty_of_data_eq_cons {s : String} {d : Char} {rest : List Char}
    (h : s.data = d :: rest) : s.isEmpty = false
  := Bool.eq_false_iff.mpr fun e => by simp [(String.isEmpty_iff _).mp e] at h

/-- The text of a count followed by a unit character: the count's digits, then the unit. -/
theorem countUnit_data (n : Nat) (u : Char) :
  ∃ d rest, (toString n ++ ⟨[u]⟩).data = d :: (rest ++ [u]) ∧ (toString n).data = d :: rest ∧
    ∀ c ∈ d :: rest, c.isDigit = true
  := by
  obtain ⟨d, rest, hdata, hall, -⟩ := Str.toString_digits n
  exact ⟨d, rest, by rw [String.data_append, hdata]; rfl, hdata, hall⟩

/-- Every window written the way the routes' contract describes is read as it says: a count
of milliseconds, and a count followed by a unit character that is neither a digit nor
whitespace, whose window is the one `unitDuration` gives when the unit is a single byte.  A
unit of several bytes is where `split_at` panics. -/
theorem parseWindowDuration_count {n : Nat} (hn : n ≤ 18446744073709551615) :
  parseWindowDuration (some (toString n)) = .ok (some (Duration.fromMillis n)) ∧
    ∀ u : Char, u.isDigit = false → Str.isWhitespace u = false →
      if u.utf8Size = 1 then
        parseWindowDuration (some (toString n ++ ⟨[u]⟩)) = .ok (unitDuration u n)
      else ∃ e, parseWindowDuration (some (toString n ++ ⟨[u]⟩)) = .error e
  := by
  have hparse := Str.parseU64_toString hn
  constructor
  · obtain ⟨d, rest, hdata, hall, -⟩ := Str.toString_digits n
    have htrim : Str.trim (toString n) = toString n :=
      Str.trim_of_forall fun c hc => Str.isWhitespace_of_isDigit (hall c (hdata ▸ hc))
    rw [parseWindowDuration_some, htrim, hparse]
    simp [claimedWindow, hparse, isEmpty_of_data_eq_cons hdata]
  · intro u hu hws
    obtain ⟨d, rest, hdata, hdigits, hall⟩ := countUnit_data n u
    have htrim : Str.trim (toString n ++ ⟨[u]⟩) = toString n ++ ⟨[u]⟩ := by
      refine Str.trim_of_forall fun c hc => ?_
      rw [hdata, ← List.cons_append, List.mem_append, List.mem_singleton] at hc
      rcases hc with hc | rfl
      · exact Str.isWhitespace_of_isDigit (hall c hc)
      · exact hws
    have hnone : Str.parseU64 (toString n ++ ⟨[u]⟩) = none :=
      Str.parseU64_eq_none_of_tail (by simp [hdata]) hu
    have hlast : (toString n ++ ⟨[u]⟩).data.getLast? = some u := by
      rw [hdata, ← List.cons_append, List.getLast?_append_of_ne_nil _ (List.cons_ne_nil _ _)]
      rfl
    have hinit : (⟨(toString n ++ ⟨[u]⟩).data.dropLast⟩ : String) = toString n := by
      rw [hdata, ← List.cons_append, List.dropLast_concat, ← hdigits]
    rw [parseWindowDuration_some, htrim]
    split
    · next hone =>
      rw [if_neg (by simp [lastCharMultibyte, hlast, hone])]
      simp [claimedWindow, hnone, hlast, hinit, hparse, isEmpty_of_data_eq_cons hdata]
    · next hmany =>
      have hmulti : lastCharMultibyte (toString n ++ ⟨[u]⟩) = true := by
        have := u.utf8Size_pos
        simp only [lastCharMultibyte, hlast, decide_eq_true_eq]
        omega
      exact ⟨_, if_pos ⟨hnone, hmulti⟩⟩

theorem parseWindowDuration_count_five :
  5 ≤ 18446744073709551615 ∧
    (parseWindowDuration (some (toString 5)) = .ok (some (Duration.fromMillis 5)) ∧
      ∀ u : Char, u.isDigit = false → Str.isWhitespace u = false →
        if u.utf8Size = 1 then
          parseWindowDuration (some (toString 5 ++ ⟨[u]⟩)) = .ok (unitDuration u 5)
        else ∃ e, parseWindowDuration (some (toString 5 ++ ⟨[u]⟩)) = .error e)
  := ⟨by decide, parseWindowDuration_count (by decide)⟩

end UblGate
