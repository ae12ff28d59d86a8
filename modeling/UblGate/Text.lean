import Mathlib.Data.List.DropRight

/-!
# Rust string slices

The `str` methods the gate calls on header values, worlds and query parameters, on the
characters of a Lean `String`: `trim` and `trim_end_matches` drop characters from the
ends, `strip_prefix` and `starts_with` compare with a prefix, `split_once` cuts at the
first occurrence of a character, `contains` looks for a pattern, and `to_ascii_lowercase`,
`to_ascii_uppercase` and `eq_ignore_ascii_case` work up to ASCII case.
A Rust `&str` is valid UTF-8, so its methods that work on bytes agree with these on
characters.

Trimming leaves exactly the texts that neither begin nor end with whitespace unchanged, so it
is idempotent (`trim_eq_self_iff`, `trim_trim`), and `u64::from_str` and `i64::from_str` read
back the decimal text of every number in their range (`parseU64_toString`,
`parseI64_toString`).
-/

namespace UblGate

namespace Str

/-- `char::is_whitespace`: the characters with the Unicode `White_Space` property. -/
def isWhitespace (c : Char) : Bool :=
  let n := c.toNat
  (0x09 ≤ n && n ≤ 0x0D) || n == 0x20 || n == 0x85 || n == 0xA0 || n == 0x1680
    || (0x2000 ≤ n && n ≤ 0x200A) || n == 0x2028 || n == 0x2029 || n == 0x202F
    || n == 0x205F || n == 0x3000

/-- The string without its longest suffix of characters satisfying `p`. -/
def dropEndWhile (p : Char → Bool) (s : String) : String :=
  ⟨(s.data.reverse.dropWhile p).reverse⟩

/-- `str::trim`: the string without leading and trailing whitespace. -/
def trim (s : String) : String :=
  dropEndWhile isWhitespace ⟨s.data.dropWhile isWhitespace⟩

/-- `str::trim_matches` with a character pattern: every leading and trailing `c` removed. -/
def trimMatches (s : String) (c : Char) : String :=
  dropEndWhile (· == c) ⟨s.data.dropWhile (· == c)⟩

/-- `str::trim_start_matches` with a character pattern: every leading `c` removed. -/
def trimStartMatches (s : String) (c : Char) : String :=
  ⟨s.data.dropWhile (· == c)⟩

/-- `str::trim_start_matches` with a string pattern: every leading copy of `p` removed, none
when `p` is empty. -/
def trimStartMatchesStr (s p : String) : String :=
  ⟨go s.data.length s.data⟩
where
  /-- At most `fuel` leading copies of `p` removed; each copy takes a character, so the length
  of the text is fuel enough (`startsWith_trimStartMatchesStr`). -/
  go : Nat → List Char → List Char
    | 0, cs => cs
    | fuel + 1, cs =>
      if !p.data.isEmpty && p.data.isPrefixOf cs then go fuel (cs.drop p.length) else cs

/-- `str::trim_end_matches` with a character pattern: every trailing `c` removed. -/
def trimEndMatches (s : String) (c : Char) : String :=
  dropEndWhile (· == c) s

/-- `str::strip_prefix`: the rest of `s` after the prefix `p`, when `s` starts with `p`. -/
def stripPrefix (s p : String) : Option String :=
  if p.data.isPrefixOf s.data then some ⟨s.data.drop p.length⟩ else none

/-- `str::starts_with`. -/
def startsWith (s p : String) : Bool :=
  p.data.isPrefixOf s.data

/-- `str::split_once` with a character pattern: the parts before and after the first `c`. -/
def splitOnce (s : String) (c : Char) : Option (String × String) :=
  if c ∈ s.data then
    some (⟨s.data.takeWhile (· != c)⟩, ⟨(s.data.dropWhile (· != c)).drop 1⟩)
  else none

/-- `str::to_ascii_lowercase`. -/
def toAsciiLowercase (s : String) : String :=
  ⟨s.data.map Char.toLower⟩

/-- `str::to_ascii_uppercase`. -/
def toAsciiUppercase (s : String) : String :=
  ⟨s.data.map Char.toUpper⟩

/-- `str::contains` with a string pattern: `p` occurs in `s` at some character position. -/
def contains (s p : String) : Bool :=
  go s.data
where
  /-- Whether `p` occurs in the characters at some position. -/
  go : List Char → Bool
    | [] => p.data.isPrefixOf []
    | c :: cs => p.data.isPrefixOf (c :: cs) || go cs

/-- `str::len`: the length of the UTF-8 encoding, in bytes. -/
def len (s : String) : Nat :=
  s.utf8ByteSize

/-- The characters before and after the byte offset `mid` of their UTF-8 encoding, when `mid`
falls between two characters or at an end. -/
def splitAtByte : List Char → Nat → Option (List Char × List Char)
  | cs, 0 => some ([], cs)
  | [], _ + 1 => none
  | c :: cs, mid + 1 =>
    if c.utf8Size ≤ mid + 1 then
      (splitAtByte cs (mid + 1 - c.utf8Size)).map fun (a, b) => (c :: a, b)
    else none

/-- `str::split_at`: the parts before and after the byte index `mid`.  It panics, here an
error, when `mid` is not on a character boundary. -/
def splitAt (s : String) (mid : Nat) : Except String (String × String) :=
  match splitAtByte s.data mid with
  | some (a, b) => .ok (⟨a⟩, ⟨b⟩)
  | none => .error ("byte index " ++ toString mid ++ " is not a char boundary")

/-- `i64::from_str`: an optional sign, then one or more ASCII digits, of a value in the range of
`i64`. -/
def parseI64 (s : String) : Option Int :=
  let (negative, digits) := match s.data with
    | '-' :: digits => (true, digits)
    | '+' :: digits => (false, digits)
    | digits => (false, digits)
  if !digits.isEmpty && digits.all Char.isDigit then
    let value := digits.foldl (fun n c => 10 * n + (c.toNat - '0'.toNat)) 0
    if negative then (if value ≤ 9223372036854775808 then some (-(value : Int)) else none)
    else if value ≤ 9223372036854775807 then some (value : Int) else none
  else none

/-- `str::is_char_boundary`: whether the byte offset `i` falls between two characters or at an
end. -/
def isCharBoundary (s : String) (i : Nat) : Bool :=
  (splitAtByte s.data i).isSome

/-- `u64::from_str`: an optional `+`, then one or more ASCII digits, of a value at most
`u64::MAX`. -/
def parseU64 (s : String) : Option Nat :=
  let digits := match s.data with
    | '+' :: digits => digits
    | digits => digits
  if !digits.isEmpty && digits.all Char.isDigit then
    let value := digits.foldl (fun n c => 10 * n + (c.toNat - '0'.toNat)) 0
    if value ≤ 18446744073709551615 then some value else none
  else none

/-- `u32::from_str`: as `u64::from_str`, of a value at most `u32::MAX`. -/
def parseU32 (s : String) : Option Nat :=
  (parseU64 s).filter fun v => v ≤ 4294967295

/-- `str::eq_ignore_ascii_case`. -/
def eqIgnoreAsciiCase (a b : String) : Bool :=
  a.data.map Char.toLower == b.data.map Char.toLower

@[simp]
theorem data_dropEndWhile (p : Char → Bool) (s : String) :
  (dropEndWhile p s).data = (s.data.reverse.dropWhile p).reverse
  := rfl

theorem stripPrefix_eq_some {s p r : String} :
  stripPrefix s p = some r ↔ s.data = p.data ++ r.data
  := by
  unfold stripPrefix
  split
  · rename_i h
    obtain ⟨u, hu⟩ := List.isPrefixOf_iff_prefix.mp h
    rw [← hu, String.length, List.drop_left, Option.some.injEq]
    exact ⟨fun h => h ▸ rfl, fun h => String.ext (List.append_cancel_left h)⟩
  · rename_i h
    refine ⟨nofun, fun h' => absurd ?_ h⟩
    exact List.isPrefixOf_iff_prefix.mpr ⟨r.data, h'.symm⟩

/-! ### Numbers read back

`u64::from_str` and `i64::from_str` read back the decimal text of every number in their range:
the digits `Nat.repr` writes are ASCII digits, none of them a sign or whitespace, and the digit
loop of `from_str` folds them back into the number. -/

theorem digitChar_isDigit : ∀ d < 10, (Nat.digitChar d).isDigit = true ∧
    (Nat.digitChar d).toNat - '0'.toNat = d
  := by
  decide

/-- One turn of the digit loop of `Nat.repr`. -/
theorem toDigitsCore_succ (fuel n : Nat) (ds : List Char) :
  Nat.toDigitsCore 10 (fuel + 1) n ds =
    if n / 10 = 0 then Nat.digitChar (n % 10) :: ds
    else Nat.toDigitsCore 10 fuel (n / 10) (Nat.digitChar (n % 10) :: ds)
  := rfl

/-- The digits `Nat.toDigitsCore` writes in front of digits `ds` are digits, and the digit loop
reads them back as the number followed by `ds`. -/
theorem toDigitsCore_spec (fuel : Nat) : ∀ (n : Nat) (ds : List Char), n < fuel →
    (∀ c ∈ ds, c.isDigit = true) →
    ∃ d rest, Nat.toDigitsCore 10 fuel n ds = d :: rest ∧ (∀ c ∈ d :: rest, c.isDigit = true) ∧
      (d :: rest).foldl (fun n c => 10 * n + (c.toNat - '0'.toNat)) 0 =
        ds.foldl (fun n c => 10 * n + (c.toNat - '0'.toNat)) n
  := by
  induction fuel with
  | zero => intro n ds h; omega
  | succ fuel ih =>
    intro n ds hn hds
    have hd := digitChar_isDigit (n % 10) (Nat.mod_lt _ (by decide))
    have hdigits : ∀ c ∈ Nat.digitChar (n % 10) :: ds, c.isDigit = true :=
      List.forall_mem_cons.mpr ⟨hd.1, hds⟩
    rw [toDigitsCore_succ]
    split
    · next hlast =>
      refine ⟨_, ds, rfl, hdigits, ?_⟩
      rw [List.foldl_cons, hd.2, show 10 * 0 + n % 10 = n by omega]
    · next hmore =>
      obtain ⟨d, rest, heq, hall, hval⟩ := ih (n / 10) _ (by omega) hdigits
      refine ⟨d, rest, heq, hall, ?_⟩
      rw [hval, List.foldl_cons, hd.2, Nat.div_add_mod]

/-- The text of a number is a nonempty run of digits that the digit loop reads back. -/
theorem toString_digits (n : Nat) :
    ∃ d rest, (toString n).data = d :: rest ∧ (∀ c ∈ d :: rest, c.isDigit = true) ∧
      (d :: rest).foldl (fun n c => 10 * n + (c.toNat - '0'.toNat)) 0 = n
  := toDigitsCore_spec (n + 1) n [] (Nat.lt_succ_self n) nofun

theorem digits_check {d : Char} {rest : List Char} (hall : ∀ c ∈ d :: rest, c.isDigit = true) :
    (!(d :: rest).isEmpty && (d :: rest).all Char.isDigit) = true
  := by
  simpa using hall

theorem parseU64_toString {n : Nat} (hn : n ≤ 18446744073709551615) :
    parseU64 (toString n) = some n
  := by
  obtain ⟨d, rest, hdata, hall, hval⟩ := toString_digits n
  unfold parseU64
  rw [hdata]
  split
  · next _ digits hplus =>
    exact absurd ((List.cons.inj hplus).1 ▸ hall d (List.mem_cons_self _ _)) (by decide)
  · dsimp only
    rw [if_pos (digits_check hall), hval, if_pos hn]

theorem parseI64_toString {i : Int} (hlo : -9223372036854775808 ≤ i)
    (hhi : i ≤ 9223372036854775807) : parseI64 (toString i) = some i
  := by
  unfold parseI64
  cases i with
  | ofNat n =>
    obtain ⟨d, rest, hdata, hall, hval⟩ := toString_digits n
    have hd := hall d (List.mem_cons_self _ _)
    rw [show (toString (Int.ofNat n)).data = d :: rest from hdata]
    split
    next negative digits hsign =>
    split at hsign
    · next hminus => exact absurd ((List.cons.inj hminus).1 ▸ hd) (by decide)
    · next hplus => exact absurd ((List.cons.inj hplus).1 ▸ hd) (by decide)
    · cases hsign
      rw [if_pos (digits_check hall)]
      dsimp only
      rw [hval, if_neg Bool.false_ne_true, if_pos (Int.ofNat_le.mp hhi)]
      rfl
  | negSucc m =>
    obtain ⟨d, rest, hdata, hall, hval⟩ := toString_digits (m + 1)
    rw [show (toString (Int.negSucc m)).data = '-' :: d :: rest by rw [← hdata]; rfl]
    rw [Int.negSucc_eq] at hlo
    split
    next negative digits hsign =>
    split at hsign
    · next hminus =>
      cases hsign
      obtain rfl := (List.cons.inj hminus).2
      rw [if_pos (digits_check hall)]
      dsimp only
      rw [hval, if_pos rfl, if_pos (by omega), Int.negSucc_eq]
      rfl
    · next hplus => cases hplus
    · next hminus _ => exact (hminus _ rfl).elim

/-- A text with a character that is not a digit after its first is no `u64` text. -/
theorem parseU64_eq_none_of_tail {s : String} {c : Char} (hc : c ∈ s.data.tail)
    (hdigit : c.isDigit = false) : parseU64 s = none
  := by
  have hall : ∀ l : List Char, c ∈ l → (!l.isEmpty && l.all Char.isDigit) = false := fun l hl => by
    simp only [Bool.and_eq_false_iff, List.all_eq_false]
    exact .inr ⟨c, hl, by simp [hdigit]⟩
  unfold parseU64
  split
  · next _ digits hplus =>
    rw [hplus] at hc
    simp only [if_neg (Bool.not_eq_true _ ▸ hall digits hc)]
  · simp only [if_neg (Bool.not_eq_true _ ▸ hall s.data (List.mem_of_mem_tail hc))]

theorem isWhitespace_of_isDigit {c : Char} (h : c.isDigit = true) : isWhitespace c = false
  := by
  simp only [Char.isDigit, Bool.and_eq_true, decide_eq_true_eq] at h
  have h1 : 48 ≤ c.toNat := h.1
  have h2 : c.toNat ≤ 57 := h.2
  simp only [isWhitespace, Bool.or_eq_false_iff, Bool.and_eq_false_iff, decide_eq_false_iff_not,
    beq_eq_false_iff_ne, ne_eq]
  omega

/-! ### Trimmed texts -/

theorem trim_data (s : String) :
  (trim s).data = (s.data.dropWhile isWhitespace).rdropWhile isWhitespace
  := rfl

theorem dropWhile_of_head {p : Char → Bool} {l : List Char} (h : ∀ c ∈ l.head?, p c = false) :
  l.dropWhile p = l
  := by
  cases l with
  | nil => rfl
  | cons c l => exact List.dropWhile_cons_of_neg (by simp [h c rfl])

/-- Cutting whitespace from the end keeps a first character that is not whitespace. -/
theorem head?_rdropWhile {l : List Char} (h : ∀ c ∈ l.head?, isWhitespace c = false) :
  (l.rdropWhile isWhitespace).head? = l.head?
  := by
  cases l with
  | nil => rfl
  | cons c t =>
    obtain ⟨u, hu⟩ := List.rdropWhile_prefix isWhitespace (c :: t)
    cases hr : (c :: t).rdropWhile isWhitespace with
    | nil =>
      have := List.rdropWhile_eq_nil_iff.mp hr c (List.mem_cons_self _ _)
      simp [h c rfl] at this
    | cons x r =>
      rw [hr, List.cons_append, List.cons.injEq] at hu
      rw [hu.1]
      rfl

/-- Trimming leaves a text unchanged exactly when it neither begins nor ends with whitespace. -/
theorem trim_eq_self_iff {s : String} :
  trim s = s ↔ (∀ c ∈ s.data.head?, isWhitespace c = false) ∧
    ∀ c ∈ s.data.getLast?, isWhitespace c = false
  := by
  constructor
  · intro h
    have hs : (s.data.dropWhile isWhitespace).rdropWhile isWhitespace = s.data := by
      rw [← trim_data, h]
    have hlen : (s.data.dropWhile isWhitespace).length = s.data.length := by
      have h1 := (List.rdropWhile_prefix isWhitespace (s.data.dropWhile isWhitespace)).length_le
      have h2 := (List.dropWhile_suffix isWhitespace (l := s.data)).length_le
      rw [hs] at h1
      omega
    have hd : s.data.dropWhile isWhitespace = s.data :=
      (List.dropWhile_suffix isWhitespace).eq_of_length hlen
    rw [hd] at hs
    constructor
    · intro c hc
      have := List.head?_dropWhile_not isWhitespace s.data
      rwa [hd, Option.mem_def.mp hc] at this
    · intro c hc
      have hne : s.data ≠ [] := fun h0 => by simp [h0] at hc
      rw [List.getLast?_eq_getLast s.data hne, Option.mem_def, Option.some.injEq] at hc
      rw [← hc]
      simpa using List.rdropWhile_eq_self_iff.mp hs hne
  · rintro ⟨hh, hl⟩
    refine String.ext ?_
    rw [trim_data, dropWhile_of_head hh, List.rdropWhile_eq_self_iff]
    intro hne
    simp [hl _ (List.getLast?_eq_getLast s.data hne)]

/-- Trimming twice trims once. -/
theorem trim_trim (s : String) : trim (trim s) = trim s
  := by
  have hhead : ∀ c ∈ (s.data.dropWhile isWhitespace).head?, isWhitespace c = false := by
    intro c hc
    have := List.head?_dropWhile_not isWhitespace s.data
    rwa [Option.mem_def.mp hc] at this
  refine trim_eq_self_iff.mpr ⟨fun c hc => ?_, fun c hc => ?_⟩
  · rw [trim_data, head?_rdropWhile hhead] at hc
    exact hhead c hc
  · rw [trim_data] at hc
    have hne : (s.data.dropWhile isWhitespace).rdropWhile isWhitespace ≠ [] := fun h0 => by
      simp [h0] at hc
    rw [List.getLast?_eq_getLast _ hne, Option.mem_def, Option.some.injEq] at hc
    rw [← hc]
    simpa using List.rdropWhile_last_not isWhitespace _ hne

/-- The characters of a trimmed text are characters of the text. -/
theorem mem_of_mem_trim {s : String} {c : Char} (h : c ∈ (trim s).data) : c ∈ s.data
  := by
  rw [trim_data] at h
  exact (List.dropWhile_sublist _).subset ((List.rdropWhile_prefix _ _).sublist.subset h)

theorem trim_of_forall {s : String} (h : ∀ c ∈ s.data, isWhitespace c = false) : trim s = s
  := trim_eq_self_iff.mpr
    ⟨fun c hc => h c (List.mem_of_mem_head? hc), fun c hc => h c (List.mem_of_mem_getLast? hc)⟩

/-- No copy of a nonempty pattern is left at the start once `trimStartMatchesStr` is done: the
fuel of its loop is enough. -/
theorem startsWith_trimStartMatchesStr (s : String) {p : String} (hp : p.data ≠ []) :
  startsWith (trimStartMatchesStr s p) p = false
  := by
  have hlen : 0 < p.length := List.length_pos.mpr hp
  suffices h : ∀ fuel cs, cs.length ≤ fuel →
      p.data.isPrefixOf (trimStartMatchesStr.go p fuel cs) = false from
    h _ _ le_rfl
  intro fuel
  induction fuel with
  | zero =>
    intro cs hcs
    rw [List.eq_nil_of_length_eq_zero (Nat.le_zero.mp hcs), trimStartMatchesStr.go]
    cases hpd : p.data with
    | nil => exact absurd hpd hp
    | cons c cs => rfl
  | succ fuel ih =>
    intro cs hcs
    rw [trimStartMatchesStr.go]
    split
    · exact ih _ (by rw [List.length_drop]; exact Nat.sub_le_of_le_add (by omega))
    · next hstop =>
      cases hpre : p.data.isPrefixOf cs
      · rfl
      · simp [hpre, List.isEmpty_iff, hp] at hstop

/-- `trimStartMatchesStr` takes off a run of leading copies of a nonempty pattern: the text is
that many copies followed by the answer. -/
theorem trimStartMatchesStr_copies (s : String) {p : String} :
  ∃ n, s.data = (List.replicate n p.data).flatten ++ (trimStartMatchesStr s p).data
  := by
  suffices h : ∀ fuel cs, ∃ n, cs = (List.replicate n p.data).flatten ++
      trimStartMatchesStr.go p fuel cs from h _ _
  intro fuel
  induction fuel with
  | zero => exact fun cs => ⟨0, rfl⟩
  | succ fuel ih =>
    intro cs
    rw [trimStartMatchesStr.go]
    split
    · next hpre =>
      obtain ⟨n, hn⟩ := ih (cs.drop p.length)
      have hcs : cs = p.data ++ cs.drop p.length := by
        obtain ⟨t, rfl⟩ := List.isPrefixOf_iff_prefix.mp (Bool.and_eq_true_iff.mp hpre).2
        exact congrArg (p.data ++ ·) (List.drop_left p.data t).symm
      refine ⟨n + 1, ?_⟩
      rw [List.replicate_succ, List.flatten_cons, List.append_assoc, ← hn]
      exact hcs
    · exact ⟨0, rfl⟩

/-- `trimStartMatchesStr` with a nonempty pattern removes every leading copy of it: the text is
some copies followed by the answer, which does not start with the pattern. -/
theorem trimStartMatchesStr_spec (s : String) {p : String} (hp : p.data ≠ []) :
  ∃ n, s.data = (List.replicate n p.data).flatten ++ (trimStartMatchesStr s p).data ∧
    startsWith (trimStartMatchesStr s p) p = false
  := by
  obtain ⟨n, hn⟩ := trimStartMatchesStr_copies s (p := p)
  exact ⟨n, hn, startsWith_trimStartMatchesStr s hp⟩

/-- The text `String.intercalate "," keys` writes for a list of keys. -/
theorem intercalate_go_data (acc : String) (ks : List String) :
  (String.intercalate.go acc "," ks).data = acc.data ++ (ks.map fun k => ',' :: k.data).flatten
  := by
  induction ks generalizing acc with
  | nil => simp [String.intercalate.go]
  | cons k ks ih => simp [String.intercalate.go, ih]

end Str

end UblGate
