import EcmaRegex.Proofs.CountedQuantifiers
/-!
# Hexadecimal escapes

`Scan.hex` reads a hexadecimal number of `minDigits` to `maxDigits` digits whose value is at
most `maxValue`, in two passes over the input: it counts the hexadecimal digits at the start,
up to the maximum, and then takes them one at a time, checking the bound after each.  Its law
(`hex_escape_law`) is stated on the run `H` of digits it counts, `Scan.HexRunCut`.  With fewer
than `minDigits` digits it consumes nothing, failing in the unicode grammar and reading nothing
in the legacy one.  Otherwise it reads the value of `H` and stops right after `H` when that
value is within the bound, and fails when it is not.

The check after each digit fires exactly when the value of the whole run exceeds the bound,
because a value only grows as digits are added (`Scan.le_hexFold`).  Every value the loop
computes (`Scan.HexStep`) is at most sixteen times the bound plus fifteen, since the loop goes
on only from a value within the bound; with the bound `0x10FFFF` of `\u{..}` that is below
`2 ^ 32` however long the escape.

Two escapes are built on the law.  In the unicode grammar `\u{H}` is the code point of value
`H` for any number of digits, leading zeros included, when that value is at most `0x10FFFF`
and a `}` follows; it is refused otherwise (`braced_escape_law`).  A `\uXXXX` escape of a high
surrogate looks for a `\uXXXX` escape of a low surrogate right after it, and keeps nothing of
what it looked at when none is there (`escaped_surrogate_pairs`).
-/

namespace EcmaRegex

namespace Scan

/-! ## Runs of hexadecimal digits -/

/-- The value of a hexadecimal digit unit, zero for any other unit. -/
def hexDigit (c : Nat) : Nat := (hexValue? c).getD 0

/-- The value of a run of hexadecimal digit units. -/
def hexNumber (hs : List Nat) : Nat := (hs.map hexDigit).foldl (fun v d => v * 16 + d) 0

/-- `hs` is the run of hexadecimal digits at the start of `hs ++ after`, cut to `maxDigits`
digits when a maximum is given. -/
structure HexRunCut (maxDigits : Option Nat) (hs after : List Nat) : Prop where
  hex : ∀ x ∈ hs, (hexValue? x).isSome = true
  within : ∀ n, maxDigits = some n → hs.length ≤ n
  longest : (∃ n, maxDigits = some n ∧ hs.length = n) ∨
    ∀ x, after.head? = some x → hexValue? x = none

/-- The values the loop of `hexAccumulate` computes from the accumulator `value` over the
digits `ds`: the value after the next digit and, when that value is within the bound so that
the loop goes on, the values after it. -/
inductive HexStep (maxValue : Nat) : Nat → List Nat → Nat → Prop
  | next {value d : Nat} {ds : List Nat} : HexStep maxValue value (d :: ds) (value * 16 + d)
  | later {value d v : Nat} {ds : List Nat} (h : value * 16 + d ≤ maxValue)
      (hv : HexStep maxValue (value * 16 + d) ds v) : HexStep maxValue value (d :: ds) v

theorem hexValue?_lt {c d : Nat} (h : hexValue? c = some d) : d < 16 := by
  simp only [hexValue?, unit, Char.reduceToNat, Bool.and_eq_true, decide_eq_true_eq] at h
  split at h
  · cases h
    omega
  split at h
  · cases h
    omega
  split at h
  · cases h
    omega
  · cases h

theorem hexDigit_lt (c : Nat) : hexDigit c < 16 := by
  unfold hexDigit
  cases h : hexValue? c with
  | none => decide
  | some d => exact hexValue?_lt h

theorem hexValue?_eq_hexDigit {c : Nat} (h : (hexValue? c).isSome = true) :
    hexValue? c = some (hexDigit c) := by
  unfold hexDigit
  cases hc : hexValue? c with
  | none => simp [hc] at h
  | some d => rfl

/-- A hexadecimal digit in front of a run cut one digit shorter is a run. -/
theorem HexRunCut.cons {maxDigits : Option Nat} {c : Nat} {hs after : List Nat}
    (h0 : maxDigits ≠ some 0) (hc : (hexValue? c).isSome = true)
    (h : HexRunCut (maxDigits.map (· - 1)) hs after) : HexRunCut maxDigits (c :: hs) after := by
  refine ⟨?_, fun n hn => ?_, ?_⟩
  · intro x hx
    rcases List.mem_cons.1 hx with rfl | hx
    · exact hc
    · exact h.hex x hx
  · have := h.within (n - 1) (by rw [hn]; rfl)
    have : n ≠ 0 := fun h => h0 (h ▸ hn)
    simp only [List.length_cons]
    omega
  · rcases h.longest with ⟨n, hn, hlen⟩ | hafter
    · obtain ⟨k, hk, rfl⟩ := Option.map_eq_some_iff.1 hn
      refine Or.inl ⟨k, hk, ?_⟩
      have : k ≠ 0 := fun h => h0 (h ▸ hk)
      simp only [List.length_cons]
      omega
    · exact Or.inr hafter

/-- A run that holds a digit was not cut at zero digits, and past its first digit it is a run
cut one digit shorter. -/
theorem HexRunCut.tail {maxDigits : Option Nat} {c : Nat} {hs after : List Nat}
    (h : HexRunCut maxDigits (c :: hs) after) :
    maxDigits ≠ some 0 ∧ HexRunCut (maxDigits.map (· - 1)) hs after := by
  refine ⟨fun h0 => ?_, fun x hx => h.hex x (List.mem_cons_of_mem c hx), fun n hn => ?_, ?_⟩
  · have := h.within 0 h0
    simp only [List.length_cons] at this
    omega
  · obtain ⟨k, hk, rfl⟩ := Option.map_eq_some_iff.1 hn
    have := h.within k hk
    simp only [List.length_cons] at this
    omega
  · rcases h.longest with ⟨n, hn, hlen⟩ | hafter
    · refine Or.inl ⟨n - 1, by rw [hn]; rfl, ?_⟩
      simp only [List.length_cons] at hlen
      omega
    · exact Or.inr hafter

/-- Every input is a run of hexadecimal digits, cut to the maximum, and what follows it. -/
theorem exists_hexRunCut (maxDigits : Option Nat) (input : List Nat) :
    ∃ hs after, input = hs ++ after ∧ HexRunCut maxDigits hs after := by
  induction input generalizing maxDigits with
  | nil => exact ⟨[], [], rfl, ⟨by simp, by simp, Or.inr (by simp)⟩⟩
  | cons c rest ih =>
    by_cases h0 : maxDigits = some 0
    · -- no digit may be taken
      exact ⟨[], c :: rest, rfl, ⟨by simp, by simp, Or.inl ⟨0, h0, rfl⟩⟩⟩
    cases hc : hexValue? c with
    | none => exact ⟨[], c :: rest, rfl, ⟨by simp, by simp, Or.inr (by simpa using hc)⟩⟩
    | some d =>
      -- the digit starts the run, and the rest of the run is cut one digit shorter
      obtain ⟨hs, after, rfl, hrun⟩ := ih (maxDigits.map (· - 1))
      exact ⟨c :: hs, after, rfl, hrun.cons h0 (by simp [hc])⟩

/-- The scanner counts exactly the digits of the run. -/
theorem hexRun_cut {maxDigits : Option Nat} {hs after : List Nat}
    (h : HexRunCut maxDigits hs after) : hexRun maxDigits (hs ++ after) = hs.map hexDigit := by
  induction hs generalizing maxDigits with
  | nil =>
    rcases h.longest with ⟨n, hn, hlen⟩ | hafter
    · rw [List.length_nil] at hlen
      subst hlen
      rw [hn, List.nil_append, hexRun.eq_1, List.map_nil]
    · by_cases h0 : maxDigits = some 0
      · rw [h0, List.nil_append, hexRun.eq_1, List.map_nil]
      cases after with
      | nil => rw [List.nil_append, hexRun.eq_2 _ h0, List.map_nil]
      | cons x rest =>
        rw [List.nil_append, hexRun.eq_3 _ _ _ h0, hafter x rfl, List.map_nil]
  | cons c hs ih =>
    obtain ⟨h0, hrest⟩ := h.tail
    rw [List.cons_append, hexRun.eq_3 _ _ _ h0,
      hexValue?_eq_hexDigit (h.hex c List.mem_cons_self), ih hrest, List.map_cons]

/-! ## The accumulation loop -/

/-- Adding digits never makes a value smaller. -/
theorem le_hexFold (value : Nat) (ds : List Nat) :
    value ≤ ds.foldl (fun v d => v * 16 + d) value := by
  induction ds generalizing value with
  | nil => exact Nat.le_refl value
  | cons d ds ih =>
    rw [List.foldl_cons]
    exact Nat.le_trans (by omega) (ih (value * 16 + d))

/-- When the value of all the digits is within the bound, so is every value on the way, and the
loop reads them all. -/
theorem hexAccumulate_of_le {maxValue : Nat} {problem : Problem} {value : Nat}
    {ds input : List Nat} (h : ds.foldl (fun v d => v * 16 + d) value ≤ maxValue) :
    hexAccumulate maxValue problem value ds input =
      .ok (ds.foldl (fun v d => v * 16 + d) value, input.drop ds.length) := by
  induction ds generalizing value input with
  | nil => rfl
  | cons d ds ih =>
    rw [List.foldl_cons] at h ⊢
    have hstep : ¬ maxValue < value * 16 + d := Nat.not_lt.2 (Nat.le_trans (le_hexFold _ ds) h)
    rw [hexAccumulate, if_neg hstep, ih h, List.drop_drop, List.length_cons, Nat.add_comm 1]

/-- When the value of all the digits exceeds the bound, the loop fails right after the first
prefix of the digits whose value does. -/
theorem hexAccumulate_of_lt {maxValue : Nat} {problem : Problem} {value : Nat}
    {ds input : List Nat} (hv : value ≤ maxValue)
    (h : maxValue < ds.foldl (fun v d => v * 16 + d) value) :
    ∃ k, k ≤ ds.length ∧ maxValue < (ds.take k).foldl (fun v d => v * 16 + d) value ∧
      hexAccumulate maxValue problem value ds input = .error (problem, input.drop k) := by
  induction ds generalizing value input with
  | nil => exact absurd h (Nat.not_lt.2 hv)
  | cons d ds ih =>
    rw [List.foldl_cons] at h
    by_cases hstep : maxValue < value * 16 + d
    · -- the next digit takes the value past the bound
      refine ⟨1, by simp, by simpa using hstep, ?_⟩
      rw [hexAccumulate, if_pos hstep]
    · obtain ⟨k, hk, hlt, hacc⟩ := ih (Nat.not_lt.1 hstep) h
      refine ⟨k + 1, by simpa using hk, by simpa using hlt, ?_⟩
      rw [hexAccumulate, if_neg hstep, hacc, List.drop_drop, Nat.add_comm 1]

/-- The loop goes on only from a value within the bound, so no value it computes exceeds
sixteen times the bound plus the largest digit. -/
theorem HexStep.le {maxValue value v : Nat} {ds : List Nat} (hv : value ≤ maxValue)
    (hd : ∀ d ∈ ds, d < 16) (h : HexStep maxValue value ds v) : v ≤ 16 * maxValue + 15 := by
  induction h with
  | @next value d ds =>
    have := hd d List.mem_cons_self
    omega
  | later hle _ ih => exact ih hle fun d hmem => hd d (List.mem_cons_of_mem _ hmem)

theorem hexNumber_take (hs : List Nat) (k : Nat) :
    hexNumber (hs.take k) = ((hs.map hexDigit).take k).foldl (fun v d => v * 16 + d) 0 := by
  rw [hexNumber, List.map_take]

/-- The law of `hex`: nothing is consumed when the run has too few digits; otherwise the value of
the run is read when it is within the bound, and the scan fails after the first digits whose
value exceeds it when it is not. -/
theorem hex_cut {unicode : Bool} {minDigits : Nat} {maxDigits : Option Nat} {maxValue : Nat}
    {problem : Problem} {hs after : List Nat} (h : HexRunCut maxDigits hs after) :
    let read := hex unicode minDigits maxDigits maxValue problem (hs ++ after)
    (hs.length < minDigits →
      read = if unicode then .error (problem, hs ++ after) else .ok (none, hs ++ after)) ∧
    (minDigits ≤ hs.length → hexNumber hs ≤ maxValue → read = .ok (some (hexNumber hs), after)) ∧
    (minDigits ≤ hs.length → maxValue < hexNumber hs →
      ∃ k, k ≤ hs.length ∧ maxValue < hexNumber (hs.take k) ∧
        read = .error (problem, hs.drop k ++ after)) := by
  intro read
  have hrun : hexRun maxDigits (hs ++ after) = hs.map hexDigit := hexRun_cut h
  have hlen : (hexRun maxDigits (hs ++ after)).length = hs.length := by
    rw [hrun, List.length_map]
  refine ⟨fun hfew => ?_, fun henough hle => ?_, fun henough hlt => ?_⟩
  · simp only [read, hex, hlen, if_pos hfew]
  · have hacc := @hexAccumulate_of_le maxValue problem 0 (hs.map hexDigit) (hs ++ after) hle
    rw [List.length_map, List.drop_left] at hacc
    simp only [read, hex, hrun, List.length_map, if_neg (Nat.not_lt.2 henough), hacc]
    rfl
  · obtain ⟨k, hk, hprefix, hacc⟩ := @hexAccumulate_of_lt maxValue problem 0 (hs.map hexDigit)
      (hs ++ after) (Nat.zero_le maxValue) hlt
    rw [List.length_map] at hk
    refine ⟨k, hk, hexNumber_take hs k ▸ hprefix, ?_⟩
    simp only [read, hex, hrun, List.length_map, if_neg (Nat.not_lt.2 henough), hacc,
      List.drop_append_of_le_length hk]

/-! ## Escapes in braces -/

/-- After a backslash, `u` starts a unicode escape, inside a class or not. -/
theorem escapeChar_u (m : Mode) (inClass : Bool) (rest : List Nat) :
    escapeChar m inClass (unit 'u' :: rest) = unicodeEscape m rest := by
  rw [escapeChar.eq_2]
  simp [controlLetter?, unit]

theorem startsWith_close_iff {input : List Nat} :
    startsWith input "\x7d" = true ↔ input.head? = some (unit '}') := by
  have hlit : "\x7d".toList.map unit = [unit '}'] := rfl
  cases input with
  | nil => constructor <;> intro h <;> cases h
  | cons c rest =>
    rw [startsWith, hlit]
    simp only [List.isPrefixOf, List.head?_cons, Option.some.injEq, Bool.and_eq_true, beq_iff_eq,
      and_true]
    exact eq_comm

section Braced

variable {m : Mode} {input rest : List Nat}

theorem unicodeEscape_brace_ok (hu : m.unicode = true) {v : Nat}
    (h : hex true 1 none 0x10FFFF .invalidUnicodeEscape input = .ok (some v, rest)) :
    unicodeEscape m (unit '{' :: input) =
      if startsWith rest "\x7d" then .ok (v, rest.drop 1) else .error (.invalidUnicodeEscape, rest) := by
  have hopen : startsWith (unit '{' :: input) "\x7b" = true := startsWith_iff.2 ⟨input, rfl⟩
  simp only [unicodeEscape, hu, hopen, Bool.and_self, if_true, List.drop_one, List.tail_cons, h]

theorem unicodeEscape_brace_error (hu : m.unicode = true) {e : Problem × List Nat}
    (h : hex true 1 none 0x10FFFF .invalidUnicodeEscape input = .error e) :
    unicodeEscape m (unit '{' :: input) = .error e := by
  have hopen : startsWith (unit '{' :: input) "\x7b" = true := startsWith_iff.2 ⟨input, rfl⟩
  simp only [unicodeEscape, hu, hopen, Bool.and_self, if_true, List.drop_one, List.tail_cons, h]

/-- In the unicode grammar `\u{H}` is the code point of value `H` when that value is at most
`0x10FFFF` and a `}` follows, for any number of digits; otherwise it is refused with an
invalid unicode escape. -/
theorem braced_escape_law (hu : m.unicode = true) (inClass : Bool) {hs after : List Nat}
    (h : HexRunCut none hs after) :
    let read := escapeChar m inClass (unit 'u' :: unit '{' :: (hs ++ after))
    (hs ≠ [] → hexNumber hs ≤ 0x10FFFF → after.head? = some (unit '}') →
      read = .ok (hexNumber hs, after.drop 1)) ∧
    (hs = [] ∨ 0x10FFFF < hexNumber hs ∨ after.head? ≠ some (unit '}') →
      ∃ p r, read = .error (p, r) ∧ p.code = 1503) := by
  intro read
  obtain ⟨hfew, hle, hlt⟩ := @hex_cut true 1 none 0x10FFFF .invalidUnicodeEscape hs after h
  have hread : read = unicodeEscape m (unit '{' :: (hs ++ after)) := escapeChar_u m inClass _
  -- a value within the bound is read, and the escape then needs its `}`
  have hwithin : hs ≠ [] → hexNumber hs ≤ 0x10FFFF →
      read = if after.head? = some (unit '}') then .ok (hexNumber hs, after.drop 1)
        else .error (.invalidUnicodeEscape, after) := by
    intro hne hv
    rw [hread, unicodeEscape_brace_ok hu (hle (List.length_pos_iff.2 hne) hv)]
    by_cases hc : after.head? = some (unit '}')
    · rw [if_pos (startsWith_close_iff.2 hc), if_pos hc]
    · rw [if_neg (mt startsWith_close_iff.1 hc), if_neg hc]
  refine ⟨fun hne hv hc => by rw [hwithin hne hv, if_pos hc], fun hfail => ?_⟩
  by_cases hne : hs = []
  · -- no digit: the scan of the number fails
    have hnone := hfew (by rw [hne]; decide)
    rw [if_pos rfl] at hnone
    exact ⟨_, _, hread.trans (unicodeEscape_brace_error hu hnone), rfl⟩
  by_cases hv : hexNumber hs ≤ 0x10FFFF
  · -- the closing brace is missing
    have hc : after.head? ≠ some (unit '}') := by
      rcases hfail with h | h | h
      · exact absurd h hne
      · exact absurd hv (Nat.not_le.2 h)
      · exact h
    exact ⟨_, _, (hwithin hne hv).trans (if_neg hc), rfl⟩
  · -- the value exceeds the bound
    obtain ⟨k, -, -, herr⟩ := hlt (List.length_pos_iff.2 hne) (Nat.not_le.1 hv)
    exact ⟨_, _, hread.trans (unicodeEscape_brace_error hu herr), rfl⟩

end Braced

/-- The law of the hexadecimal scanner and of the braced escape built on it.  Every input is a
run `H` of hexadecimal digits cut to `maxDigits` and what follows it.  The scan consumes nothing
when `H` has fewer than `minDigits` digits, failing in the unicode grammar and reading nothing in
the legacy one; otherwise it reads the value of `H` and stops right after it when that value is
at most `maxValue`, and fails with `problem` otherwise, after the first digits whose value
exceeds the bound.  No value the loop computes on the way exceeds `16 * maxValue + 15`.  So in
the unicode grammar `\u{H}`, with `H` the whole run of digits after the brace, is the code point
of value `H` when `H` is not empty, its value is at most `0x10FFFF` and a `}` follows, and is
refused with code 1503 otherwise. -/
theorem hex_escape_law :
    (∀ unicode minDigits maxDigits maxValue problem,
      (∀ input, ∃ hs after, input = hs ++ after ∧ HexRunCut maxDigits hs after) ∧
      ∀ hs after, HexRunCut maxDigits hs after →
        let read := hex unicode minDigits maxDigits maxValue problem (hs ++ after)
        (hs.length < minDigits →
          read = if unicode then .error (problem, hs ++ after) else .ok (none, hs ++ after)) ∧
        (minDigits ≤ hs.length → hexNumber hs ≤ maxValue →
          read = .ok (some (hexNumber hs), after)) ∧
        (minDigits ≤ hs.length → maxValue < hexNumber hs →
          ∃ k, k ≤ hs.length ∧ maxValue < hexNumber (hs.take k) ∧
            read = .error (problem, hs.drop k ++ after)) ∧
        ∀ v, HexStep maxValue 0 (hexRun maxDigits (hs ++ after)) v → v ≤ 16 * maxValue + 15) ∧
    (∀ m : Mode, m.unicode = true → ∀ inClass hs after, HexRunCut none hs after →
      let read := escapeChar m inClass (unit 'u' :: unit '{' :: (hs ++ after))
      (hs ≠ [] → hexNumber hs ≤ 0x10FFFF → after.head? = some (unit '}') →
        read = .ok (hexNumber hs, after.drop 1)) ∧
      (hs = [] ∨ 0x10FFFF < hexNumber hs ∨ after.head? ≠ some (unit '}') →
        ∃ p r, read = .error (p, r) ∧ p.code = 1503)) := by
  refine ⟨fun unicode minDigits maxDigits maxValue problem =>
    ⟨exists_hexRunCut maxDigits, fun hs after h => ?_⟩,
    fun m hu inClass _ _ h => braced_escape_law hu inClass h⟩
  obtain ⟨hfew, hle, hlt⟩ := @hex_cut unicode minDigits maxDigits maxValue problem hs after h
  refine ⟨hfew, hle, hlt, fun v hstep => hstep.le (Nat.zero_le _) fun d hd => ?_⟩
  -- the digits the loop takes are digit values
  rw [hexRun_cut h, List.mem_map] at hd
  obtain ⟨c, -, rfl⟩ := hd
  exact hexDigit_lt c

/-- `\u{0000000041}` in the unicode grammar: any number of leading zeros, and the code point
`0x41`. -/
theorem braced_escape_leading_zeros :
    escapeChar ⟨{ unicode := true }, {}, Unicode.tables⟩ false
      (unit 'u' :: unit '{' :: ([0x30, 0x30, 0x30, 0x30, 0x30, 0x30, 0x30, 0x30, 0x34, 0x31] ++
        [unit '}'])) = .ok (0x41, []) :=
  ((hex_escape_law.2 ⟨{ unicode := true }, {}, Unicode.tables⟩ rfl false _ _
    ⟨by decide, fun n hn => (by cases hn), Or.inr fun x hx => (by cases hx; rfl)⟩).1
    (List.cons_ne_nil _ _) (by decide) rfl).trans rfl

/-! ## Escaped surrogate pairs -/

/-- Four hexadecimal digit units, the digits of a `\uXXXX` escape. -/
structure FourHex (hs : List Nat) : Prop where
  length_eq : hs.length = 4
  hex : ∀ x ∈ hs, (hexValue? x).isSome = true

theorem FourHex.runCut {hs : List Nat} (h : FourHex hs) (after : List Nat) :
    HexRunCut (some 4) hs after :=
  ⟨h.hex, fun n hn => by cases hn; exact Nat.le_of_eq h.length_eq, Or.inl ⟨4, rfl, h.length_eq⟩⟩

theorem FourHex.hexNumber_le {hs : List Nat} (h : FourHex hs) : hexNumber hs ≤ 0xFFFF := by
  match hs, h.length_eq with
  | [a, b, c, d], _ =>
    have ha := hexDigit_lt a
    have hb := hexDigit_lt b
    have hc := hexDigit_lt c
    have hd := hexDigit_lt d
    simp only [hexNumber, List.map_cons, List.map_nil, List.foldl_cons, List.foldl_nil]
    omega

/-- Four hexadecimal digits are read whole, in either grammar. -/
theorem FourHex.hex_eq {hs : List Nat} (h : FourHex hs) (unicode : Bool) (problem : Problem)
    (after : List Nat) :
    Scan.hex unicode 4 (some 4) 0xFFFF problem (hs ++ after) = .ok (some (hexNumber hs), after) :=
  (@hex_cut unicode 4 (some 4) 0xFFFF problem hs after (h.runCut after)).2.1
    (Nat.le_of_eq h.length_eq.symm) h.hexNumber_le

/-- A hexadecimal digit is no `{`. -/
theorem startsWith_open_of_hex {a : Nat} (ha : (hexValue? a).isSome = true) (rest : List Nat) :
    startsWith (a :: rest) "\x7b" = false := by
  rw [startsWith, show "\x7b".toList.map unit = [unit '{'] from rfl]
  have hne : unit '{' ≠ a := by
    rintro rfl
    cases ha
  simp only [List.isPrefixOf, Bool.and_true, beq_eq_false_iff_ne]
  exact hne

theorem FourHex.not_startsWith_open {hs : List Nat} (h : FourHex hs) (after : List Nat) :
    startsWith (hs ++ after) "\x7b" = false := by
  match hs, h.length_eq with
  | a :: _, _ => exact startsWith_open_of_hex (h.hex a List.mem_cons_self) _

section Pairs

variable {m : Mode} {lead : Nat}

/-- After the escape of a high surrogate, `\u` and four digits are read as the trail when they
are a low surrogate, and are read but not taken otherwise. -/
theorem trailEscape_digits {trail : List Nat} (ht : FourHex trail) (after : List Nat) :
    trailEscape m lead (unit '\\' :: unit 'u' :: (trail ++ after)) =
      .ok (if Utf16.isLow (hexNumber trail) then some (Utf16.combine lead (hexNumber trail))
        else none, after) := by
  have hstart : startsWith (unit '\\' :: unit 'u' :: (trail ++ after)) "\\u" = true :=
    startsWith_iff.2 ⟨_, rfl⟩
  simp only [trailEscape, hstart, Bool.not_true, Bool.false_or, List.drop_succ_cons, List.drop_zero,
    ht.not_startsWith_open, ht.hex_eq, Bool.false_eq_true, if_false]
  split <;> rfl

/-- A `\u{` after the escape of a high surrogate is no trail. -/
theorem trailEscape_brace (after : List Nat) :
    trailEscape m lead (unit '\\' :: unit 'u' :: unit '{' :: after) =
      .ok (none, unit '{' :: after) := by
  have hstart : startsWith (unit '\\' :: unit 'u' :: unit '{' :: after) "\\u" = true :=
    startsWith_iff.2 ⟨_, rfl⟩
  have hopen : startsWith (unit '{' :: after) "\x7b" = true := startsWith_iff.2 ⟨_, rfl⟩
  simp only [trailEscape, hstart, hopen, Bool.not_true, Bool.false_or, List.drop_succ_cons,
    List.drop_zero, if_true]

/-- Input that does not start with `\u` is no trail. -/
theorem trailEscape_not_escape {input : List Nat}
    (h : ∀ after, input ≠ unit '\\' :: unit 'u' :: after) :
    trailEscape m lead input = .ok (none, input.drop 2) := by
  have hstart : startsWith input "\\u" = false := by
    cases hs : startsWith input "\\u"
    · rfl
    · obtain ⟨after, rfl⟩ := startsWith_iff.1 hs
      exact absurd rfl (h after)
  simp only [trailEscape, hstart, Bool.not_false, Bool.true_or, if_true]

/-- In the unicode grammar a `\u` with fewer than four digits after it is refused, also after the
escape of a high surrogate. -/
theorem trailEscape_short (hu : m.unicode = true) {ds after : List Nat}
    (hrun : HexRunCut (some 4) ds after) (hlen : ds.length < 4)
    (hopen : (ds ++ after).head? ≠ some (unit '{')) :
    trailEscape m lead (unit '\\' :: unit 'u' :: (ds ++ after)) =
      .error (.invalidUnicodeEscape, ds ++ after) := by
  have hstart : startsWith (unit '\\' :: unit 'u' :: (ds ++ after)) "\\u" = true :=
    startsWith_iff.2 ⟨_, rfl⟩
  have hnot : startsWith (ds ++ after) "\x7b" = false := by
    cases hs : startsWith (ds ++ after) "\x7b"
    · rfl
    · obtain ⟨r, hr⟩ := startsWith_iff.1 hs
      exact absurd (by rw [hr]; rfl) hopen
  have hfew := (@hex_cut true 4 (some 4) 0xFFFF .invalidUnicodeEscape ds after hrun).1 hlen
  rw [if_pos rfl] at hfew
  simp only [trailEscape, hstart, hnot, Bool.not_true, Bool.false_or, List.drop_succ_cons,
    List.drop_zero, Bool.false_eq_true, if_false, hu, hfew]

/-- A `\uXXXX` escape, inside a class or not.  The legacy grammar reads its four digits as the
code point `X` they spell and stops after them.  In the unicode grammar, when `X` is a high
surrogate, a `\uXXXX` escape of a low surrogate `L` right after it makes the escape the code
point of the pair, read up to the end of the second escape; a `\u` with four digits that are no
low surrogate, a `\u{`, or anything that does not start with `\u` leaves the escape `X`, read
up to the end of its own digits; and a `\u` with fewer than four digits is refused with an
invalid unicode escape. -/
theorem escaped_surrogate_pairs (m : Mode) (inClass : Bool) {lead : List Nat} (hlead : FourHex lead)
    (rest : List Nat) :
    let read := escapeChar m inClass (unit 'u' :: (lead ++ rest))
    (m.unicode = false → read = .ok (hexNumber lead, rest)) ∧
    (m.unicode = true → Utf16.isHigh (hexNumber lead) = true →
      (∀ trail after, FourHex trail → rest = unit '\\' :: unit 'u' :: (trail ++ after) →
        read = if Utf16.isLow (hexNumber trail) then
            .ok (Utf16.combine (hexNumber lead) (hexNumber trail), after)
          else .ok (hexNumber lead, rest)) ∧
      (∀ after, rest = unit '\\' :: unit 'u' :: unit '{' :: after →
        read = .ok (hexNumber lead, rest)) ∧
      ((∀ after, rest ≠ unit '\\' :: unit 'u' :: after) → read = .ok (hexNumber lead, rest)) ∧
      (∀ ds after, rest = unit '\\' :: unit 'u' :: (ds ++ after) → HexRunCut (some 4) ds after →
        ds.length < 4 → (ds ++ after).head? ≠ some (unit '{') →
        ∃ p r, read = .error (p, r) ∧ p.code = 1503)) := by
  intro read
  have hread : read = unicodeEscape m (lead ++ rest) := escapeChar_u m inClass _
  have hdigits := fun unicode => hlead.hex_eq unicode .invalidUnicodeEscape rest
  have hnotopen := hlead.not_startsWith_open rest
  refine ⟨fun hu => ?_, fun hu hh => ⟨fun trail after ht hrest => ?_, fun after hrest => ?_,
    fun hnot => ?_, fun ds after hrest hrun hlen hopen => ?_⟩⟩
  · -- the legacy grammar pairs nothing
    rw [hread]
    simp only [unicodeEscape, hu, hnotopen, Bool.false_and, Bool.false_eq_true, if_false, hdigits]
  · -- four digits after `\u`: a pair exactly when they are a low surrogate
    have htrail := @trailEscape_digits m (hexNumber lead) trail ht after
    rw [← hrest] at htrail
    rw [hread]
    cases hl : Utf16.isLow (hexNumber trail) <;>
      simp only [unicodeEscape, hu, hnotopen, hdigits, hh, hl, htrail, Bool.and_false,
        Bool.and_self, Bool.false_eq_true, if_false, if_true]
  · have htrail := @trailEscape_brace m (hexNumber lead) after
    rw [← hrest] at htrail
    rw [hread]
    simp only [unicodeEscape, hu, hnotopen, hdigits, hh, htrail, Bool.and_false, Bool.and_self,
      Bool.false_eq_true, if_false, if_true]
  · rw [hread]
    simp only [unicodeEscape, hu, hnotopen, hdigits, hh, @trailEscape_not_escape m (hexNumber lead)
      rest hnot, Bool.and_false, Bool.and_self, Bool.false_eq_true, if_false, if_true]
  · have htrail := @trailEscape_short m (hexNumber lead) hu ds after hrun hlen hopen
    rw [← hrest] at htrail
    rw [hread]
    refine ⟨.invalidUnicodeEscape, ds ++ after, ?_, rfl⟩
    simp only [unicodeEscape, hu, hnotopen, hdigits, hh, htrail, Bool.and_false, Bool.and_self,
      Bool.false_eq_true, if_false, if_true]

end Pairs

/-- `\uD83D\uDE00` in the unicode grammar is the one code point U+1F600, read to the end of the
second escape. -/
theorem escaped_pair_smiley :
    escapeChar ⟨{ unicode := true }, {}, Unicode.tables⟩ false
      (unit 'u' :: ([0x44, 0x38, 0x33, 0x44] ++
        unit '\\' :: unit 'u' :: ([0x44, 0x45, 0x30, 0x30] ++ []))) = .ok (0x1F600, []) :=
  ((escaped_surrogate_pairs ⟨{ unicode := true }, {}, Unicode.tables⟩ false ⟨rfl, by decide⟩ _).2 rfl
    (by decide)).1 _ _ ⟨rfl, by decide⟩ rfl |>.trans rfl

end Scan

end EcmaRegex
