import EcmaRegex.Proofs.ClassTokens
import EcmaRegex.Proofs.HexEscapes
import EcmaRegex.Unicode.Tables
/-!
# Machine arithmetic of the lexer

The scanners compute with 32-bit unsigned values and 16-bit units, and every range of code points
is made by a constructor that asserts it is ordered and ends at a code point.  Each subtraction,
each growing value and each such construction is guarded by a fact established before it, and
this file states them one by one:

* a control letter's uppercase form lies above `A - 1`, so its value is made without going below
  zero (`Scan.controlValue_of_letter`);
* a digit is at least `0`, so its value is its unit less that of `0`;
* the two halves of a surrogate pair are a high and a low surrogate, so both offsets are made
  without going below zero, and the code point they give is at most `0x10FFFF`;
* every value the hexadecimal loop computes is at most sixteen times its bound plus fifteen
  (`Scan.HexStep.le`), and every value the octal loop computes at most eight times 255
  (`Scan.OctalStep.le`): with a bound that is a code point, both fit in 32 bits;
* every set is built from valid ranges (`CodePointSet.Reachable`), so its ranges and those of
  its complement are ordered and end at a code point, and the end of a range plus one, which the
  complement starts its next gap at, fits in 32 bits.

The scanners read lists of units and never move a position back, so stepping back over a unit
already read has nothing to check; the position the lexer sets is the length of the pattern less
that of the input left, which is never longer (`Lexer.Bounded`).
-/

namespace EcmaRegex

open CodePointSet

/-- The offsets of the two halves of a surrogate pair are made without going below zero, and
the code point they give lies above the basic plane and is at most `0x10FFFF`. -/
theorem Utf16.combine_bounds {lead trail : Nat} (hl : Utf16.isHigh lead = true)
    (ht : Utf16.isLow trail = true) :
    0xD800 ≤ lead ∧ 0xDC00 ≤ trail ∧ 0x10000 ≤ Utf16.combine lead trail ∧
      Utf16.combine lead trail ≤ maxCodePoint := by
  have hle := Utf16.combine_le hl ht
  simp only [Utf16.isHigh, Utf16.isLow, Bool.and_eq_true, decide_eq_true_eq] at hl ht
  refine ⟨hl.1, ht.1, ?_, hle⟩
  unfold Utf16.combine
  omega

namespace CodePointSet

/-- The ranges of a set built from valid ranges are valid, and the end of each plus one fits in
32 bits. -/
theorem Reachable.ranges_fit {s : CodePointSet} (h : Reachable s) :
    ∀ g ∈ s.ranges, g.Valid ∧ g.hi + 1 ≤ Scan.u32Max := by
  intro g hg
  have hv := h.normal.valid g hg
  refine ⟨hv, ?_⟩
  have hhi := hv.2
  unfold maxCodePoint at hhi
  unfold Scan.u32Max
  omega

/-- The gaps of a set built from valid ranges are valid ranges too. -/
theorem Reachable.complement_valid {s : CodePointSet} (h : Reachable s) :
    ∀ g ∈ s.complement.ranges, g.Valid :=
  h.complement.normal.valid

end CodePointSet

namespace Scan

/-! ### Digits -/

/-- The value of a decimal digit is made without going below zero. -/
theorem digitValue_of_decimal {c : Nat} (h : isDecimal c = true) :
    unit '0' ≤ c ∧ c - unit '0' < 10 := by
  rw [isDecimal_iff] at h
  have h0 : unit '0' = 48 := rfl
  omega

/-- The value of an octal digit is made without going below zero. -/
theorem digitValue_of_octal {c : Nat} (h : isOctal c = true) :
    unit '0' ≤ c ∧ c - unit '0' < 8 := by
  rw [isOctal_iff] at h
  have h0 : unit '0' = 48 := rfl
  omega

/-! ### The loops of numeric escapes -/

theorem lt_of_mem_hexRun {limit : Option Nat} {input : List Nat} {d : Nat}
    (h : d ∈ hexRun limit input) : d < 16 := by
  obtain ⟨hs, after, rfl, hcut⟩ := exists_hexRunCut limit input
  rw [hexRun_cut hcut, List.mem_map] at h
  obtain ⟨c, -, rfl⟩ := h
  exact hexDigit_lt c

/-- Every value the hexadecimal loop computes over the digits at the start of the input, for a
bound that is a code point, fits in 32 bits. -/
theorem HexStep.le_u32Max {maxValue : Nat} {limit : Option Nat} {input : List Nat} {v : Nat}
    (hmax : maxValue ≤ maxCodePoint) (h : HexStep maxValue 0 (hexRun limit input) v) :
    v ≤ u32Max := by
  have hv := h.le (Nat.zero_le _) fun d hd => lt_of_mem_hexRun hd
  unfold maxCodePoint at hmax
  unfold u32Max
  omega

/-- The values the loop of `octalFrom` computes from the accumulator `value`, with `count` digits
still allowed: at an octal digit, the value times eight that it compares with 255, and, when that
is at most 255 so that the digit is taken, the next value and the values after it. -/
inductive OctalStep : Nat → Nat → List Nat → Nat → Prop
  | scaled {value count c : Nat} {rest : List Nat} (hc : isOctal c = true) :
      OctalStep value (count + 1) (c :: rest) (value * 8)
  | next {value count c : Nat} {rest : List Nat} (hc : isOctal c = true) (h : value * 8 ≤ 255) :
      OctalStep value (count + 1) (c :: rest) (value * 8 + (c - unit '0'))
  | later {value count c v : Nat} {rest : List Nat} (hc : isOctal c = true) (h : value * 8 ≤ 255)
      (hv : OctalStep (value * 8 + (c - unit '0')) count rest v) :
      OctalStep value (count + 1) (c :: rest) v

/-- The result of the octal loop is the value it starts from or one that it computes. -/
theorem octalFrom_step (value count : Nat) (input : List Nat) :
    (octalFrom value count input).1 = value ∨
      OctalStep value count input (octalFrom value count input).1 := by
  induction count generalizing value input with
  | zero => exact Or.inl rfl
  | succ count ih =>
    cases input with
    | nil => exact Or.inl rfl
    | cons c rest =>
      rw [octalFrom]
      split
      · next hc =>
        simp only [Bool.and_eq_true, decide_eq_true_eq] at hc
        -- the digit is taken: the result is the next value or one computed after it
        rcases ih (value * 8 + (c - unit '0')) rest with h | h
        · rw [h]
          exact Or.inr (.next hc.1 hc.2)
        · exact Or.inr (.later hc.1 hc.2 h)
      · exact Or.inl rfl

/-- The loop goes on only from a value whose eighth multiple is at most 255, so from a byte no
value it computes exceeds eight times 255. -/
theorem OctalStep.le {value count v : Nat} {input : List Nat} (hv : value ≤ 255)
    (h : OctalStep value count input v) : v ≤ 8 * 255 := by
  have h0 : unit '0' = 48 := rfl
  induction h with
  | scaled => omega
  | next hc =>
    have := (isOctal_iff _).1 hc
    omega
  | later hc hle _ ih =>
    have := (isOctal_iff _).1 hc
    exact ih (by omega)

theorem OctalStep.le_u32Max {value count v : Nat} {input : List Nat} (hv : value ≤ 255)
    (h : OctalStep value count input v) : v ≤ u32Max := by
  have := h.le hv
  unfold u32Max
  omega

end Scan

namespace Lexer

/-- In every run of the lexer on a pattern of 16-bit units, whatever the Unicode library, the
flags, the options and the calls, no value wraps and no range is built out of order:

* every set a token carries is built from valid ranges, so it is in normal form, holds code
  points only and has at most `0x110000` members;
* every range of a set so built, and of its complement, is ordered and ends at a code point, and
  its end plus one fits in 32 bits;
* the value of a control letter, of a digit and of a surrogate pair is made without going below
  zero, and the pair gives a code point;
* the values of the hexadecimal loop, for a bound that is a code point, and of the octal loop,
  from a byte, fit in 32 bits;
* the span of the last token is measured between positions in order, the position being at most
  the length of the pattern. -/
theorem classes_normal_spans_exact (lib : UnicodeLibrary) (source : Source)
    (hw : ∀ u ∈ source.units, u < 0x10000) (calls : List Call) :
    let run := (new lib source).session calls
    (∀ r ∈ run.1, ∀ t ∈ r.token?, ∀ s ∈ t.set?, Reachable s ∧ s.Normal ∧
      (∀ c, s.contains c = true → c ≤ maxCodePoint) ∧ s.size ≤ maxCodePoint + 1) ∧
    (∀ s, Reachable s →
      (∀ g ∈ s.ranges, g.Valid ∧ g.hi + 1 ≤ Scan.u32Max) ∧ ∀ g ∈ s.complement.ranges, g.Valid) ∧
    (∀ l, Scan.isAsciiLetter l = true →
      Scan.unit 'A' - 1 < Scan.controlUpper l ∧ 1 ≤ Scan.controlValue l ∧
        Scan.controlValue l ≤ 26) ∧
    (∀ c, Scan.isDecimal c = true → Scan.unit '0' ≤ c ∧ c - Scan.unit '0' < 10) ∧
    (∀ c, Scan.isOctal c = true → Scan.unit '0' ≤ c ∧ c - Scan.unit '0' < 8) ∧
    (∀ lead trail, Utf16.isHigh lead = true → Utf16.isLow trail = true →
      0xD800 ≤ lead ∧ 0xDC00 ≤ trail ∧ 0x10000 ≤ Utf16.combine lead trail ∧
        Utf16.combine lead trail ≤ maxCodePoint) ∧
    (∀ maxValue limit input v, maxValue ≤ maxCodePoint →
      Scan.HexStep maxValue 0 (Scan.hexRun limit input) v → v ≤ Scan.u32Max) ∧
    (∀ value count input v, value ≤ 255 → Scan.OctalStep value count input v → v ≤ Scan.u32Max) ∧
    run.2.tokenSpan.start = position run.2.tokenStart ∧
    run.2.tokenSpan.stop = position run.2.index ∧
    run.2.tokenStart ≤ run.2.index ∧ run.2.index ≤ run.2.size := by
  intro run
  have hb : Bounded run.2 := (bounded_new lib source).session calls
  have hspan : run.2.tokenSpan.stop = position run.2.index := by
    have hle := hb.start_le
    simp only [tokenSpan, TextSpan.stop, TextSpan.between, position]
    omega
  refine ⟨fun r hr t ht s hs => ?_, fun s hs => ⟨hs.ranges_fit, hs.complement_valid⟩,
    fun l hl => Scan.controlValue_of_letter hl, fun c hc => Scan.digitValue_of_decimal hc,
    fun c hc => Scan.digitValue_of_octal hc, fun lead trail hl ht => Utf16.combine_bounds hl ht,
    fun maxValue limit input v hmax hv => Scan.HexStep.le_u32Max hmax hv,
    fun value count input v hv h => Scan.OctalStep.le_u32Max hv h, rfl, hspan, hb.start_le,
    hb.index_le⟩
  have hs' := (session_built hw calls r hr t ht).reachable s hs
  have hn := hs'.normal
  exact ⟨hs', hn, fun c hc => hn.le_of_contains hc, hn.size_le⟩

/-- The class `[^\u{41}-\u{10FFFF}]` under the `i` and `u` flags: a range up to the last code
point, folded, then complemented. -/
theorem negated_full_range_class_normal :
    let source : Source :=
      ⟨[0x5B, 0x5E, 0x5C, 0x75, 0x7B, 0x34, 0x31, 0x7D, 0x2D, 0x5C, 0x75, 0x7B, 0x31, 0x30, 0x46,
        0x46, 0x46, 0x46, 0x7D, 0x5D], { unicode := true, ignoreCase := true }, {}⟩
    (∀ u ∈ source.units, u < 0x10000) ∧
      ∀ r ∈ ((new Unicode.tables source).session [.nextToken, .next]).1, ∀ t ∈ r.token?,
        ∀ s ∈ t.set?, Reachable s ∧ s.Normal ∧ (∀ c, s.contains c = true → c ≤ maxCodePoint) ∧
          s.size ≤ maxCodePoint + 1 :=
  ⟨by decide, (classes_normal_spans_exact Unicode.tables _ (by decide) [.nextToken, .next]).1⟩

end Lexer

end EcmaRegex
