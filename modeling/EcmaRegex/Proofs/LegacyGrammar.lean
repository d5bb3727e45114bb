import Mathlib.Data.List.Chain
import EcmaRegex.Proofs.FlagIndependence
/-!
# The legacy grammar reads what the unicode grammar reads

The unicode grammar is the stricter of the two: where it reads a pattern at all, the legacy
grammar reads it the same way, token for token.  Three things of the unicode grammar have no
counterpart in the legacy one and are set aside: the escapes `\u`, which the unicode grammar may
read with braces or as half of an escaped surrogate pair, the property escapes `\p` and `\P`,
and a high surrogate unit followed by a low one, which the unicode grammar reads as one code
point.  An input none of whose adjacent units form such a pair is `Plain`.

Everywhere else the unicode grammar either refuses what the legacy grammar reads in some other
way, or takes the same branch.  The scanner lemmas below (`escapeChar_legacy` up to
`token_legacy`) follow each success of the unicode grammar to the same success of the legacy
grammar.  They need the two modes to build sets alike (`Mode.LegacyTwin`), which rules out the
`i` flag: under it the two grammars fold case differently.  The flag is brought back at the
level of whole patterns, through `tokenize_ok_sameSyntax`: it changes only the sets.
-/

namespace EcmaRegex

namespace Scan

/-- Whether two adjacent units mean something to the unicode grammar alone: an escape `\u`,
`\p` or `\P`, or a high surrogate followed by a low one. -/
def unicodeOnlyPair (a b : Nat) : Bool :=
  (a == unit '\\' && (b == unit 'u' || b == unit 'p' || b == unit 'P')) ||
    (Utf16.isHigh a && Utf16.isLow b)

/-- Input with no two adjacent units that only the unicode grammar reads together. -/
abbrev Plain (input : List Nat) : Prop :=
  input.IsChain fun a b => unicodeOnlyPair a b = false

theorem Plain.escaped {e : Nat} {rest : List Nat} (hP : Plain (unit '\\' :: e :: rest)) :
    e ≠ unit 'u' ∧ e ≠ unit 'p' ∧ e ≠ unit 'P' := by
  have hpair := (List.isChain_cons_cons.mp hP).1
  simp only [unicodeOnlyPair, Bool.or_eq_false_iff, Bool.and_eq_false_iff] at hpair
  rcases hpair.1 with h | h
  · simp at h
  · simp only [beq_eq_false_iff_ne, ne_eq] at h
    exact ⟨h.1.1, h.1.2, h.2⟩

theorem Plain.not_low {a b : Nat} {rest : List Nat} (hP : Plain (a :: b :: rest))
    (ha : Utf16.isHigh a = true) : Utf16.isLow b = false := by
  have hpair := (List.isChain_cons_cons.mp hP).1
  simp only [unicodeOnlyPair, Bool.or_eq_false_iff, ha, Bool.true_and] at hpair
  exact hpair.2

/-- A high surrogate of plain input is not paired. -/
theorem surrogatePair_plain {c : Nat} {input : List Nat} (hP : Plain (c :: input))
    (hc : Utf16.isHigh c = true) : surrogatePair c input = (c, input) := by
  cases input with
  | nil => rfl
  | cons t rest => simp only [surrogatePair, hP.not_low hc, Bool.false_eq_true, ↓reduceIte]

theorem isDecimal_of_isOctal {c : Nat} (h : isOctal c = true) : isDecimal c = true := by
  simp only [isOctal, isDecimal, unit, Char.reduceToNat, Bool.and_eq_true, decide_eq_true_eq]
    at h ⊢
  omega

/-- No syntax character is an octal digit, so an escaped syntax character is never read as an
octal escape. -/
theorem isOctal_of_isSyntaxChar {c : Nat} (h : isSyntaxChar c = true) : isOctal c = false := by
  by_contra ho
  have hdigit : c - 48 < 8 ∧ 48 ≤ c := by
    simp only [Bool.not_eq_false, isOctal, unit, Char.reduceToNat, Bool.and_eq_true,
      decide_eq_true_eq] at ho
    omega
  have hsyntax : ∀ d < 8, isSyntaxChar (48 + d) = false := by decide
  have := hsyntax (c - 48) hdigit.1
  rw [Nat.add_sub_cancel' hdigit.2, h] at this
  cases this

/-- A unicode mode and a legacy mode that build every set alike: neither folds case, and they
share the dot, the options and the Unicode library. -/
structure Mode.LegacyTwin (m m' : Mode) : Prop where
  unicode : m.unicode = true
  legacy : m'.unicode = false
  noFold : m.flags.ignoreCase = false
  noFold' : m'.flags.ignoreCase = false
  dotAll : m.flags.dotAll = m'.flags.dotAll
  options : m.options = m'.options
  library : m.library = m'.library

/-- What the unicode grammar reads as a hexadecimal number, the legacy grammar reads too. -/
theorem hex_legacy {minDigits : Nat} {maxDigits : Option Nat} {maxValue : Nat}
    {problem : Problem} {input rest : List Nat} {v : Option Nat}
    (h : hex true minDigits maxDigits maxValue problem input = .ok (v, rest)) :
    hex false minDigits maxDigits maxValue problem input = .ok (v, rest) := by
  simp only [hex] at h ⊢
  split
  · next hlt =>
    rw [if_pos hlt] at h
    cases h
  · next hge =>
    rw [if_neg hge] at h
    exact h

variable {m m' : Mode}

section LegacyTwin

variable (ht : Mode.LegacyTwin m m')
include ht

/-! ## Sets are built alike -/

theorem predefinedClass_twin : predefinedClass m = predefinedClass m' := by
  funext c
  simp only [predefinedClass, ht.unicode, ht.legacy, ht.noFold, ht.noFold', ht.options,
    Bool.and_false]

theorem classToken_twin : classToken m = classToken m' := by
  funext set invert
  simp only [classToken, ht.noFold, ht.noFold', Bool.false_eq_true, ↓reduceIte]

theorem single_twin : single m = single m' := by
  funext c
  simp only [single, classToken_twin ht]

theorem classEscape_twin : classEscape m = classEscape m' := by
  funext c input
  simp only [classEscape, predefinedClass_twin ht, ht.library]

theorem isClassEscape_twin {e : Nat} (hp : e ≠ unit 'p') (hP : e ≠ unit 'P') :
    isClassEscape m e = isClassEscape m' e := by
  simp only [isClassEscape, ht.unicode, ht.legacy, Bool.true_and, Bool.false_and, Bool.or_false]
  simp [hp, hP]

/-! ## Escapes of one code point -/

theorem controlEscape_legacy {inClass : Bool} {input rest : List Nat} {v : Nat}
    (h : controlEscape m inClass input = .ok (v, rest)) :
    controlEscape m' inClass input = .ok (v, rest) := by
  match input, h with
  | [], h => cases h
  | c :: [], h =>
    simp only [controlEscape, unreadable, ht.unicode, ↓reduceIte] at h
    cases h
  | c :: l :: after, h =>
    -- the unicode grammar reads a letter; so does the legacy one, whichever branch it takes
    simp only [controlEscape, unreadable, ht.unicode, ht.legacy, Bool.not_true, Bool.false_and,
      Bool.false_eq_true, ↓reduceIte, Bool.not_false, Bool.true_and] at h ⊢
    have hl : isAsciiLetter l = true := by
      cases hl : isAsciiLetter l
      · simp only [hl, Bool.not_false, ↓reduceIte] at h
        cases h
      · rfl
    -- a letter is no digit and no `_`, so the legacy grammar does not read it modulo 32
    have hnd : (isDecimal l || l == unit '_') = false := by
      rw [isAsciiLetter_iff] at hl
      cases hd : isDecimal l
      · simp only [Bool.false_or, beq_eq_false_iff_ne]
        show l ≠ 95
        omega
      · rw [isDecimal_iff] at hd
        omega
    simp only [hl, hnd, Bool.and_false, Bool.not_true, Bool.false_eq_true, ↓reduceIte] at h ⊢
    exact h

theorem nulEscape_legacy {input rest : List Nat} {v : Nat}
    (h : nulEscape m input = .ok (v, rest)) : nulEscape m' input = .ok (v, rest) := by
  simp only [nulEscape, ht.unicode, ht.legacy, Bool.true_and, Bool.not_true, Bool.false_and,
    Bool.not_false, Bool.false_eq_true, ↓reduceIte] at h ⊢
  -- the unicode grammar refuses a digit after the `\0`, so the legacy one reads no octal
  have hd : startsWithSuch input isDecimal = false := by
    cases hd : startsWithSuch input isDecimal
    · rfl
    · rw [if_pos hd] at h
      cases h
  have ho : startsWithSuch input isOctal = false := by
    cases input with
    | nil => rfl
    | cons c tail =>
      simp only [startsWithSuch, List.head?_cons, Option.any_some] at hd ⊢
      cases ho : isOctal c
      · rfl
      · rw [isDecimal_of_isOctal ho] at hd
        cases hd
  rw [if_neg (by simp [hd])] at h
  rw [if_neg (by simp [ho])]
  exact h

theorem hexEscape_legacy {input rest : List Nat} {v : Nat}
    (h : hexEscape m input = .ok (v, rest)) : hexEscape m' input = .ok (v, rest) := by
  simp only [hexEscape, ht.unicode, ht.legacy] at h ⊢
  cases hx : hex true 2 (some 2) 0xFF .invalidEscape input with
  | error e =>
    rw [hx] at h
    cases h
  | ok p =>
    rw [hx] at h
    rw [hex_legacy hx]
    exact h

/-- An escape of one code point other than `\u` is read alike by both grammars. -/
theorem escapeChar_legacy {inClass : Bool} {c : Nat} {input rest : List Nat} {v : Nat}
    (hc : c ≠ unit 'u') (h : escapeChar m inClass (c :: input) = .ok (v, rest)) :
    escapeChar m' inClass (c :: input) = .ok (v, rest) := by
  simp only [escapeChar] at h ⊢
  by_cases h1 : (inClass && c == unit 'b') = true
  · rw [if_pos h1] at h ⊢
    exact h
  rw [if_neg h1] at h ⊢
  by_cases h2 : (c == unit '0') = true
  · rw [if_pos h2] at h ⊢
    exact nulEscape_legacy ht h
  rw [if_neg h2] at h ⊢
  cases hv : controlLetter? c with
  | some w =>
    simp only [hv] at h ⊢
    exact h
  | none =>
    simp only [hv] at h ⊢
    by_cases h3 : (c == unit 'c') = true
    · rw [if_pos h3] at h ⊢
      exact controlEscape_legacy ht h
    rw [if_neg h3] at h ⊢
    have h4 : ¬(c == unit 'u') = true := by simpa using hc
    rw [if_neg h4] at h ⊢
    by_cases h5 : (c == unit 'x') = true
    · rw [if_pos h5] at h ⊢
      exact hexEscape_legacy ht h
    rw [if_neg h5] at h ⊢
    by_cases h6 : (inClass && c == unit '-') = true
    · rw [if_pos h6] at h ⊢
      exact h
    rw [if_neg h6] at h ⊢
    -- past the octal escape of the legacy grammar, only a syntax character is readable
    simp only [ht.unicode, ht.legacy, Bool.not_true, Bool.false_and, Bool.false_eq_true,
      ↓reduceIte, Bool.not_false, Bool.true_and, unreadable] at h ⊢
    by_cases h7 : isSyntaxChar c = true
    · rw [if_pos h7] at h
      rw [if_neg (by simp [isOctal_of_isSyntaxChar h7]), if_pos h7]
      exact h
    · rw [if_neg h7] at h
      cases h

/-! ## Classes -/

/-- One code point of a class over plain input is read alike: an escape is neither `\u` nor a
property escape, and a high surrogate is not paired. -/
theorem classCodePoint_legacy {c : Nat} {input rest : List Nat} {v : Sum Nat Nat}
    (hP : Plain (c :: input)) (h : classCodePoint m c input = .ok (v, rest)) :
    classCodePoint m' c input = .ok (v, rest) := by
  simp only [classCodePoint] at h ⊢
  by_cases hc : (c == unit '\\') = true
  · rw [if_pos hc] at h ⊢
    rw [beq_iff_eq.mp hc] at hP
    cases input with
    | nil => cases h
    | cons e tail =>
      obtain ⟨hnu, hnp, hnP⟩ := hP.escaped
      dsimp only at h ⊢
      rw [← isClassEscape_twin ht hnp hnP]
      split at h
      · next hce =>
        rw [if_pos hce]
        exact h
      · next hce =>
        rw [if_neg hce]
        cases hx : escapeChar m true (e :: tail) with
        | error err =>
          rw [hx] at h
          cases h
        | ok p =>
          rw [hx] at h
          rw [escapeChar_legacy ht hnu hx]
          exact h
  · rw [if_neg hc] at h ⊢
    rw [if_neg (by simp [ht.legacy])]
    by_cases hh : Utf16.isHigh c = true
    · rw [if_pos (by simp [ht.unicode, hh]), surrogatePair_plain hP hh] at h
      exact h
    · rw [if_neg (by simp [ht.unicode, hh])] at h
      exact h

theorem classRangeFrom_legacy {set : CodePointSet} {lo : Nat} {input rest : List Nat}
    {s : CodePointSet} (hP : Plain input) (h : classRangeFrom m set lo input = .ok (s, rest)) :
    classRangeFrom m' set lo input = .ok (s, rest) := by
  simp only [classRangeFrom] at h ⊢
  by_cases hd : (!startsWith input "-") = true
  · rw [if_pos hd] at h ⊢
    exact h
  rw [if_neg hd] at h ⊢
  have hP' : Plain (input.drop 1) := hP.drop 1
  generalize input.drop 1 = tail at h hP' ⊢
  cases tail with
  | nil => exact h
  | cons c after =>
    dsimp only at h ⊢
    by_cases hc : (c == unit ']') = true
    · rw [if_pos hc] at h ⊢
      exact h
    rw [if_neg hc] at h ⊢
    cases hx : classCodePoint m c after with
    | error err =>
      rw [hx] at h
      cases h
    | ok p =>
      obtain ⟨hi, after'⟩ := p
      rw [hx] at h
      rw [classCodePoint_legacy ht hP' hx]
      cases hi with
      | inl hi => exact h
      | inr e =>
        -- the unicode grammar refuses a class escape as the high end of a range
        simp only [ht.unicode, ↓reduceIte] at h
        cases h

theorem classAtom_legacy {set : CodePointSet} {c : Nat} {input rest : List Nat}
    {s : CodePointSet} (hP : Plain (c :: input)) (h : classAtom m set c input = .ok (s, rest)) :
    classAtom m' set c input = .ok (s, rest) := by
  simp only [classAtom] at h ⊢
  cases hx : classCodePoint m c input with
  | error err =>
    rw [hx] at h
    cases h
  | ok p =>
    obtain ⟨v, after⟩ := p
    rw [hx] at h
    rw [classCodePoint_legacy ht hP hx]
    cases v with
    | inl lo =>
      exact classRangeFrom_legacy ht
        (hP.tail.suffix ((StopsAfter.classCodePoint c input).suffix_of_ok hx)) h
    | inr e =>
      dsimp only at h ⊢
      rw [← classEscape_twin ht]
      cases hy : classEscape m e after with
      | error err =>
        rw [hy] at h
        cases h
      | ok q =>
        obtain ⟨escaped, after'⟩ := q
        rw [hy] at h
        dsimp only at h ⊢
        -- the unicode grammar refuses a class escape as the low end of a range
        split at h
        · cases h
        · rw [if_neg (by simp [ht.legacy])]
          exact h

/-- The atoms of a class over plain input are read alike, up to the `]`. -/
theorem classBody_legacy {invert : Bool} {set : CodePointSet} {input rest : List Nat}
    {t : Token} (hP : Plain input) (h : classBody m invert set input = .ok (t, rest)) :
    classBody m' invert set input = .ok (t, rest) := by
  fun_induction classBody m invert set input with
  | case1 => cases h
  | case2 s0 c tail hc =>
    rw [classBody.eq_2, if_pos hc, ← classToken_twin ht]
    exact h
  | case3 => cases h
  | case4 s0 c tail hc set' after heq _ ih =>
    rw [classBody.eq_2, if_neg hc]
    split
    · next err heq' =>
      rw [classAtom_legacy ht hP heq] at heq'
      cases heq'
    · next set'' after' heq' =>
      rw [classAtom_legacy ht hP heq] at heq'
      cases heq'
      exact ih (hP.tail.suffix ((StopsAfter.classAtom s0 c tail).suffix_of_ok heq)) h

theorem charClass_legacy {input rest : List Nat} {t : Token} (hP : Plain input)
    (h : charClass m input = .ok (t, rest)) : charClass m' input = .ok (t, rest) := by
  simp only [charClass] at h ⊢
  split at h
  · next hs =>
    rw [if_pos hs]
    exact classBody_legacy ht (hP.drop 1) h
  · next hs =>
    rw [if_neg hs]
    exact classBody_legacy ht hP h

/-! ## Tokens -/

theorem quantifier_legacy {lastToken : Option TokenKind} {c : Nat} {input rest : List Nat}
    {t : Token} (h : quantifier m lastToken c input = .ok (t, rest)) :
    quantifier m' lastToken c input = .ok (t, rest) := by
  simp only [quantifier] at h ⊢
  split at h
  · next hc =>
    rw [if_pos hc]
    cases hb : countedBounds input with
    | some b =>
      rw [hb] at h
      exact h
    | none =>
      -- the unicode grammar refuses a `{` that starts no bounds
      simp only [hb, ht.unicode, ↓reduceIte] at h
      cases h
  · next hc =>
    rw [if_neg hc]
    exact h

/-- An escape outside a class over plain input is read alike. -/
theorem escape_legacy {groups : Nat} {input rest : List Nat} {t : Token}
    (hP : Plain (unit '\\' :: input)) (h : escape m groups input = .ok (t, rest)) :
    escape m' groups input = .ok (t, rest) := by
  cases input with
  | nil => cases h
  | cons c tail =>
    obtain ⟨hnu, hnp, hnP⟩ := hP.escaped
    simp only [escape] at h ⊢
    -- backreferences and boundaries read no mode
    split at h
    · exact h
    · by_cases hb : (c == unit 'b') = true
      · rw [if_pos hb] at h ⊢
        exact h
      rw [if_neg hb] at h ⊢
      by_cases hB : (c == unit 'B') = true
      · rw [if_pos hB] at h ⊢
        exact h
      rw [if_neg hB] at h ⊢
      by_cases hpc : isPredefinedClass c = true
      · rw [if_pos hpc] at h ⊢
        rw [← predefinedClass_twin ht]
        exact h
      rw [if_neg hpc] at h ⊢
      rw [if_neg (by simp [hnp, hnP])] at h
      rw [if_neg (by simp [ht.legacy])]
      cases hx : escapeChar m false (c :: tail) with
      | error err =>
        rw [hx] at h
        cases h
      | ok p =>
        rw [hx] at h
        rw [escapeChar_legacy ht hnu hx, ← single_twin ht]
        exact h

/-- A token of plain input is read alike. -/
theorem token_legacy {groups : Nat} {lastToken : Option TokenKind} {input rest : List Nat}
    {t : Token} (hP : Plain input) (h : token m groups lastToken input = .ok (t, rest)) :
    token m' groups lastToken input = .ok (t, rest) := by
  cases input with
  | nil =>
    rw [token.eq_1] at h
    cases h
  | cons c tail =>
    rw [token_cons] at h ⊢
    rw [ht.legacy, opener_legacy m.unicode c]
    generalize ho : opener m.unicode c = o at h ⊢
    cases o with
    | caret | dollar | alternation | groupBegin | groupEnd => exact h
    | quantifier => exact quantifier_legacy ht h
    | charClass => exact charClass_legacy ht hP.tail h
    | escape =>
      rw [opener_eq_escape ho] at hP
      exact escape_legacy ht hP h
    -- the unicode grammar refuses a lone `}` and a lone `]`, which the legacy one reads
    | loneBrace | loneBracket => cases h
    | dot =>
      dsimp only [opened, Opener.legacy] at h ⊢
      rw [← classToken_twin ht, ← ht.dotAll]
      exact h
    | literal =>
      dsimp only [opened, Opener.legacy] at h ⊢
      rw [← single_twin ht]
      exact h
    | pair =>
      -- in plain input no low surrogate follows a high one, which is read alone
      dsimp only [opened, Opener.legacy] at h ⊢
      rw [surrogatePair_plain hP (opener_eq_pair ho).2] at h
      rw [← single_twin ht]
      exact h

end LegacyTwin

end Scan

namespace Lexer

/-- A lexer of the unicode grammar and one of the legacy grammar over the same pattern and in
the same state, with modes that build sets alike. -/
structure LegacyTwin (l l' : Lexer) : Prop where
  units : l.source.units = l'.source.units
  mode : Scan.Mode.LegacyTwin l.mode l'.mode
  index : l.index = l'.index
  tokenStart : l.tokenStart = l'.tokenStart
  lastToken : l.lastToken = l'.lastToken
  groupCount : l.groupCount = l'.groupCount

namespace LegacyTwin

variable {l l' : Lexer} (h : LegacyTwin l l')
include h

theorem size : l.size = l'.size := by
  simp only [Lexer.size, h.units]

theorem rest : l.rest = l'.rest := by
  simp only [Lexer.rest, h.units, h.index]

theorem hasNext : l.hasNext = l'.hasNext := by
  simp only [Lexer.hasNext, h.index, h.size]

/-- A token the unicode lexer reads from a plain pattern, the legacy lexer reads too, and the
two stay twins. -/
theorem nextToken {t : Token} (hP : Scan.Plain l.source.units) (hok : l.nextToken.1 = .ok t) :
    l'.nextToken.1 = .ok t ∧ LegacyTwin l.nextToken.2 l'.nextToken.2 := by
  cases hs : Scan.token l.mode l.groupCount l.lastToken l.rest with
  | error e =>
    rw [nextToken_error hs] at hok
    cases hok
  | ok r =>
    obtain ⟨t', after⟩ := r
    have hs' : Scan.token l'.mode l'.groupCount l'.lastToken l'.rest = .ok (t', after) := by
      rw [← h.groupCount, ← h.lastToken, ← h.rest]
      exact Scan.token_legacy h.mode (hP.drop l.index) hs
    rw [nextToken_ok hs] at hok ⊢
    rw [nextToken_ok hs']
    cases hok
    refine ⟨rfl, h.units, h.mode, ?_, h.index, rfl, ?_⟩
    · show l.size - after.length = l'.size - after.length
      rw [h.size]
    · show countGroup l.groupCount t.kind = countGroup l'.groupCount t.kind
      rw [h.groupCount]

/-- Where the unicode lexer reads the rest of a plain pattern without an error, the legacy
lexer reads the same tokens with the same spans. -/
theorem tokenizeFrom (hP : Scan.Plain l.source.units) (acc : Array Lexeme)
    (hok : (l.tokenizeFrom acc).2 = none) : l'.tokenizeFrom acc = l.tokenizeFrom acc := by
  fun_induction l.tokenizeFrom acc generalizing l' with
  | case1 l acc hn t l₁ heq _ ih =>
    have hn' : l'.hasNext = true := by
      rw [← h.hasNext]
      exact hn
    obtain ⟨ht', hsync⟩ := h.nextToken hP (by rw [heq])
    rw [heq] at hsync
    have hsrc : l₁.source = l.source := by
      rw [← nextToken_source l, heq]
    rw [Lexer.tokenizeFrom.eq_1 l' acc, dif_pos hn']
    split
    · next t' l₁' heq' =>
      rw [heq'] at ht' hsync
      dsimp only at hsync
      cases ht'
      have hspan : l₁'.tokenSpan = l₁.tokenSpan := by
        simp only [tokenSpan, hsync.tokenStart, hsync.index]
      rw [hspan]
      exact ih hsync (hsrc ▸ hP) hok
    · next e' _ heq' =>
      rw [heq'] at ht'
      cases ht'
  | case2 l acc hn e l₁ heq => cases hok
  | case3 l acc hn =>
    have hn' : ¬l'.hasNext = true := by
      rw [← h.hasNext]
      exact hn
    rw [Lexer.tokenizeFrom.eq_1 l' acc, dif_neg hn']

end LegacyTwin

end Lexer

/-- A plain pattern read by the unicode grammar is read to the same tokens by the legacy
grammar, under modes that build sets alike. -/
theorem tokenize_legacy {lib : UnicodeLibrary} {units : List Nat} {f f' : Flags} {o : Options}
    (hP : Scan.Plain units) (hm : Scan.Mode.LegacyTwin ⟨f, o, lib⟩ ⟨f', o, lib⟩) {ts : List Token}
    (h : tokenize lib ⟨units, f, o⟩ = .ok ts) : tokenize lib ⟨units, f', o⟩ = .ok ts := by
  obtain ⟨hnone, hts⟩ := tokenize_eq_ok_iff.mp h
  have htwin : Lexer.LegacyTwin (Lexer.new lib ⟨units, f, o⟩) (Lexer.new lib ⟨units, f', o⟩) :=
    ⟨rfl, hm, rfl, rfl, rfl, rfl⟩
  have hrun := htwin.tokenizeFrom hP #[] hnone
  refine tokenize_eq_ok_iff.mpr ⟨?_, ?_⟩
  · show ((Lexer.new lib ⟨units, f', o⟩).tokenizeFrom #[]).2 = none
    rw [hrun]
    exact hnone
  · show ((Lexer.new lib ⟨units, f', o⟩).tokenizeFrom #[]).1.toList.map (·.token) = ts
    rw [hrun]
    exact hts

/-- Two lists of tokens agree token by token up to the sets of classes exactly when their
skeletons are equal. -/
theorem Token.forall₂_skeleton_iff {ts ts' : List Token} :
    List.Forall₂ (fun t t' : Token => t.skeleton = t'.skeleton) ts ts' ↔
      ts.map Token.skeleton = ts'.map Token.skeleton := by
  rw [← List.forall₂_eq_eq_eq, List.forall₂_map_left_iff, List.forall₂_map_right_iff]

/-- Where the unicode grammar reads a pattern with none of the pairs `\u`, `\p`, `\P` and no
high surrogate before a low one, the legacy grammar reads it too, under the same flags but `u`
and the same options: to tokens of the same kinds, equal unless they are character classes, and
equal outright without the `i` flag. -/
theorem legacy_reads_unicode_tokens (lib : UnicodeLibrary) (units : List Nat) (flags : Flags)
    (options : Options) (hpairs : units.IsChain fun a b => Scan.unicodeOnlyPair a b = false)
    (hu : flags.unicode = false) (ts : List Token)
    (h : tokenize lib ⟨units, { flags with unicode := true }, options⟩ = .ok ts) :
    ∃ ts', tokenize lib ⟨units, flags, options⟩ = .ok ts' ∧
      List.Forall₂ (fun t t' => t.kind = t'.kind ∧ (t.kind ≠ .charClass → t = t')) ts ts' ∧
      (flags.ignoreCase = false → ts' = ts) := by
  -- the `i` flag changes only the sets: drop it on the unicode side,
  obtain ⟨ts₁, h₁, hskel₁⟩ := @tokenize_ok_sameSyntax lib units { flags with unicode := true }
    { flags with unicode := true, ignoreCase := false } options options rfl ts h
  -- read the same tokens under the legacy grammar,
  have h₂ : tokenize lib ⟨units, { flags with ignoreCase := false }, options⟩ = .ok ts₁ :=
    @tokenize_legacy lib units { flags with unicode := true, ignoreCase := false }
      { flags with ignoreCase := false } options hpairs ⟨rfl, hu, rfl, rfl, rfl, rfl, rfl⟩ ts₁ h₁
  -- and put the flag back on the legacy side
  obtain ⟨ts', h₃, hskel₂⟩ := @tokenize_ok_sameSyntax lib units { flags with ignoreCase := false }
    flags options options rfl ts₁ h₂
  refine ⟨ts', h₃, ?_, fun hi => ?_⟩
  · have hmap := (Token.forall₂_skeleton_iff.mp hskel₁).trans
      (Token.forall₂_skeleton_iff.mp hskel₂)
    exact (Token.forall₂_skeleton_iff.mpr hmap).imp fun t t' hs =>
      Token.skeleton_eq_skeleton_iff.mp hs
  · have hf₀ : { flags with ignoreCase := false } = flags := by
      rw [← hi]
    have hfu : { flags with unicode := true, ignoreCase := false } =
        { flags with unicode := true } := by
      rw [← hi]
    rw [hf₀, h₃, Except.ok.injEq] at h₂
    rw [hfu, h, Except.ok.injEq] at h₁
    rw [h₂, h₁]

/-- A group, a quantifier, an alternation, the anchors and a boundary: `(?:)+|^$\b`. -/
theorem legacy_reads_group_plus :
    Scan.Plain [40, 63, 58, 41, 43, 124, 94, 36, 92, 98] ∧
    tokenize Unicode.tables ⟨[40, 63, 58, 41, 43, 124, 94, 36, 92, 98], { unicode := true }, {}⟩ =
      .ok [.nonCaptureGroupBegin, .groupEnd, .quantifier ⟨1, none, true⟩, .alternation, .caret,
        .dollar, .wordBoundary] ∧
    ∃ ts', tokenize Unicode.tables ⟨[40, 63, 58, 41, 43, 124, 94, 36, 92, 98], {}, {}⟩ = .ok ts' ∧
      List.Forall₂ (fun t t' => t.kind = t'.kind ∧ (t.kind ≠ .charClass → t = t'))
        [.nonCaptureGroupBegin, .groupEnd, .quantifier ⟨1, none, true⟩, .alternation, .caret,
          .dollar, .wordBoundary] ts' ∧
      (({} : Flags).ignoreCase = false → ts' = [.nonCaptureGroupBegin, .groupEnd,
        .quantifier ⟨1, none, true⟩, .alternation, .caret, .dollar, .wordBoundary]) := by
  have hP : Scan.Plain [40, 63, 58, 41, 43, 124, 94, 36, 92, 98] := by decide
  have hok : tokenize Unicode.tables ⟨[40, 63, 58, 41, 43, 124, 94, 36, 92, 98], { unicode := true }, {}⟩ =
      .ok [.nonCaptureGroupBegin, .groupEnd, .quantifier ⟨1, none, true⟩, .alternation, .caret,
        .dollar, .wordBoundary] :=
    tokenize_eq_ok_iff.mpr (by decide +kernel)
  exact ⟨hP, hok, legacy_reads_unicode_tokens Unicode.tables _ {} {} hP rfl _ hok⟩

end EcmaRegex
