import EcmaRegex.Proofs.Openers
/-!
# Where a scan stops

A scanner that fails keeps the input at the point where it stopped, and the lexer resumes there;
one that succeeds leaves the input after its token.  This file says once, for every scanner,
where that point lies, and both facts the lexer needs follow from it: every read consumes at
least its first unit (`Scan.token_rest_length`), so the position moves forward on errors as well,
and in the unicode grammar a read ends on a whole code point, with one exception.

In the unicode grammar a high surrogate followed by a low surrogate is one code point.  A scan
stops on a clean cut (`Scan.CutsClean`) when what it leaves is a suffix of its input and the
units it read do not end with a high surrogate whose low surrogate is left.  The scanners of
digits, literals, bounds, groups and property names read ASCII, or whole pairs, and stop cleanly
in either grammar.  The scanners above them stop as `Scan.Stops` says: in the unicode grammar
cleanly, except that an escape whose escaped unit cannot be read fails right after that one
unit, which splits a pair when it is a high surrogate with its low surrogate after it
(`Scan.SplitsEscape`); in the legacy grammar, which reads surrogates one by one, anywhere after
their start.  A scanner that reads a first unit of its own before the rest, such as a token or
a class atom, also consumes that unit (`Scan.StopsAfter`).
-/

namespace EcmaRegex

/-- The input a scan leaves, whether it succeeded or failed. -/
def Scanned.rest {α : Type} : Scanned α → List Nat
  | .ok (_, rest) => rest
  | .error (_, rest) => rest

@[simp] theorem Scanned.rest_ok {α : Type} (a : α) (rest : List Nat) :
    Scanned.rest (.ok (a, rest) : Scanned α) = rest := rfl

@[simp] theorem Scanned.rest_error {α : Type} (p : Problem) (rest : List Nat) :
    Scanned.rest (.error (p, rest) : Scanned α) = rest := rfl

namespace Utf16

/-- Whether cutting a unit list into `pre` and `after` separates a surrogate pair: `pre` ends
with a high surrogate and `after` starts with a low one. -/
def SplitsPair (pre after : List Nat) : Bool :=
  pre.getLast?.any isHigh && after.head?.any isLow

theorem splitsPair_nil_right (pre : List Nat) : SplitsPair pre [] = false := by
  simp [SplitsPair]

/-- Only the last unit before a cut decides whether it separates a pair. -/
theorem splitsPair_append (pre : List Nat) {mid : List Nat} (hmid : mid ≠ []) (after : List Nat) :
    SplitsPair (pre ++ mid) after = SplitsPair mid after := by
  simp only [SplitsPair, List.getLast?_append]
  cases h : mid.getLast? with
  | none => exact absurd (List.getLast?_eq_none_iff.1 h) hmid
  | some u => rfl

theorem isHigh_unit {ch : Char} (h : ch.toNat < 0xD800) : isHigh (Scan.unit ch) = false := by
  simp only [isHigh, Scan.unit, Bool.and_eq_false_iff, decide_eq_false_iff_not]
  omega

theorem isHigh_of_isDecimal {c : Nat} (h : Scan.isDecimal c = true) : isHigh c = false := by
  simp only [Scan.isDecimal, Scan.unit, Bool.and_eq_true, decide_eq_true_eq] at h
  simp only [isHigh, Bool.and_eq_false_iff, decide_eq_false_iff_not]
  have : ('9'.toNat : Nat) = 57 := rfl
  omega

theorem isHigh_of_hexValue {c d : Nat} (h : Scan.hexValue? c = some d) : isHigh c = false := by
  simp only [isHigh, Bool.and_eq_false_iff, decide_eq_false_iff_not]
  simp only [Scan.hexValue?, Scan.unit] at h
  have h9 : ('9'.toNat : Nat) = 57 := rfl
  have hF : ('F'.toNat : Nat) = 70 := rfl
  have hf : ('f'.toNat : Nat) = 102 := rfl
  split at h
  · next hc =>
    simp only [Bool.and_eq_true, decide_eq_true_eq] at hc
    omega
  split at h
  · next hc =>
    simp only [Bool.and_eq_true, decide_eq_true_eq] at hc
    omega
  split at h
  · next hc =>
    simp only [Bool.and_eq_true, decide_eq_true_eq] at hc
    omega
  · cases h

theorem isHigh_of_isAsciiLetter {c : Nat} (h : Scan.isAsciiLetter c = true) : isHigh c = false := by
  simp only [Scan.isAsciiLetter, Scan.unit, Bool.or_eq_true, Bool.and_eq_true,
    decide_eq_true_eq] at h
  simp only [isHigh, Bool.and_eq_false_iff, decide_eq_false_iff_not]
  have hA : ('A'.toNat : Nat) = 65 := rfl
  have hZ : ('Z'.toNat : Nat) = 90 := rfl
  have ha : ('a'.toNat : Nat) = 97 := rfl
  have hz : ('z'.toNat : Nat) = 122 := rfl
  omega

theorem isHigh_of_beq_unit {c : Nat} {ch : Char} (h : (c == Scan.unit ch) = true)
    (hch : ch.toNat < 0xD800) : isHigh c = false := by
  rw [beq_iff_eq.1 h]
  exact isHigh_unit hch

theorem isHigh_of_isOctal {c : Nat} (h : Scan.isOctal c = true) : isHigh c = false := by
  simp only [Scan.isOctal, Scan.unit, Bool.and_eq_true, decide_eq_true_eq] at h
  simp only [isHigh, Bool.and_eq_false_iff, decide_eq_false_iff_not]
  have : ('7'.toNat : Nat) = 55 := rfl
  omega

/-- A unit that is one of the characters of a text below the surrogates is no high surrogate. -/
theorem isHigh_of_any_unit {s : String} {c : Nat}
    (hs : (s.toList.all fun x => decide (x.toNat < 0xD800)) = true)
    (h : (s.toList.any fun ch => Scan.unit ch == c) = true) : isHigh c = false := by
  rw [List.any_eq_true] at h
  obtain ⟨ch, hch, hc⟩ := h
  rw [← beq_iff_eq.1 hc]
  exact isHigh_unit (of_decide_eq_true (List.all_eq_true.1 hs ch hch))

theorem isHigh_of_isSyntaxChar {c : Nat} (h : Scan.isSyntaxChar c = true) : isHigh c = false :=
  isHigh_of_any_unit (by decide) h

theorem isHigh_of_isLow {u : Nat} (h : isLow u = true) : isHigh u = false := by
  simp only [isLow, Bool.and_eq_true, decide_eq_true_eq] at h
  simp only [isHigh, Bool.and_eq_false_iff, decide_eq_false_iff_not]
  omega

theorem isHigh_of_isPredefinedClass {c : Nat} (h : Scan.isPredefinedClass c = true) :
    isHigh c = false :=
  isHigh_of_any_unit (by decide) h

theorem isHigh_of_isClassEscape {m : Scan.Mode} {c : Nat} (h : Scan.isClassEscape m c = true) :
    isHigh c = false := by
  simp only [Scan.isClassEscape, Bool.or_eq_true, Bool.and_eq_true] at h
  rcases h with hp | ⟨-, hp | hp⟩
  · exact isHigh_of_isPredefinedClass hp
  · exact isHigh_of_beq_unit hp (by decide)
  · exact isHigh_of_beq_unit hp (by decide)

theorem isHigh_of_controlLetter {c v : Nat} (h : Scan.controlLetter? c = some v) :
    isHigh c = false := by
  simp only [Scan.controlLetter?] at h
  split at h
  · next ht => exact isHigh_of_beq_unit ht (by decide)
  split at h
  · next hn => exact isHigh_of_beq_unit hn (by decide)
  split at h
  · next hv => exact isHigh_of_beq_unit hv (by decide)
  split at h
  · next hf => exact isHigh_of_beq_unit hf (by decide)
  split at h
  · next hr => exact isHigh_of_beq_unit hr (by decide)
  · cases h

end Utf16

namespace Scan

open Utf16

/-- `after` is what a scan left of `input`, having read whole code points: a suffix of `input`
whose cut from the units read separates no surrogate pair. -/
def CutsClean (input after : List Nat) : Prop :=
  ∃ pre, input = pre ++ after ∧ SplitsPair pre after = false

theorem CutsClean.refl (input : List Nat) : CutsClean input input :=
  ⟨[], rfl, rfl⟩

theorem CutsClean.nil (input : List Nat) : CutsClean input [] :=
  ⟨input, (List.append_nil input).symm, splitsPair_nil_right input⟩

theorem CutsClean.trans {a b c : List Nat} (hab : CutsClean a b) (hbc : CutsClean b c) :
    CutsClean a c := by
  obtain ⟨p, rfl, hp⟩ := hab
  obtain ⟨q, rfl, hq⟩ := hbc
  refine ⟨p ++ q, (List.append_assoc ..).symm, ?_⟩
  cases q with
  | nil => simpa using hp
  | cons x xs => rw [splitsPair_append p (List.cons_ne_nil x xs), hq]

/-- A clean cut leaves a suffix of the input. -/
theorem CutsClean.suffix {input after : List Nat} (h : CutsClean input after) :
    after <:+ input := by
  obtain ⟨pre, rfl, -⟩ := h
  exact List.suffix_append pre after

/-- Reading one unit that is no high surrogate cuts cleanly after it. -/
theorem CutsClean.cons {c : Nat} {rest : List Nat} (hc : isHigh c = false) :
    CutsClean (c :: rest) rest :=
  ⟨[c], rfl, by simp [SplitsPair, hc]⟩

/-- A suffix that does not start with a low surrogate is a clean cut, whatever was read. -/
theorem CutsClean.of_head {input after : List Nat} (hs : after <:+ input)
    (hhead : after.head?.any isLow = false) : CutsClean input after := by
  obtain ⟨pre, hpre⟩ := hs
  exact ⟨pre, hpre.symm, by simp [SplitsPair, hhead]⟩

/-- A cut before a unit that is no low surrogate is clean, whatever was read before it. -/
theorem CutsClean.cons_of_head {c : Nat} {rest : List Nat} (h : rest.head?.any isLow = false) :
    CutsClean (c :: rest) rest :=
  CutsClean.of_head (List.suffix_cons c rest) h

/-- Reading an ASCII literal that the input starts with cuts cleanly after it. -/
theorem CutsClean.drop_literal {input : List Nat} {lit : String} {n : Nat}
    (h : startsWith input lit = true) (hn : (lit.toList.map unit).length = n)
    (hlast : (lit.toList.map unit).getLast?.any isHigh = false) :
    CutsClean input (input.drop n) := by
  obtain ⟨rest, hrest⟩ := List.isPrefixOf_iff_prefix.1 h
  subst hrest
  rw [← hn, List.drop_left]
  exact ⟨_, rfl, by simp only [SplitsPair, hlast, Bool.false_and]⟩

theorem CutsClean.decimalFrom (value : Nat) (input : List Nat) :
    CutsClean input (decimalFrom value input).2 := by
  induction input generalizing value with
  | nil => exact CutsClean.refl _
  | cons c rest ih =>
    rw [Scan.decimalFrom]
    split
    · next hc => exact (CutsClean.cons (isHigh_of_isDecimal hc)).trans (ih _)
    · exact CutsClean.refl _

/-! ## Scanners that stop cleanly in either grammar -/

section Leaves

variable {m : Mode}

/-- Hexadecimal digits are ASCII, so reading them stops cleanly, whether the value stays in
bounds or not. -/
theorem CutsClean.hexAccumulate (maxValue : Nat) (problem : Problem) (value : Nat)
    (limit : Option Nat) (input : List Nat) :
    CutsClean input (hexAccumulate maxValue problem value (hexRun limit input) input).rest := by
  induction input generalizing value limit with
  | nil =>
    have hrun : hexRun limit [] = [] := by
      match limit with
      | some 0 | some (_ + 1) | none => rfl
    rw [hrun]
    exact CutsClean.refl _
  | cons c rest ih =>
    have hrun : hexRun limit (c :: rest) = [] ∨ ∃ d, hexValue? c = some d ∧
        hexRun limit (c :: rest) = d :: hexRun (limit.map (· - 1)) rest := by
      match limit with
      | some 0 => exact Or.inl rfl
      | none | some (_ + 1) =>
        simp only [hexRun]
        cases hexValue? c with
        | none => exact Or.inl rfl
        | some d => exact Or.inr ⟨d, rfl, rfl⟩
    rcases hrun with hrun | ⟨d, hd, hrun⟩
    · rw [hrun]
      exact CutsClean.refl _
    · rw [hrun, Scan.hexAccumulate]
      simp only [List.drop_succ_cons, List.drop_zero]
      split
      · exact CutsClean.cons (isHigh_of_hexValue hd)
      · exact (CutsClean.cons (isHigh_of_hexValue hd)).trans (ih _ _)

theorem CutsClean.hex (unicode : Bool) (minDigits : Nat) (maxDigits : Option Nat)
    (maxValue : Nat) (problem : Problem) (input : List Nat) :
    CutsClean input (hex unicode minDigits maxDigits maxValue problem input).rest := by
  rw [Scan.hex]
  split
  · split <;> exact CutsClean.refl _
  · have h := CutsClean.hexAccumulate maxValue problem 0 maxDigits input
    split
    · next v rest heq =>
      rw [heq] at h
      exact h
    · next e heq =>
      rw [heq] at h
      exact h

theorem CutsClean.unreadable (value : Nat) (problem : Problem) (input : List Nat) :
    CutsClean input (unreadable m value problem input).rest := by
  rw [Scan.unreadable]
  split <;> exact CutsClean.refl _

/-- A unit read after one that is no high surrogate ends the read cleanly when it is no high
surrogate itself. -/
theorem CutsClean.cons_cons {c l : Nat} {rest : List Nat} (hl : isHigh l = false) :
    CutsClean (c :: l :: rest) rest :=
  ⟨[c, l], rfl, by simp [SplitsPair, hl]⟩

theorem CutsClean.octalFrom (value count : Nat) (input : List Nat) :
    CutsClean input (octalFrom value count input).2 := by
  induction count generalizing value input with
  | zero => exact CutsClean.refl _
  | succ count ih =>
    cases input with
    | nil => exact CutsClean.refl _
    | cons c rest =>
      rw [Scan.octalFrom]
      split
      · next hc =>
        simp only [Bool.and_eq_true] at hc
        exact (CutsClean.cons (isHigh_of_isOctal hc.1)).trans (ih _ _)
      · exact CutsClean.refl _

theorem CutsClean.controlEscape (inClass : Bool) (input : List Nat) :
    CutsClean input (controlEscape m inClass input).rest := by
  match input with
  | [] => exact CutsClean.refl _
  | [c] => exact CutsClean.unreadable _ _ _
  | c :: l :: after =>
    rw [Scan.controlEscape]
    split
    · next hl =>
      simp only [Bool.and_eq_true, Bool.or_eq_true] at hl
      rcases hl.2 with hd | hu
      · exact CutsClean.cons_cons (isHigh_of_isDecimal hd)
      · exact CutsClean.cons_cons (isHigh_of_beq_unit hu (by decide))
    split
    · exact CutsClean.unreadable _ _ _
    · next hl =>
      simp only [Bool.not_eq_true', Bool.not_eq_false] at hl
      exact CutsClean.cons_cons (isHigh_of_isAsciiLetter hl)

/-- A trail escape whose low surrogate is read stops cleanly, and so does its failure; when no
low surrogate is read, what it leaves is not used. -/
theorem CutsClean.trailEscape (lead : Nat) (input : List Nat) :
    CutsClean input (trailEscape m lead input).rest ∨
      ∃ after, trailEscape m lead input = .ok (none, after) := by
  rw [Scan.trailEscape]
  split
  · exact Or.inr ⟨_, rfl⟩
  · next hlit =>
    simp only [Bool.or_eq_true, Bool.not_eq_true', not_or, Bool.not_eq_false] at hlit
    have hdrop : CutsClean input (input.drop 2) :=
      CutsClean.drop_literal hlit.1 (by decide) (by decide)
    have hhex := CutsClean.hex m.unicode 4 (some 4) 0xFFFF .invalidUnicodeEscape (input.drop 2)
    split
    · next e heq =>
      rw [heq] at hhex
      exact Or.inl (hdrop.trans hhex)
    · next trail rest heq =>
      rw [heq, Scanned.rest_ok] at hhex
      split
      · rw [Scanned.rest_ok]
        exact Or.inl (hdrop.trans hhex)
      · exact Or.inr ⟨_, rfl⟩
    · exact Or.inr ⟨_, rfl⟩

theorem CutsClean.unicodeEscape (input : List Nat) :
    CutsClean input (unicodeEscape m input).rest := by
  rw [Scan.unicodeEscape]
  split
  · next hbrace =>
    simp only [Bool.and_eq_true] at hbrace
    have hdrop : CutsClean input (input.drop 1) :=
      CutsClean.drop_literal hbrace.2 (by decide) (by decide)
    have hhex := CutsClean.hex m.unicode 1 none 0x10FFFF .invalidUnicodeEscape (input.drop 1)
    split
    · next e heq =>
      rw [heq] at hhex
      exact hdrop.trans hhex
    · next v rest heq =>
      rw [heq] at hhex
      split
      · next hclose =>
        exact (hdrop.trans hhex).trans (CutsClean.drop_literal hclose (by decide) (by decide))
      · exact hdrop.trans hhex
    · next rest heq =>
      rw [heq] at hhex
      exact hdrop.trans hhex
  · have hhex := CutsClean.hex m.unicode 4 (some 4) 0xFFFF .invalidUnicodeEscape input
    split
    · next e heq =>
      rw [heq] at hhex
      exact hhex
    · next rest heq =>
      rw [heq] at hhex
      exact hhex
    · next v rest heq =>
      rw [heq] at hhex
      split
      · rcases CutsClean.trailEscape (m := m) v rest with htrail | ⟨after, htrail⟩
        · split
          · next e heq2 =>
            rw [heq2] at htrail
            exact hhex.trans htrail
          · next cp after heq2 =>
            rw [heq2] at htrail
            exact hhex.trans htrail
          · exact hhex
        · rw [htrail]
          exact hhex
      · exact hhex

theorem CutsClean.nulEscape (input : List Nat) : CutsClean input (nulEscape m input).rest := by
  rw [Scan.nulEscape]
  split
  · exact CutsClean.refl _
  split
  · exact CutsClean.octalFrom 0 2 input
  · exact CutsClean.refl _

theorem CutsClean.hexEscape (input : List Nat) : CutsClean input (hexEscape m input).rest := by
  have hhex := CutsClean.hex m.unicode 2 (some 2) 0xFF .invalidEscape input
  rw [Scan.hexEscape]
  split
  · next e heq =>
    rw [heq] at hhex
    exact hhex
  · next v rest heq =>
    rw [heq] at hhex
    exact hhex
  · next rest heq =>
    rw [heq] at hhex
    exact hhex

/-- A high surrogate is read together with the low surrogate right after it, if there is one. -/
theorem CutsClean.surrogatePair (lead : Nat) (input : List Nat) :
    CutsClean (lead :: input) (surrogatePair lead input).2 := by
  match input with
  | [] => exact CutsClean.nil _
  | trail :: rest =>
    rw [Scan.surrogatePair]
    split
    · next hlow => exact CutsClean.cons_cons (isHigh_of_isLow hlow)
    · next hlow => exact CutsClean.cons_of_head (by simpa using hlow)

/-- A property name runs up to the first closing brace, which is ASCII, so a property escape
stops cleanly. -/
theorem CutsClean.property (lib : UnicodeLibrary) (invert : Bool) (input : List Nat) :
    CutsClean input (property lib invert input).rest := by
  rw [Scan.property]
  split
  · exact CutsClean.refl _
  · next hbrace =>
    simp only [Bool.not_eq_true', Bool.not_eq_false] at hbrace
    have hdrop : CutsClean input (input.drop 1) :=
      CutsClean.drop_literal hbrace (by decide) (by decide)
    -- the name stops before a closing brace or at the end of the input
    have hname : CutsClean (input.drop 1) ((input.drop 1).dropWhile (· != unit '}')) := by
      refine CutsClean.of_head (List.dropWhile_suffix _) ?_
      have hhead := List.head?_dropWhile_not (· != unit '}') (input.drop 1)
      cases hh : ((input.drop 1).dropWhile (· != unit '}')).head? with
      | none => rfl
      | some x =>
        rw [hh] at hhead
        simp only [bne_eq_false_iff_eq] at hhead
        rw [Option.any_some, hhead]
        decide
    dsimp only
    split
    · exact hdrop.trans hname
    · next hclose =>
      simp only [Bool.not_eq_true', Bool.not_eq_false] at hclose
      have hall := (hdrop.trans hname).trans
        (CutsClean.drop_literal (n := 1) hclose (by decide) (by decide))
      split <;> exact hall

theorem CutsClean.classEscape (c : Nat) (input : List Nat) :
    CutsClean input (classEscape m c input).rest := by
  rw [Scan.classEscape]
  split
  · exact CutsClean.refl _
  · exact CutsClean.property _ _ input

theorem surrogatePair_suffix (lead : Nat) (input : List Nat) :
    (surrogatePair lead input).2 <:+ input := by
  cases input with
  | nil => exact List.suffix_refl _
  | cons t rest =>
    simp only [surrogatePair]
    split
    · exact List.suffix_cons t rest
    · exact List.suffix_refl _

theorem CutsClean.countedBounds {input rest : List Nat} {min : Nat} {max : Option Nat}
    (h : countedBounds input = some (min, max, rest)) : CutsClean input rest := by
  simp only [Scan.countedBounds] at h
  have hmin := CutsClean.decimalFrom 0 input
  split at h
  · cases h
  split at h
  · next hc =>
    cases h
    exact hmin.trans (CutsClean.drop_literal hc (by decide) (by decide))
  split at h
  · next hc =>
    cases h
    exact hmin.trans (CutsClean.drop_literal hc (by decide) (by decide))
  split at h
  · cases h
  · next hcomma =>
    simp only [Bool.not_eq_true', Bool.not_eq_false] at hcomma
    have hmid := hmin.trans (CutsClean.drop_literal (n := 1) hcomma (by decide) (by decide))
    split at h
    · cases h
    split at h
    · next hc =>
      cases h
      exact (hmid.trans (CutsClean.decimalFrom 0 _)).trans
        (CutsClean.drop_literal hc (by decide) (by decide))
    · cases h

theorem CutsClean.quantifierAfter (lastToken : Option TokenKind) (min : Nat) (max : Option Nat)
    (input : List Nat) : CutsClean input (quantifierAfter lastToken min max input).rest := by
  have hrest : CutsClean input (if startsWith input "?" then input.drop 1 else input) := by
    split
    · next hq => exact CutsClean.drop_literal hq (by decide) (by decide)
    · exact CutsClean.refl _
  simp only [Scan.quantifierAfter]
  split
  · exact hrest
  · split <;> exact hrest
  · exact hrest

theorem CutsClean.quantifier (lastToken : Option TokenKind) (c : Nat) (input : List Nat) :
    CutsClean input (quantifier m lastToken c input).rest := by
  rw [Scan.quantifier]
  split
  · split
    · next min max rest heq =>
      exact (CutsClean.countedBounds heq).trans (CutsClean.quantifierAfter _ _ _ _)
    · split <;> exact CutsClean.refl _
  split
  · exact CutsClean.quantifierAfter _ _ _ _
  split <;> exact CutsClean.quantifierAfter _ _ _ _

theorem CutsClean.groupBegin (input : List Nat) : CutsClean input (groupBegin input).2 := by
  rw [Scan.groupBegin]
  split
  · next h => exact CutsClean.drop_literal h (by decide) (by decide)
  split
  · next h => exact CutsClean.drop_literal h (by decide) (by decide)
  split
  · next h => exact CutsClean.drop_literal h (by decide) (by decide)
  split
  · next h => exact CutsClean.drop_literal h (by decide) (by decide)
  · exact CutsClean.refl _

end Leaves

/-! ## Where each scan stops -/

/-- The failure on an escape whose escaped unit is a high surrogate with its low surrogate after
it: the escape is refused after the high surrogate, so the scan stops between the two. -/
def SplitsEscape {α : Type} (input : List Nat) (r : Scanned α) : Prop :=
  ∃ pre lead trail after, input = pre ++ unit '\\' :: lead :: trail :: after ∧
    isHigh lead = true ∧ isLow trail = true ∧ r = .error (.invalidEscape, trail :: after)

theorem SplitsEscape.suffix {α : Type} {input : List Nat} {r : Scanned α}
    (h : SplitsEscape input r) : r.rest <:+ input := by
  obtain ⟨pre, lead, trail, after, rfl, -, -, rfl⟩ := h
  exact (List.suffix_cons lead _).trans ((List.suffix_cons _ _).trans (List.suffix_append pre _))

/-- Where a scan in the mode `m` stops.  In the unicode grammar it stops on a clean cut, or it
is the failure on an escaped surrogate pair, which stops inside the pair; the legacy grammar
reads surrogates one by one, and there a scan leaves a suffix of its input. -/
def Stops {α : Type} (m : Mode) (input : List Nat) (r : Scanned α) : Prop :=
  CutsClean input r.rest ∨ SplitsEscape input r ∨ (m.unicode = false ∧ r.rest <:+ input)

section Stops

variable {α β : Type} {m : Mode} {input a b : List Nat} {r : Scanned α}

theorem Stops.cuts (h : CutsClean input r.rest) : Stops m input r :=
  Or.inl h

theorem Stops.legacy (hu : m.unicode = false) (h : r.rest <:+ input) : Stops m input r :=
  Or.inr (Or.inr ⟨hu, h⟩)

/-- Whatever the grammar, a scan leaves a suffix of its input. -/
theorem Stops.suffix (h : Stops m input r) : r.rest <:+ input := by
  rcases h with h | h | ⟨-, h⟩
  · exact h.suffix
  · exact h.suffix
  · exact h

/-- In the unicode grammar a scan stops on a clean cut, or as the failure on an escaped pair. -/
theorem Stops.unicode (hu : m.unicode = true) (h : Stops m input r) :
    CutsClean input r.rest ∨ SplitsEscape input r := by
  rcases h with h | h | ⟨hl, -⟩
  · exact Or.inl h
  · exact Or.inr h
  · rw [hu] at hl
    cases hl

theorem Stops.trans (hab : CutsClean a b) (h : Stops m b r) : Stops m a r := by
  rcases h with h | ⟨pre, lead, trail, after, rfl, hl, ht, hr⟩ | ⟨hu, h⟩
  · exact Or.inl (hab.trans h)
  · obtain ⟨p, rfl, -⟩ := hab
    exact Or.inr (Or.inl ⟨p ++ pre, lead, trail, after, (List.append_assoc ..).symm, hl, ht, hr⟩)
  · exact Stops.legacy hu (h.trans hab.suffix)

/-- A scan that goes on where a successful one stopped stops where the second one does. -/
theorem Stops.bind {v : β} (h₁ : Stops m a (.ok (v, b))) (h₂ : Stops m b r) : Stops m a r := by
  rcases h₁ with h₁ | ⟨_, _, _, _, -, -, -, h⟩ | ⟨hu, h₁⟩
  · exact Stops.trans h₁ h₂
  · cases h
  · exact Stops.legacy hu (h₂.suffix.trans h₁)

/-- An outcome that leaves what a successful scan leaves stops where that scan does. -/
theorem Stops.of_ok {v : β} (h : Stops m a (.ok (v, b))) (hr : r.rest = b) : Stops m a r := by
  rcases h with h | ⟨_, _, _, _, -, -, -, h⟩ | ⟨hu, h⟩
  · exact Or.inl (hr ▸ h)
  · cases h
  · exact Stops.legacy hu (hr ▸ h)

/-- A failure handed on unchanged by the scanner that called the failing one. -/
theorem Stops.error {e : Problem × List Nat} (h : Stops m input (.error e : Scanned α)) :
    Stops m input (.error e : Scanned β) := by
  rcases h with h | ⟨pre, lead, trail, after, hin, hl, ht, h⟩ | h
  · exact Or.inl h
  · cases h
    exact Or.inr (Or.inl ⟨pre, lead, trail, after, hin, hl, ht, rfl⟩)
  · exact Or.inr (Or.inr h)

/-- Reading first a unit that the unicode grammar reads alone. -/
theorem Stops.cons {c : Nat} (hc : m.unicode = true → isHigh c = false) (h : Stops m input r) :
    Stops m (c :: input) r := by
  cases hu : m.unicode with
  | true => exact Stops.trans (CutsClean.cons (hc hu)) h
  | false => exact Stops.legacy hu (h.suffix.trans (List.suffix_cons c input))

end Stops

/-- Where a scan that reads the unit `c` before `input` stops: after `c`, and as `Stops` says
from `c`. -/
def StopsAfter {α : Type} (m : Mode) (c : Nat) (input : List Nat) (r : Scanned α) : Prop :=
  r.rest <:+ input ∧ Stops m (c :: input) r

section StopsAfter

variable {α β : Type} {m : Mode} {c : Nat} {input a b : List Nat} {r : Scanned α}

theorem StopsAfter.of_stops (hc : m.unicode = true → isHigh c = false) (h : Stops m input r) :
    StopsAfter m c input r :=
  ⟨h.suffix, h.cons hc⟩

theorem StopsAfter.of_cuts (hc : m.unicode = true → isHigh c = false)
    (h : CutsClean input r.rest) : StopsAfter m c input r :=
  StopsAfter.of_stops hc (Stops.cuts h)

/-- What an escape's scanner reads cleanly after the backslash is read cleanly from the
backslash, which is ASCII. -/
theorem StopsAfter.escaped (h : CutsClean input r.rest) : StopsAfter m (unit '\\') input r :=
  StopsAfter.of_cuts (fun _ => isHigh_unit (by decide)) h

theorem StopsAfter.bind {v : β} (h₁ : StopsAfter m c a (.ok (v, b))) (h₂ : Stops m b r) :
    StopsAfter m c a r :=
  ⟨h₂.suffix.trans h₁.1, h₁.2.bind h₂⟩

theorem StopsAfter.of_ok {v : β} (h : StopsAfter m c a (.ok (v, b))) (hr : r.rest = b) :
    StopsAfter m c a r :=
  ⟨hr ▸ h.1, h.2.of_ok hr⟩

theorem StopsAfter.error {e : Problem × List Nat}
    (h : StopsAfter m c input (.error e : Scanned α)) :
    StopsAfter m c input (.error e : Scanned β) :=
  ⟨h.1, h.2.error⟩

/-- A successful scan that reads `c` first leaves a suffix of what follows `c`. -/
theorem StopsAfter.suffix_of_ok {v : α} {rest : List Nat} (h : StopsAfter m c input r)
    (hr : r = .ok (v, rest)) : rest <:+ input := by
  subst hr
  exact h.1

end StopsAfter

section Scanners

variable {m : Mode}

/-- The escaped unit that cannot be read is read alone.  The unicode grammar fails right after
it, which splits a pair when it is a high surrogate with its low surrogate after it; the legacy
grammar takes it as itself. -/
theorem StopsAfter.unreadable_escape (c : Nat) (rest : List Nat) :
    StopsAfter m (unit '\\') (c :: rest) (unreadable m c .invalidEscape rest) := by
  rw [Scan.unreadable]
  split
  · -- the failure, which stops cleanly unless the pair is split
    cases hc : isHigh c with
    | false => exact StopsAfter.escaped (CutsClean.cons hc)
    | true =>
      cases hl : rest.head?.any isLow with
      | false => exact StopsAfter.escaped (CutsClean.cons_of_head hl)
      | true =>
        cases rest with
        | nil => cases hl
        | cons trail after =>
          exact ⟨List.suffix_cons c _, Or.inr (Or.inl ⟨[], c, trail, after, rfl, hc, hl, rfl⟩)⟩
  · next hu =>
    refine ⟨List.suffix_cons c rest, Stops.legacy (by simpa using hu) ?_⟩
    exact (List.suffix_cons c rest).trans (List.suffix_cons _ _)

/-- An escape for one code point, read after its backslash, reads ASCII, or only the escaped
unit when it cannot read it. -/
theorem StopsAfter.escapeChar (inClass : Bool) (input : List Nat) :
    StopsAfter m (unit '\\') input (escapeChar m inClass input) := by
  match input with
  | [] => exact StopsAfter.escaped (CutsClean.refl _)
  | c :: rest =>
    rw [Scan.escapeChar]
    split
    · next hb =>
      simp only [Bool.and_eq_true] at hb
      exact StopsAfter.escaped (CutsClean.cons (isHigh_of_beq_unit hb.2 (by decide)))
    split
    · next h0 =>
      exact StopsAfter.escaped ((CutsClean.cons (isHigh_of_beq_unit h0 (by decide))).trans
        (CutsClean.nulEscape rest))
    split
    · next v hv => exact StopsAfter.escaped (CutsClean.cons (isHigh_of_controlLetter hv))
    split
    · exact StopsAfter.escaped (CutsClean.controlEscape inClass (c :: rest))
    split
    · next hu' =>
      exact StopsAfter.escaped ((CutsClean.cons (isHigh_of_beq_unit hu' (by decide))).trans
        (CutsClean.unicodeEscape rest))
    split
    · next hx =>
      exact StopsAfter.escaped ((CutsClean.cons (isHigh_of_beq_unit hx (by decide))).trans
        (CutsClean.hexEscape rest))
    split
    · next hm =>
      simp only [Bool.and_eq_true] at hm
      exact StopsAfter.escaped (CutsClean.cons (isHigh_of_beq_unit hm.2 (by decide)))
    split
    · next ho =>
      simp only [Bool.and_eq_true] at ho
      exact StopsAfter.escaped ((CutsClean.cons (isHigh_of_isOctal ho.2)).trans
        (CutsClean.octalFrom _ 2 rest))
    split
    · next hs => exact StopsAfter.escaped (CutsClean.cons (isHigh_of_isSyntaxChar hs))
    · exact StopsAfter.unreadable_escape c rest

/-- A code point of a class is an escape, a surrogate pair in the unicode grammar, or the unit
itself. -/
theorem StopsAfter.classCodePoint (c : Nat) (input : List Nat) :
    StopsAfter m c input (classCodePoint m c input) := by
  unfold Scan.classCodePoint
  split
  · next hc =>
    obtain rfl : c = unit '\\' := beq_iff_eq.1 hc
    split
    · exact StopsAfter.escaped (CutsClean.refl _)
    · next e rest =>
      split
      · next he => exact StopsAfter.escaped (CutsClean.cons (isHigh_of_isClassEscape he))
      · have hesc := StopsAfter.escapeChar (m := m) true (e :: rest)
        split
        · next v after heq =>
          rw [heq] at hesc
          exact hesc.of_ok rfl
        · next err heq =>
          rw [heq] at hesc
          exact hesc.error
  split
  · -- a high surrogate in the unicode grammar, read with its pair
    have hs := CutsClean.surrogatePair c input
    have hsuf := surrogatePair_suffix c input
    rcases hpair : surrogatePair c input with ⟨v, after⟩
    rw [hpair] at hs hsuf
    exact ⟨hsuf, Stops.cuts hs⟩
  · next hh =>
    refine StopsAfter.of_cuts (fun hu => ?_) (CutsClean.refl _)
    simpa [hu] using hh

theorem Stops.classRangeFrom (set : CodePointSet) (lo : Nat) (input : List Nat) :
    Stops m input (classRangeFrom m set lo input) := by
  rw [Scan.classRangeFrom]
  split
  · exact Stops.cuts (CutsClean.refl _)
  · next hdash =>
    simp only [Bool.not_eq_true', Bool.not_eq_false] at hdash
    have hdrop : CutsClean input (input.drop 1) :=
      CutsClean.drop_literal hdash (by decide) (by decide)
    split
    · exact Stops.cuts (CutsClean.nil _)
    · next d rest heq =>
      rw [heq] at hdrop
      split
      · exact Stops.cuts hdrop
      · -- the upper end, read as a code point of the class
        have hcp := (StopsAfter.classCodePoint (m := m) d rest).2
        split
        · next err heq2 =>
          rw [heq2] at hcp
          exact Stops.trans hdrop hcp.error
        · next hi after heq2 =>
          rw [heq2] at hcp
          rw [Scan.addClassRange]
          split <;> exact Stops.trans hdrop (hcp.of_ok rfl)
        · next e after heq2 =>
          rw [heq2] at hcp
          have hesc := CutsClean.classEscape (m := m) e after
          split
          · exact Stops.trans hdrop (hcp.of_ok rfl)
          · split
            · next err heq3 =>
              rw [heq3] at hesc
              exact Stops.trans hdrop (hcp.bind (Stops.cuts hesc))
            · next escaped after' heq3 =>
              rw [heq3] at hesc
              exact Stops.trans hdrop (hcp.bind (Stops.cuts hesc))

theorem StopsAfter.classAtom (set : CodePointSet) (c : Nat) (input : List Nat) :
    StopsAfter m c input (classAtom m set c input) := by
  have hcp := StopsAfter.classCodePoint (m := m) c input
  rw [Scan.classAtom]
  split
  · next err heq =>
    rw [heq] at hcp
    exact hcp.error
  · next lo after heq =>
    rw [heq] at hcp
    exact hcp.bind (Stops.classRangeFrom set lo after)
  · next e after heq =>
    rw [heq] at hcp
    have hesc := CutsClean.classEscape (m := m) e after
    split
    · next err heq2 =>
      rw [heq2] at hesc
      exact hcp.bind (Stops.cuts hesc)
    · next escaped after' heq2 =>
      rw [heq2] at hesc
      split <;> exact hcp.bind (Stops.cuts hesc)

/-- A class body stops where its last atom does: by induction on the atoms read. -/
theorem Stops.classBody (invert : Bool) (set : CodePointSet) (input : List Nat) :
    Stops m input (classBody m invert set input) := by
  fun_induction Scan.classBody m invert set input with
  | case1 => exact Stops.cuts (CutsClean.refl _)
  | case2 _ c tail hc => exact Stops.cuts (CutsClean.cons (isHigh_of_beq_unit hc (by decide)))
  | case3 s c tail _ err heq =>
    have hatom := (StopsAfter.classAtom (m := m) s c tail).2
    rw [heq] at hatom
    exact hatom.error
  | case4 s c tail _ _ after heq _ ih =>
    have hatom := (StopsAfter.classAtom (m := m) s c tail).2
    rw [heq] at hatom
    exact hatom.bind ih

theorem Stops.charClass (input : List Nat) : Stops m input (charClass m input) := by
  rw [Scan.charClass]
  split
  · next hcaret =>
    exact Stops.trans (CutsClean.drop_literal hcaret (by decide) (by decide))
      (Stops.classBody true _ _)
  · exact Stops.classBody false _ _

/-- An escape outside a class, read after its backslash, reads ASCII, or an escape for one code
point. -/
theorem StopsAfter.escape (groups : Nat) (input : List Nat) :
    StopsAfter m (unit '\\') input (escape m groups input) := by
  match input with
  | [] => exact StopsAfter.escaped (CutsClean.refl _)
  | c :: rest =>
    simp only [Scan.escape]
    split
    · next number after heq =>
      split at heq
      · next hdigit =>
        split at heq
        · cases heq
          have hc : isHigh c = false := by
            simp only [Bool.and_eq_true, decide_eq_true_eq, unit] at hdigit
            simp only [isHigh, Bool.and_eq_false_iff, decide_eq_false_iff_not]
            have : ('9'.toNat : Nat) = 57 := rfl
            omega
          exact StopsAfter.escaped ((CutsClean.cons hc).trans (CutsClean.decimalFrom _ rest))
        · cases heq
      · cases heq
    split
    · next hb => exact StopsAfter.escaped (CutsClean.cons (isHigh_of_beq_unit hb (by decide)))
    split
    · next hB => exact StopsAfter.escaped (CutsClean.cons (isHigh_of_beq_unit hB (by decide)))
    split
    · next hd => exact StopsAfter.escaped (CutsClean.cons (isHigh_of_isPredefinedClass hd))
    split
    · next hp =>
      simp only [Bool.and_eq_true, Bool.or_eq_true] at hp
      have hc : isHigh c = false := by
        rcases hp.2 with h | h <;> exact isHigh_of_beq_unit h (by decide)
      have hprop := CutsClean.property m.library (c == unit 'P') rest
      split
      · next set after heq =>
        rw [heq] at hprop
        exact StopsAfter.escaped ((CutsClean.cons hc).trans hprop)
      · next e heq =>
        rw [heq] at hprop
        exact StopsAfter.escaped ((CutsClean.cons hc).trans hprop)
    · have hesc := StopsAfter.escapeChar (m := m) false (c :: rest)
      split
      · next v after heq =>
        rw [heq] at hesc
        exact hesc.of_ok rfl
      · next e heq =>
        rw [heq] at hesc
        exact hesc.error

/-- A token reads its first unit, and the code point it starts, or the token's scanner after it.
A high surrogate in the unicode grammar starts no token but a code point, read with its pair;
any other first unit is read alone. -/
theorem StopsAfter.token (groups : Nat) (lastToken : Option TokenKind) (c : Nat)
    (input : List Nat) : StopsAfter m c input (token m groups lastToken (c :: input)) := by
  rw [token_cons]
  by_cases hpair : opener m.unicode c = .pair
  · rw [hpair]
    exact ⟨surrogatePair_suffix c input, Stops.cuts (CutsClean.surrogatePair c input)⟩
  have hc : m.unicode = true → isHigh c = false := isHigh_of_opener_ne_pair hpair
  cases ho : opener m.unicode c with
  | pair => exact absurd ho hpair
  | quantifier => exact StopsAfter.of_cuts hc (CutsClean.quantifier _ _ _)
  | groupBegin => exact StopsAfter.of_cuts hc (CutsClean.groupBegin _)
  | charClass => exact StopsAfter.of_stops hc (Stops.charClass _)
  | escape =>
    -- the escape's scanner is followed from the backslash, which it may need
    obtain rfl := opener_eq_escape ho
    exact StopsAfter.escape groups input
  | dot | caret | dollar | loneBrace | alternation | groupEnd | loneBracket | literal =>
    exact StopsAfter.of_cuts hc (CutsClean.refl _)

theorem Stops.token (groups : Nat) (lastToken : Option TokenKind) (input : List Nat) :
    Stops m input (token m groups lastToken input) := by
  match input with
  | [] => exact Stops.cuts (CutsClean.refl _)
  | c :: rest => exact (StopsAfter.token groups lastToken c rest).2

end Scanners

/-- Whatever its outcome, a token read from a nonempty input consumes its first unit. -/
theorem token_rest_length (m : Mode) (groups : Nat) (lastToken : Option TokenKind) (c : Nat)
    (input : List Nat) : (token m groups lastToken (c :: input)).rest.length ≤ input.length :=
  (StopsAfter.token groups lastToken c input).1.length_le

end Scan

end EcmaRegex
