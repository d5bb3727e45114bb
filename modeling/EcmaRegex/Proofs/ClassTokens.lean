import EcmaRegex.Proofs.CaseFolding
import EcmaRegex.Proofs.Session
/-!
# How the sets of class tokens are built

A token that carries a set gets it in one of two ways (`Scan.ClassBuilt`): from `classToken`,
which folds a set under the `i` flag and complements it for `[^...]`, or as the set of a
predefined class escape, which is handed out as it is.  What goes into `classToken` is always a
set built from valid ranges (`CodePointSet.Reachable`): a single code point, a property, or the
atoms of a bracketed class.

Every code point that goes into a set is one, at most `0x10FFFF`: a unit of the pattern, the
code point of a surrogate pair, or the value of an escape (`Scan.escapeChar_le`).  A hexadecimal
value is checked against its bound after every digit, so that it never exceeds the bound
(`Scan.hexAccumulate_le`); an octal value takes a digit only while it stays a byte
(`Scan.octalFrom_le`); and a class range is added only once its ends are in order.

So every token of a session on 16-bit units has its set built from valid ranges
(`Lexer.session_built`).
-/

namespace EcmaRegex

open CodePointSet

theorem Utf16.combine_le {lead trail : Nat} (hl : Utf16.isHigh lead = true)
    (ht : Utf16.isLow trail = true) : Utf16.combine lead trail ≤ maxCodePoint := by
  simp only [Utf16.isHigh, Utf16.isLow, Bool.and_eq_true, decide_eq_true_eq] at hl ht
  unfold Utf16.combine maxCodePoint
  omega

namespace Scan

/-! ### Code points read by the scanners -/

theorem hexAccumulate_le {maxValue : Nat} {problem : Problem} {value : Nat}
    {digits input rest : List Nat} {v : Nat} (hv : value ≤ maxValue)
    (h : hexAccumulate maxValue problem value digits input = .ok (v, rest)) : v ≤ maxValue := by
  induction digits generalizing value input with
  | nil =>
    simp only [hexAccumulate, Except.ok.injEq, Prod.mk.injEq] at h
    exact h.1 ▸ hv
  | cons d ds ih =>
    simp only [hexAccumulate] at h
    split at h
    · cases h
    · next hle => exact ih (Nat.not_lt.1 hle) h

/-- A hexadecimal number read is at most its bound. -/
theorem hex_le {unicode : Bool} {minDigits : Nat} {maxDigits : Option Nat} {maxValue : Nat}
    {problem : Problem} {input rest : List Nat} {v : Nat}
    (h : hex unicode minDigits maxDigits maxValue problem input = .ok (some v, rest)) :
    v ≤ maxValue := by
  simp only [hex] at h
  split at h
  · split at h <;> cases h
  · split at h
    · next v' rest' heq =>
      cases h
      exact hexAccumulate_le (Nat.zero_le _) heq
    · cases h

/-- An octal escape takes a digit only while its value stays a byte. -/
theorem octalFrom_le (value count : Nat) (input : List Nat) (hv : value ≤ 255) :
    (octalFrom value count input).1 ≤ 255 := by
  induction count generalizing value input with
  | zero => exact hv
  | succ count ih =>
    cases input with
    | nil => exact hv
    | cons c rest =>
      rw [octalFrom]
      split
      · next hc =>
        simp only [isOctal, Bool.and_eq_true, decide_eq_true_eq] at hc
        have h7 : unit '7' = 55 := rfl
        have h0 : unit '0' = 48 := rfl
        exact ih _ _ (by omega)
      · exact hv

theorem surrogatePair_le {lead : Nat} (hl : Utf16.isHigh lead = true) (input : List Nat) :
    (surrogatePair lead input).1 ≤ maxCodePoint := by
  have hlead : lead ≤ maxCodePoint := by
    simp only [Utf16.isHigh, Bool.and_eq_true, decide_eq_true_eq] at hl
    simp only [maxCodePoint]
    omega
  cases input with
  | nil => exact hlead
  | cons t rest =>
    simp only [surrogatePair]
    split
    · next ht => exact Utf16.combine_le hl ht
    · exact hlead

theorem unreadable_ok {m : Mode} {value : Nat} {problem : Problem} {input rest : List Nat}
    {v : Nat} (h : unreadable m value problem input = .ok (v, rest)) : v = value := by
  simp only [unreadable] at h
  split at h
  · cases h
  · cases h
    rfl

theorem trailEscape_le {m : Mode} {lead : Nat} {input rest : List Nat} {cp : Nat}
    (hl : Utf16.isHigh lead = true) (h : trailEscape m lead input = .ok (some cp, rest)) :
    cp ≤ maxCodePoint := by
  simp only [trailEscape] at h
  split at h
  · cases h
  · split at h
    · cases h
    · split at h
      · next ht =>
        simp only [Except.ok.injEq, Prod.mk.injEq, Option.some.injEq] at h
        rw [← h.1]
        exact Utf16.combine_le hl ht
      · cases h
    · cases h

theorem unicodeEscape_le {m : Mode} {input rest : List Nat} {v : Nat}
    (h : unicodeEscape m input = .ok (v, rest)) : v ≤ maxCodePoint := by
  simp only [unicodeEscape] at h
  split at h
  · split at h
    · cases h
    · next w r heq =>
      split at h
      · cases h
        exact hex_le heq
      · cases h
    · cases h
  · split at h
    · cases h
    · cases h
      decide
    · next w r heq =>
      have hw : w ≤ maxCodePoint := Nat.le_trans (hex_le heq) (by decide)
      split at h
      · next hhigh =>
        simp only [Bool.and_eq_true] at hhigh
        split at h
        · cases h
        · next cp after heq2 =>
          cases h
          exact trailEscape_le hhigh.2 heq2
        · cases h
          exact hw
      · cases h
        exact hw

/-- The uppercase form of a letter is above `A - 1`, so the value of a control letter is made
without going below zero, and lies from 1 to 26. -/
theorem controlValue_of_letter {l : Nat} (h : isAsciiLetter l = true) :
    unit 'A' - 1 < controlUpper l ∧ 1 ≤ controlValue l ∧ controlValue l ≤ 26 := by
  have hl : l < 123 := by
    rw [isAsciiLetter_iff] at h
    omega
  -- the letters are few enough to check one by one
  have hall : ∀ l < 123, isAsciiLetter l = true →
      unit 'A' - 1 < controlUpper l ∧ 1 ≤ controlValue l ∧ controlValue l ≤ 26 := by decide
  exact hall l hl h

theorem controlEscape_le {m : Mode} {inClass : Bool} {input rest : List Nat} {v : Nat}
    (h : controlEscape m inClass input = .ok (v, rest)) : v ≤ maxCodePoint := by
  match input, h with
  | [], h => cases h
  | [c], h =>
    simp only [controlEscape] at h
    rw [unreadable_ok h]
    decide
  | c :: l :: after, h =>
    simp only [controlEscape] at h
    split at h
    · cases h
      exact Nat.le_trans (Nat.le_of_lt (Nat.mod_lt _ (by decide))) (by decide)
    · split at h
      · rw [unreadable_ok h]
        decide
      · next hl =>
        cases h
        have hletter : isAsciiLetter l = true := by simpa using hl
        have := (controlValue_of_letter hletter).2.2
        simp only [maxCodePoint]
        omega

theorem nulEscape_le {m : Mode} {input rest : List Nat} {v : Nat}
    (h : nulEscape m input = .ok (v, rest)) : v ≤ maxCodePoint := by
  simp only [nulEscape] at h
  split at h
  · cases h
  split at h
  · simp only [Except.ok.injEq] at h
    have hv := octalFrom_le 0 2 input (Nat.zero_le _)
    rw [h] at hv
    exact Nat.le_trans hv (by decide)
  · cases h
    exact Nat.zero_le _

theorem hexEscape_le {m : Mode} {input rest : List Nat} {v : Nat}
    (h : hexEscape m input = .ok (v, rest)) : v ≤ maxCodePoint := by
  simp only [hexEscape] at h
  split at h
  · cases h
  · next w r heq =>
    cases h
    exact Nat.le_trans (hex_le heq) (by decide)
  · cases h
    decide

theorem controlLetter?_le {c v : Nat} (h : controlLetter? c = some v) : v ≤ maxCodePoint := by
  unfold controlLetter? at h
  split at h
  · cases h
    decide
  split at h
  · cases h
    decide
  split at h
  · cases h
    decide
  split at h
  · cases h
    decide
  split at h
  · cases h
    decide
  · cases h

/-- Every escape that stands for one code point, read from 16-bit units, stands for a code
point: the escaped unit itself, a byte, a letter's control code, or a hexadecimal value, which
is at most `0x10FFFF` or a surrogate pair. -/
theorem escapeChar_le {m : Mode} {inClass : Bool} {input rest : List Nat} {v : Nat}
    (hw : ∀ u ∈ input, u < 0x10000) (h : escapeChar m inClass input = .ok (v, rest)) :
    v ≤ maxCodePoint := by
  match input, h with
  | [], h => cases h
  | c :: after, h =>
    have hc : c ≤ maxCodePoint := by
      have := hw c (List.mem_cons_self ..)
      simp only [maxCodePoint]
      omega
    simp only [escapeChar] at h
    split at h
    · cases h
      decide
    split at h
    · exact nulEscape_le h
    split at h
    · next v' hv =>
      cases h
      exact controlLetter?_le hv
    split at h
    · exact controlEscape_le h
    split at h
    · exact unicodeEscape_le h
    split at h
    · exact hexEscape_le h
    split at h
    · cases h
      exact hc
    split at h
    · next hoct =>
      simp only [Bool.and_eq_true, Bool.not_eq_true'] at hoct
      have hv := octalFrom_le (c - unit '0') 2 after (by
        simp only [isOctal, unit, Bool.and_eq_true, decide_eq_true_eq] at hoct
        have h7 : ('7'.toNat : Nat) = 55 := rfl
        omega)
      simp only [Except.ok.injEq] at h
      rw [h] at hv
      exact Nat.le_trans hv (by decide)
    split at h
    · cases h
      exact hc
    · rw [unreadable_ok h]
      exact hc

/-- A code point of a class, read from 16-bit units, is one. -/
theorem classCodePoint_le {m : Mode} {c : Nat} {input rest : List Nat} {v : Nat}
    (hc : c < 0x10000) (hw : ∀ u ∈ input, u < 0x10000)
    (h : classCodePoint m c input = .ok (.inl v, rest)) : v ≤ maxCodePoint := by
  simp only [classCodePoint] at h
  split at h
  · cases input with
    | nil => cases h
    | cons e tail =>
      dsimp only at h
      split at h
      · cases h
      · split at h
        · next w after heq =>
          cases h
          exact escapeChar_le hw heq
        · cases h
  · split at h
    · next hhigh =>
      simp only [Bool.and_eq_true] at hhigh
      cases h
      exact surrogatePair_le hhigh.2 _
    · cases h
      simp only [maxCodePoint]
      omega

/-! ### Sets built from valid arguments -/

theorem dot_reachable (m : Mode) :
    Reachable (if m.flags.dotAll then Predefined.dotAll else Predefined.dot) := by
  split
  · exact .full
  · exact (Reachable.ofRanges (by decide)).complement

theorem classRangeFrom_reachable {m : Mode} {set : CodePointSet} {lo : Nat}
    {input rest : List Nat} {s : CodePointSet} (hs : Reachable set) (hlo : lo ≤ maxCodePoint)
    (hw : ∀ u ∈ input, u < 0x10000) (h : classRangeFrom m set lo input = .ok (s, rest)) :
    Reachable s := by
  have hdash : Reachable ((set.addCodePoint lo).addCodePoint (unit '-')) :=
    (hs.addCodePoint hlo).addCodePoint (by decide)
  simp only [classRangeFrom] at h
  split at h
  · cases h
    exact hs.addCodePoint hlo
  · split at h
    · cases h
      exact hdash
    · next c tail heq =>
      have hw' : ∀ u ∈ c :: tail, u < 0x10000 :=
        fun u hu => hw u (List.mem_of_mem_drop (heq ▸ hu))
      split at h
      · cases h
        exact hdash
      · split at h
        · cases h
        · next hi after heq2 =>
          have hhi := classCodePoint_le (hw' c (List.mem_cons_self ..))
            (fun u hu => hw' u (List.mem_cons_of_mem _ hu)) heq2
          -- the range is added only once its ends are in order
          simp only [addClassRange] at h
          split at h
          · cases h
          · next hle =>
            cases h
            exact hs.addRange (Nat.not_lt.1 hle) hhi
        · next e after heq2 =>
          split at h
          · cases h
          · split at h
            · cases h
            · next escaped after' heq3 =>
              cases h
              exact hdash.union (classEscape_reachable heq3)

theorem classAtom_reachable {m : Mode} {set : CodePointSet} {c : Nat} {input rest : List Nat}
    {s : CodePointSet} (hs : Reachable set) (hc : c < 0x10000) (hw : ∀ u ∈ input, u < 0x10000)
    (h : classAtom m set c input = .ok (s, rest)) : Reachable s := by
  simp only [classAtom] at h
  split at h
  · cases h
  · next lo after heq =>
    exact classRangeFrom_reachable hs (classCodePoint_le hc hw heq)
      (fun u hu => hw u (((StopsAfter.classCodePoint c input).suffix_of_ok heq).subset hu)) h
  · next e after heq =>
    split at h
    · cases h
    · next escaped after' heq2 =>
      split at h
      · cases h
      · cases h
        exact hs.union (classEscape_reachable heq2)

/-! ### Class tokens -/

/-- How the set of a token is built: by `classToken` from a set built from valid arguments, or
as the set of a predefined class escape.  A token without a set is built either way. -/
inductive ClassBuilt (m : Mode) : Token → Prop where
  | folded {base : CodePointSet} (invert : Bool) : Reachable base →
      ClassBuilt m (classToken m base invert)
  | predefined {e : Nat} : isPredefinedClass e = true →
      ClassBuilt m (.charClass (predefinedClass m e))
  | plain {t : Token} : t.set? = none → ClassBuilt m t

theorem ClassBuilt.single {m : Mode} {c : Nat} (hc : c ≤ maxCodePoint) :
    ClassBuilt m (single m c) :=
  .folded false (.ofCodePoint hc)

/-- Folding and complementing build from valid arguments too, so every set built either way is
built from them. -/
theorem ClassBuilt.reachable {m : Mode} {t : Token} (h : ClassBuilt m t) :
    ∀ s ∈ t.set?, Reachable s := by
  intro s hs
  cases h with
  | @folded base invert hbase =>
    simp only [classToken, Token.set?, Option.mem_def, Option.some.injEq] at hs
    subst hs
    have hf : Reachable
        (if m.flags.ignoreCase then CaseFold.apply m.library base m.unicode else base) := by
      split
      · exact CaseFold.reachable_apply m.library hbase _
      · exact hbase
    split
    · exact hf.complement
    · exact hf
  | @predefined e _ =>
    simp only [Token.set?, Option.mem_def, Option.some.injEq] at hs
    subst hs
    exact predefinedClass_reachable m e
  | plain hnone =>
    rw [hnone] at hs
    cases hs

theorem ClassBuilt.normal {m : Mode} {t : Token} (h : ClassBuilt m t) :
    ∀ s ∈ t.set?, s.Normal :=
  fun s hs => (h.reachable s hs).normal

theorem classBody_built {m : Mode} {invert : Bool} {set : CodePointSet} {input rest : List Nat}
    {t : Token} (hs : Reachable set) (hw : ∀ u ∈ input, u < 0x10000)
    (h : classBody m invert set input = .ok (t, rest)) : ClassBuilt m t := by
  fun_induction classBody m invert set input with
  | case1 => cases h
  | case2 set c tail hc =>
    cases h
    exact .folded invert hs
  | case3 => cases h
  | case4 set c tail hne set' after heq hlt ih =>
    have htail : ∀ u ∈ tail, u < 0x10000 := fun u hu => hw u (List.mem_cons_of_mem _ hu)
    exact ih (classAtom_reachable hs (hw c (List.mem_cons_self ..)) htail heq)
      (fun u hu => htail u (((StopsAfter.classAtom set c tail).suffix_of_ok heq).subset hu)) h

theorem charClass_built {m : Mode} {input rest : List Nat} {t : Token}
    (hw : ∀ u ∈ input, u < 0x10000) (h : charClass m input = .ok (t, rest)) :
    ClassBuilt m t := by
  simp only [charClass] at h
  split at h
  · exact classBody_built .empty (fun u hu => hw u (List.mem_of_mem_drop hu)) h
  · exact classBody_built .empty hw h

theorem quantifierAfter_built {m : Mode} {lastToken : Option TokenKind} {min : Nat}
    {max : Option Nat} {input rest : List Nat} {t : Token}
    (h : quantifierAfter lastToken min max input = .ok (t, rest)) : ClassBuilt m t := by
  simp only [quantifierAfter] at h
  split at h
  · cases h
  · split at h
    · cases h
      exact .plain rfl
    · cases h
  · cases h

theorem quantifier_built {m : Mode} {lastToken : Option TokenKind} {c : Nat}
    {input rest : List Nat} {t : Token} (h : quantifier m lastToken c input = .ok (t, rest)) :
    ClassBuilt m t := by
  simp only [quantifier] at h
  split at h
  · next hbrace =>
    split at h
    · exact quantifierAfter_built h
    · split at h
      · cases h
      · -- a `{` that starts no bound is the code point `{`
        cases h
        rw [beq_iff_eq.1 hbrace]
        exact .single (by decide)
  split at h
  · exact quantifierAfter_built h
  split at h
  · exact quantifierAfter_built h
  · exact quantifierAfter_built h

theorem groupBegin_set? (input : List Nat) : (groupBegin input).1.set? = none := by
  simp only [groupBegin]
  split
  · rfl
  split
  · rfl
  split
  · rfl
  split
  · rfl
  · rfl

theorem escape_built {m : Mode} {groups : Nat} {input rest : List Nat} {t : Token}
    (hw : ∀ u ∈ input, u < 0x10000) (h : escape m groups input = .ok (t, rest)) :
    ClassBuilt m t := by
  match input, h with
  | [], h => cases h
  | c :: tail, h =>
    simp only [escape] at h
    split at h
    · cases h
      exact .plain rfl
    split at h
    · cases h
      exact .plain rfl
    split at h
    · cases h
      exact .plain rfl
    split at h
    · next hp =>
      cases h
      exact .predefined hp
    split at h
    · split at h
      · next set after heq =>
        cases h
        exact .folded false (property_reachable heq)
      · cases h
    · split at h
      · next v after heq =>
        cases h
        exact .single (escapeChar_le hw heq)
      · cases h

/-- Every token read from 16-bit units has its set, if any, built from a set in normal form by
`classToken`, or as a predefined class. -/
theorem token_built {m : Mode} {groups : Nat} {lastToken : Option TokenKind}
    {input rest : List Nat} {t : Token} (hw : ∀ u ∈ input, u < 0x10000)
    (h : token m groups lastToken input = .ok (t, rest)) : ClassBuilt m t := by
  match input, h with
  | [], h => cases h
  | c :: tail, h =>
    have htail : ∀ u ∈ tail, u < 0x10000 := fun u hu => hw u (List.mem_cons_of_mem _ hu)
    rw [token_cons] at h
    generalize ho : opener m.unicode c = o at h
    cases o with
    | dot =>
      cases h
      exact .folded false (dot_reachable m)
    | quantifier => exact quantifier_built h
    | groupBegin =>
      have ht : t = (groupBegin tail).1 := by
        rw [Except.ok.inj h]
      exact .plain (ht ▸ groupBegin_set? tail)
    | charClass => exact charClass_built htail h
    | escape => exact escape_built htail h
    | loneBrace | loneBracket => cases h
    | caret | dollar | alternation | groupEnd =>
      cases h
      exact .plain rfl
    -- what is left is one code point: a surrogate pair, or the unit itself
    | pair =>
      cases h
      exact .single (surrogatePair_le (opener_eq_pair ho).2 tail)
    | literal =>
      cases h
      have hc := hw c (List.mem_cons_self ..)
      exact .single (by simp only [maxCodePoint]; omega)

end Scan

namespace Lexer

theorem nextToken_built {l : Lexer} (hw : ∀ u ∈ l.source.units, u < 0x10000) :
    ∀ t ∈ l.nextToken.1.toOption, Scan.ClassBuilt l.mode t := by
  intro t ht
  cases hs : Scan.token l.mode l.groupCount l.lastToken l.rest with
  | ok r =>
    obtain ⟨t', after⟩ := r
    rw [nextToken_ok hs] at ht
    cases ht
    exact Scan.token_built (fun u hu => hw u (List.mem_of_mem_drop hu)) hs
  | error e =>
    obtain ⟨p, after⟩ := e
    rw [nextToken_error hs] at ht
    cases ht

/-- Every token of a session on 16-bit units has its set built by `classToken` from a set built
from valid ranges, or as a predefined class. -/
theorem session_built {l : Lexer} (hw : ∀ u ∈ l.source.units, u < 0x10000) (calls : List Call) :
    ∀ r ∈ (l.session calls).1, ∀ t ∈ r.token?, Scan.ClassBuilt l.mode t := by
  induction calls generalizing l with
  | nil =>
    intro r hr
    cases hr
  | cons c cs ih =>
    intro r hr t ht
    simp only [session, List.mem_cons] at hr
    rcases hr with rfl | hr
    · rcases call_cases l c with ⟨-, -, hnone⟩ | ⟨-, -, htok⟩
      · rw [hnone] at ht
        cases ht
      · rw [htok] at ht
        exact nextToken_built hw t ht
    · have hbuilt := ih (l := (l.call c).2) (by rw [call_source]; exact hw) r hr t ht
      rwa [call_mode] at hbuilt

end Lexer

end EcmaRegex
