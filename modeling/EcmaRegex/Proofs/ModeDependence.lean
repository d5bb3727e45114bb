import EcmaRegex.Proofs.Openers
/-!
# What the scanners read of their mode

A mode holds the six flags, the options and the Unicode library, but the scanners read only five
things of it: whether the grammar is the unicode one, the `i` and `s` flags, the options and the
library.  Of these, only the first decides how the input is cut up.  The other four only decide
how the sets of character classes are built: folding under `i`, the dot under `s`, `\s` under
the `u180eWhitespace` option, and case folding and property escapes through the library.

This file states that reading in three families of lemmas.

* The escapes that stand for one code point read nothing but the grammar:
  `escapeChar_congr` and the lemmas before it.
* Two modes that agree on all five (`Mode.SameReading`) scan every input to the same
  outcome, sets included: `token_congr`.
* Two modes of the same grammar and library scan every input to outcomes that agree up to the
  sets of character classes: they stop at the same place, fail with the same problem, and read
  tokens of the same kind that are equal unless they are classes (`token_erase`).  The library
  matters here, since it decides which property names are refused.
-/

namespace EcmaRegex

/-- The token with the set of a character class forgotten. -/
def Token.skeleton : Token → Token
  | .charClass _ => .charClass .empty
  | t => t

namespace Token

@[simp] theorem skeleton_kind (t : Token) : t.skeleton.kind = t.kind := by
  cases t <;> rfl

theorem skeleton_of_kind_ne {t : Token} (h : t.kind ≠ .charClass) : t.skeleton = t := by
  cases t with
  | charClass s => exact absurd rfl h
  | _ => rfl

theorem skeleton_of_kind_eq {t : Token} (h : t.kind = .charClass) :
    t.skeleton = .charClass .empty := by
  cases t with
  | charClass s => rfl
  | _ => cases h

/-- Two tokens have the same skeleton exactly when they are of the same kind and equal unless
they are character classes. -/
theorem skeleton_eq_skeleton_iff {t t' : Token} :
    t.skeleton = t'.skeleton ↔ t.kind = t'.kind ∧ (t.kind ≠ .charClass → t = t') := by
  constructor
  · intro h
    have hk : t.kind = t'.kind := by
      rw [← skeleton_kind t, h, skeleton_kind]
    refine ⟨hk, fun hc => ?_⟩
    rw [← skeleton_of_kind_ne hc, h, skeleton_of_kind_ne (hk ▸ hc)]
  · rintro ⟨hk, he⟩
    by_cases hc : t.kind = .charClass
    · rw [skeleton_of_kind_eq hc, skeleton_of_kind_eq (hk ▸ hc)]
    · rw [he hc]

end Token

/-- A scan's outcome with its value passed through `f`: where it stopped, why it failed, and
what `f` keeps of the value. -/
def Scanned.erase {α β : Type} (f : α → β) (r : Scanned α) : Scanned β :=
  r.map fun p => (f p.1, p.2)

@[simp] theorem Scanned.erase_ok {α β : Type} (f : α → β) (a : α) (rest : List Nat) :
    Scanned.erase f (.ok (a, rest)) = .ok (f a, rest) := rfl

@[simp] theorem Scanned.erase_error {α β : Type} (f : α → β) (e : Problem × List Nat) :
    Scanned.erase f (.error e : Scanned α) = .error e := rfl

/-- Two outcomes that agree once erased both fail with the same problem at the same point,
or both succeed at the same point. -/
theorem Scanned.erase_agree {α β γ : Type} {f : α → γ} {g : β → γ} {r : Scanned α}
    {r' : Scanned β} (h : r.erase f = r'.erase g) :
    (∃ e, r = .error e ∧ r' = .error e) ∨
    (∃ a b rest, r = .ok (a, rest) ∧ r' = .ok (b, rest) ∧ f a = g b) := by
  rcases r with e | ⟨a, rest⟩ <;> rcases r' with e' | ⟨b, rest'⟩
  · simp only [erase_error, Except.error.injEq] at h
    exact .inl ⟨e, rfl, h ▸ rfl⟩
  · cases h
  · cases h
  · simp only [erase_ok, Except.ok.injEq, Prod.mk.injEq] at h
    exact .inr ⟨a, b, rest, rfl, h.2 ▸ rfl, h.1⟩

namespace Scan

/-- Two modes that build every set the same way: the same grammar, case folding, dot, options
and Unicode library.  They may differ in the flags `g`, `m` and `y`, which no scanner reads. -/
structure Mode.SameReading (m m' : Mode) : Prop where
  unicode : m.unicode = m'.unicode
  ignoreCase : m.flags.ignoreCase = m'.flags.ignoreCase
  dotAll : m.flags.dotAll = m'.flags.dotAll
  options : m.options = m'.options
  library : m.library = m'.library

variable {m m' : Mode}

/-! ## Escapes of one code point read only the grammar -/

section Grammar

variable (hu : m.unicode = m'.unicode)
include hu

theorem unreadable_congr : unreadable m = unreadable m' := by
  funext value problem input
  simp only [unreadable, hu]

theorem controlEscape_congr : controlEscape m = controlEscape m' := by
  funext inClass input
  unfold controlEscape
  simp only [hu, unreadable_congr hu]

theorem trailEscape_congr : trailEscape m = trailEscape m' := by
  funext lead input
  simp only [trailEscape, hu]

theorem unicodeEscape_congr : unicodeEscape m = unicodeEscape m' := by
  funext input
  simp only [unicodeEscape, hu, trailEscape_congr hu]

theorem nulEscape_congr : nulEscape m = nulEscape m' := by
  funext input
  simp only [nulEscape, hu]

theorem hexEscape_congr : hexEscape m = hexEscape m' := by
  funext input
  simp only [hexEscape, hu]

theorem escapeChar_congr : escapeChar m = escapeChar m' := by
  funext inClass input
  unfold escapeChar
  simp only [hu, nulEscape_congr hu, controlEscape_congr hu, unicodeEscape_congr hu,
    hexEscape_congr hu, unreadable_congr hu]

theorem isClassEscape_congr : isClassEscape m = isClassEscape m' := by
  funext c
  simp only [isClassEscape, hu]

theorem classCodePoint_congr : classCodePoint m = classCodePoint m' := by
  funext c input
  simp only [classCodePoint, hu, isClassEscape_congr hu, escapeChar_congr hu]

end Grammar

/-! ## Modes that read alike scan alike -/

section SameReading

variable (h : Mode.SameReading m m')
include h

theorem predefinedClass_congr : predefinedClass m = predefinedClass m' := by
  funext c
  simp only [predefinedClass, h.unicode, h.ignoreCase, h.options]

theorem classToken_congr : classToken m = classToken m' := by
  funext set invert
  simp only [classToken, h.unicode, h.ignoreCase, h.library]

theorem single_congr : single m = single m' := by
  funext c
  simp only [single, classToken_congr h]

theorem classEscape_congr : classEscape m = classEscape m' := by
  funext c input
  simp only [classEscape, predefinedClass_congr h, h.library]

theorem classRangeFrom_congr : classRangeFrom m = classRangeFrom m' := by
  funext set lo input
  simp only [classRangeFrom, h.unicode, classCodePoint_congr h.unicode, classEscape_congr h]

theorem classAtom_congr : classAtom m = classAtom m' := by
  funext set c input
  simp only [classAtom, h.unicode, classCodePoint_congr h.unicode, classEscape_congr h,
    classRangeFrom_congr h]

theorem classBody_congr (invert : Bool) (set : CodePointSet) (input : List Nat) :
    classBody m invert set input = classBody m' invert set input := by
  fun_induction classBody m invert set input with
  | case1 => rw [classBody.eq_1]
  | case2 _ c tail hc =>
    rw [classBody.eq_2, if_pos hc, classToken_congr h]
  | case3 _ c tail hc err heq =>
    rw [classBody.eq_2, if_neg hc]
    split
    · next err' heq' =>
      rw [← classAtom_congr h, heq] at heq'
      cases heq'
      rfl
    · next set' after heq' =>
      rw [← classAtom_congr h, heq] at heq'
      cases heq'
  | case4 _ c tail hc set' after heq _ ih =>
    rw [ih, classBody.eq_2 _ _ _ c tail, if_neg hc]
    split
    · next err' heq' =>
      rw [← classAtom_congr h, heq] at heq'
      cases heq'
    · next set'' after' heq' =>
      rw [← classAtom_congr h, heq] at heq'
      cases heq'
      rfl

theorem charClass_congr : charClass m = charClass m' := by
  funext input
  simp only [charClass, classBody_congr h]

theorem quantifier_congr : quantifier m = quantifier m' := by
  funext lastToken c input
  simp only [quantifier, h.unicode, single_congr h]

theorem escape_congr : escape m = escape m' := by
  funext groups input
  unfold escape
  simp only [h.unicode, h.library, predefinedClass_congr h, classToken_congr h, single_congr h,
    escapeChar_congr h.unicode]

theorem token_congr : token m = token m' := by
  funext groups lastToken input
  unfold token
  simp only [h.unicode, h.dotAll, classToken_congr h, quantifier_congr h, charClass_congr h,
    escape_congr h, single_congr h]

end SameReading

/-! ## Modes of one grammar cut the input alike -/

/-- A class escape stops at the same place in every mode with the same Unicode library: only its
set depends on the rest of the mode. -/
theorem classEscape_erase (hl : m.library = m'.library) (c : Nat) (input : List Nat) :
    (classEscape m c input).erase (fun _ => ()) = (classEscape m' c input).erase (fun _ => ()) := by
  simp only [classEscape, hl]
  split <;> rfl

section Grammar

variable (hu : m.unicode = m'.unicode) (hl : m.library = m'.library)
include hu hl

-- Once the lemmas above put both unfoldings on the same sub-scans, the two sides branch on
-- the same conditions, which `split` takes on both sides at once.  What remains differs only
-- in sets, except where a class escape is scanned: there the two scans differ, and
-- `classEscape_erase` says they stop alike.

theorem classRangeFrom_erase (set set' : CodePointSet) (lo : Nat) (input : List Nat) :
    (classRangeFrom m set lo input).erase (fun _ => ()) =
      (classRangeFrom m' set' lo input).erase (fun _ => ()) := by
  simp only [classRangeFrom, addClassRange, hu, classCodePoint_congr hu]
  split
  · rfl
  cases input.drop 1 with
  | nil => rfl
  | cons h rest =>
    dsimp only
    split
    · rfl
    cases classCodePoint m' h rest with
    | error err => rfl
    | ok r =>
      obtain ⟨hi | e, after⟩ := r
      · -- a range up to a code point
        dsimp only
        split <;> rfl
      · -- a class escape as the upper end
        dsimp only
        split
        · rfl
        · rcases Scanned.erase_agree (classEscape_erase hl e after) with
            ⟨err, h1, h2⟩ | ⟨_, _, _, h1, h2, -⟩
          · rw [h1, h2]
          · rw [h1, h2]
            rfl

theorem classAtom_erase (set set' : CodePointSet) (c : Nat) (input : List Nat) :
    (classAtom m set c input).erase (fun _ => ()) =
      (classAtom m' set' c input).erase (fun _ => ()) := by
  simp only [classAtom, hu, classCodePoint_congr hu]
  cases classCodePoint m' c input with
  | error err => rfl
  | ok r =>
    obtain ⟨lo | e, after⟩ := r
    · exact classRangeFrom_erase hu hl set set' lo after
    · dsimp only
      rcases Scanned.erase_agree (classEscape_erase hl e after) with
        ⟨err, h1, h2⟩ | ⟨_, _, _, h1, h2, -⟩
      · rw [h1, h2]
      · rw [h1, h2]
        dsimp only
        split <;> rfl

theorem classBody_erase (invert : Bool) (set set' : CodePointSet) (input : List Nat) :
    (classBody m invert set input).erase Token.skeleton =
      (classBody m' invert set' input).erase Token.skeleton := by
  fun_induction classBody m invert set input generalizing set' with
  | case1 => rw [classBody.eq_1]
  | case2 _ c tail hc =>
    rw [classBody.eq_2, if_pos hc]
    rfl
  | case3 s0 c tail hc err heq =>
    rw [classBody.eq_2, if_neg hc]
    rcases Scanned.erase_agree (classAtom_erase hu hl s0 set' c tail) with
      ⟨e, h1, h2⟩ | ⟨_, _, _, h1, -, -⟩
    · rw [heq] at h1
      cases h1
      split
      · next err' heq' =>
        rw [h2] at heq'
        cases heq'
        rfl
      · next _ _ heq' =>
        rw [h2] at heq'
        cases heq'
    · rw [heq] at h1
      cases h1
  | case4 s0 c tail hc s after heq _ ih =>
    rw [classBody.eq_2, if_neg hc]
    rcases Scanned.erase_agree (classAtom_erase hu hl s0 set' c tail) with
      ⟨_, h1, -⟩ | ⟨_, s', rest, h1, h2, -⟩
    · rw [heq] at h1
      cases h1
    · rw [heq] at h1
      cases h1
      split
      · next _ heq' =>
        rw [h2] at heq'
        cases heq'
      · next s'' after' heq' =>
        rw [h2] at heq'
        cases heq'
        exact ih _

theorem charClass_erase (input : List Nat) :
    (charClass m input).erase Token.skeleton = (charClass m' input).erase Token.skeleton := by
  simp only [charClass]
  split
  · exact classBody_erase hu hl true _ _ _
  · exact classBody_erase hu hl false _ _ _

omit hl in
theorem quantifier_erase (lastToken : Option TokenKind) (c : Nat) (input : List Nat) :
    (quantifier m lastToken c input).erase Token.skeleton =
      (quantifier m' lastToken c input).erase Token.skeleton := by
  simp only [quantifier, hu]
  repeat' split
  all_goals rfl

theorem escape_erase (groups : Nat) (input : List Nat) :
    (escape m groups input).erase Token.skeleton =
      (escape m' groups input).erase Token.skeleton := by
  unfold escape
  simp only [hu, hl, escapeChar_congr hu]
  repeat' split
  all_goals rfl

/-- Two modes of one grammar and one Unicode library read every input to outcomes that agree but
for the sets of character classes. -/
theorem token_erase (groups : Nat) (lastToken : Option TokenKind) (input : List Nat) :
    (token m groups lastToken input).erase Token.skeleton =
      (token m' groups lastToken input).erase Token.skeleton := by
  cases input with
  | nil => rfl
  | cons c rest =>
    rw [token_cons, token_cons, hu]
    cases opener m'.unicode c with
    | quantifier => exact quantifier_erase hu lastToken c rest
    | charClass => exact charClass_erase hu hl rest
    | escape => exact escape_erase hu hl groups rest
    | dot | caret | dollar | loneBrace | alternation | groupBegin | groupEnd | loneBracket | pair
      | literal => rfl

end Grammar

end Scan

end EcmaRegex
