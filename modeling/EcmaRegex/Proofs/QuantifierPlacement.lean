import EcmaRegex.Proofs.Session
/-!
# Where a quantifier may stand

A quantifier repeats the token before it, so it may only follow a token that can be repeated:
a character class, the end of a group, or a backreference (`TokenKind.isQuantifiable`).  The
lexer checks this against its memory of the last token read successfully, which an error leaves
as it was.

The law holds of every run of the lexer, errors included.  One read returns a quantifier only
after a repeatable token (`Lexer.nextToken_quantifier_follows`).  A read at `*`, `+` or `?`
returns the quantifier with its bounds exactly then, and otherwise fails: on a quantifier after
a quantifier, and on nothing to repeat after any other token or none
(`Lexer.nextToken_quantifierUnit`).  The memory of a session is the last token it returned
(`Lexer.Remembers`), so both hold of every read of every session; and every pattern read whole
has each of its quantifiers right after a repeatable token (`placed_tokenize`).

The legacy grammar reads a `{` that starts no bounds as a literal without looking at the
memory; that token is a class, so it does not break the law.
-/

namespace EcmaRegex

namespace Scan

/-- The units that are quantifiers by themselves, with the bounds each stands for. -/
def quantifierUnits : List (Nat × Nat × Option Nat) :=
  [(unit '*', 0, none), (unit '+', 1, none), (unit '?', 0, some 1)]

/-! ## The check against the last token -/

/-- What a quantifier leaves: the input after its optional `?`. -/
abbrev afterLazy (input : List Nat) : List Nat :=
  if startsWith input "?" then input.drop 1 else input

theorem quantifierAfter_follows {last : Option TokenKind} {min : Nat} {max : Option Nat}
    {input rest : List Nat} {t : Token} (h : quantifierAfter last min max input = .ok (t, rest)) :
    ∃ k, last = some k ∧ k.isQuantifiable = true := by
  simp only [quantifierAfter] at h
  split at h
  · cases h
  · next k _ =>
    split at h
    · next hk => exact ⟨k, rfl, hk⟩
    · cases h
  · cases h

theorem quantifierAfter_quantifiable {k : TokenKind} (hk : k.isQuantifiable = true) (min : Nat)
    (max : Option Nat) (input : List Nat) :
    quantifierAfter (some k) min max input =
      .ok (.quantifier ⟨min, max, !startsWith input "?"⟩, afterLazy input) := by
  -- a quantifier is not repeatable, so the first case of the check does not apply
  have hne : k ≠ .quantifier := by
    rintro rfl
    cases hk
  unfold quantifierAfter
  split
  · next _ heq =>
    cases heq
    exact absurd rfl hne
  · next _ kind _ heq =>
    cases heq
    simp only [hk, ↓reduceIte]
  · next _ heq => cases heq

theorem quantifierAfter_on_quantifier (min : Nat) (max : Option Nat) (input : List Nat) :
    quantifierAfter (some .quantifier) min max input =
      .error (.quantifierOnQuantifier, afterLazy input) := rfl

theorem quantifierAfter_nothing {last : Option TokenKind}
    (h : ∀ k, last = some k → k ≠ .quantifier ∧ k.isQuantifiable = false) (min : Nat)
    (max : Option Nat) (input : List Nat) :
    quantifierAfter last min max input = .error (.nothingToRepeat, afterLazy input) := by
  cases last with
  | none => rfl
  | some k =>
    obtain ⟨hne, hk⟩ := h k rfl
    unfold quantifierAfter
    split
    · next _ heq =>
      cases heq
      exact absurd rfl hne
    · next _ kind _ heq =>
      cases heq
      simp only [hk, Bool.false_eq_true, ↓reduceIte]
    · next _ heq => cases heq

/-! ## Only the quantifier branch reads a quantifier -/

variable {m : Mode}

theorem classBody_kind {invert : Bool} {set : CodePointSet} {input rest : List Nat} {t : Token}
    (h : classBody m invert set input = .ok (t, rest)) : t.kind = .charClass := by
  fun_induction classBody m invert set input with
  | case1 => cases h
  | case2 =>
    cases h
    rfl
  | case3 => cases h
  | case4 _ c tail _ _ after _ _ ih => exact ih h

theorem charClass_kind {input rest : List Nat} {t : Token}
    (h : charClass m input = .ok (t, rest)) : t.kind = .charClass := by
  simp only [charClass] at h
  split at h
  · exact classBody_kind h
  · exact classBody_kind h

theorem groupBegin_kind_ne (input : List Nat) : (groupBegin input).1.kind ≠ .quantifier := by
  simp only [groupBegin]
  repeat' split
  all_goals
    intro hq
    cases hq

theorem escape_kind_ne {groups : Nat} {input rest : List Nat} {t : Token}
    (h : escape m groups input = .ok (t, rest)) : t.kind ≠ .quantifier := by
  cases input with
  | nil => cases h
  | cons c tail =>
    simp only [escape] at h
    -- a backreference, a boundary, or a class
    repeat' split at h
    all_goals cases h
    all_goals
      intro hq
      cases hq

theorem quantifier_follows {lastToken : Option TokenKind} {c : Nat} {input rest : List Nat}
    {t : Token} (h : quantifier m lastToken c input = .ok (t, rest))
    (hq : t.kind = .quantifier) : ∃ k, lastToken = some k ∧ k.isQuantifiable = true := by
  simp only [quantifier] at h
  split at h
  · split at h
    · exact quantifierAfter_follows h
    · -- the legacy grammar reads a `{` without bounds as a class
      split at h
      · cases h
      · cases h
        cases hq
  split at h
  · exact quantifierAfter_follows h
  split at h
  · exact quantifierAfter_follows h
  · exact quantifierAfter_follows h

/-- A token is a quantifier only after a token it can repeat. -/
theorem token_quantifier_follows {groups : Nat} {lastToken : Option TokenKind}
    {input rest : List Nat} {t : Token} (h : token m groups lastToken input = .ok (t, rest))
    (hq : t.kind = .quantifier) : ∃ k, lastToken = some k ∧ k.isQuantifiable = true := by
  cases input with
  | nil =>
    rw [token.eq_1] at h
    cases h
  | cons c tail =>
    rw [token_cons] at h
    generalize opener m.unicode c = o at h
    cases o with
    | quantifier => exact quantifier_follows h hq
    -- every other scanner reads a token of another kind
    | groupBegin =>
      have ht : t = (groupBegin tail).1 := by
        rw [Except.ok.inj h]
      exact absurd (ht ▸ hq) (groupBegin_kind_ne tail)
    | charClass =>
      rw [charClass_kind h] at hq
      cases hq
    | escape => exact absurd hq (escape_kind_ne h)
    | loneBrace | loneBracket => cases h
    | dot | caret | dollar | alternation | groupEnd | pair | literal =>
      cases h
      cases hq

/-- A token starting with `*`, `+` or `?` is the check of that quantifier against the last
token. -/
theorem token_quantifierUnit {groups : Nat} {lastToken : Option TokenKind} {c min : Nat}
    {max : Option Nat} (after : List Nat) (hc : (c, min, max) ∈ quantifierUnits) :
    token m groups lastToken (c :: after) = quantifierAfter lastToken min max after := by
  simp only [quantifierUnits, List.mem_cons, Prod.mk.injEq, List.not_mem_nil, or_false] at hc
  have ho : opener m.unicode c = .quantifier := by
    rcases hc with ⟨rfl, -⟩ | ⟨rfl, -⟩ | ⟨rfl, -⟩ <;> cases m.unicode <;> decide
  rw [token_cons, ho, opened, quantifier]
  rcases hc with ⟨rfl, rfl, rfl⟩ | ⟨rfl, rfl, rfl⟩ | ⟨rfl, rfl, rfl⟩
  · rw [if_neg (by decide), if_pos (by decide)]
  · rw [if_neg (by decide), if_neg (by decide), if_pos (by decide)]
  · rw [if_neg (by decide), if_neg (by decide), if_neg (by decide)]

end Scan

namespace Lexer

variable {l : Lexer}

/-! ## One read -/

/-- A read returns a quantifier only when the last token read is one it can repeat. -/
theorem nextToken_quantifier_follows {t : Token} (h : l.nextToken.1 = .ok t)
    (hq : t.kind = .quantifier) : ∃ k, l.lastToken = some k ∧ k.isQuantifiable = true := by
  cases hs : Scan.token l.mode l.groupCount l.lastToken l.rest with
  | error e =>
    rw [nextToken_error hs] at h
    cases h
  | ok r =>
    obtain ⟨t', after⟩ := r
    rw [nextToken_ok hs] at h
    cases h
    exact Scan.token_quantifier_follows hs hq

/-- A read that scans a quantifier with the given bounds returns it, greedy unless a `?`
follows, when the last token read is one it can repeat; otherwise it fails, on a quantifier
after a quantifier and on nothing to repeat after any other token or none. -/
theorem nextToken_quantifierAfter {min : Nat} {max : Option Nat} {after : List Nat}
    (hscan : Scan.token l.mode l.groupCount l.lastToken l.rest =
      Scan.quantifierAfter l.lastToken min max after) :
    (∀ k, l.lastToken = some k → k.isQuantifiable = true →
      l.nextToken.1 = .ok (.quantifier ⟨min, max, !Scan.startsWith after "?"⟩)) ∧
    (l.lastToken = some .quantifier → ∃ e, l.nextToken.1 = .error e ∧ e.code = 1561) ∧
    ((∀ k, l.lastToken = some k → k ≠ .quantifier ∧ k.isQuantifiable = false) →
      ∃ e, l.nextToken.1 = .error e ∧ e.code = 1560) := by
  refine ⟨fun k hk hq => ?_, fun hk => ?_, fun hk => ?_⟩
  · have hcheck := Scan.quantifierAfter_quantifiable hq min max after
    rw [← hk] at hcheck
    rw [nextToken_ok (hscan.trans hcheck)]
  · have hcheck := Scan.quantifierAfter_on_quantifier min max after
    rw [← hk] at hcheck
    exact ⟨_, by rw [nextToken_error (hscan.trans hcheck)], rfl⟩
  · have hcheck := Scan.quantifierAfter_nothing hk min max after
    exact ⟨_, by rw [nextToken_error (hscan.trans hcheck)], rfl⟩

/-- A read at `*`, `+` or `?` returns the quantifier with its bounds, greedy unless a `?`
follows, when the last token read is one it can repeat; otherwise it fails, on a quantifier
after a quantifier and on nothing to repeat after any other token or none. -/
theorem nextToken_quantifierUnit {c min : Nat} {max : Option Nat} {after : List Nat}
    (hrest : l.rest = c :: after) (hc : (c, min, max) ∈ Scan.quantifierUnits) :
    (∀ k, l.lastToken = some k → k.isQuantifiable = true →
      l.nextToken.1 = .ok (.quantifier ⟨min, max, !Scan.startsWith after "?"⟩)) ∧
    (l.lastToken = some .quantifier → ∃ e, l.nextToken.1 = .error e ∧ e.code = 1561) ∧
    ((∀ k, l.lastToken = some k → k ≠ .quantifier ∧ k.isQuantifiable = false) →
      ∃ e, l.nextToken.1 = .error e ∧ e.code = 1560) := by
  apply nextToken_quantifierAfter
  rw [hrest, Scan.token_quantifierUnit after hc]

/-! ## The memory of a run -/

/-- The kind a lexer remembers is the kind of the last token it returned. -/
theorem Remembers.lastToken_eq_some {tokens : List Token} (hr : Remembers l tokens)
    {k : TokenKind} : l.lastToken = some k ↔ ∃ p, tokens.getLast? = some p ∧ p.kind = k := by
  rw [hr.last, Option.map_eq_some_iff]

/-- A read returns a quantifier only right after a returned token it can repeat. -/
theorem Remembers.nextToken_quantifier_follows {tokens : List Token} (hr : Remembers l tokens)
    {t : Token} (h : l.nextToken.1 = .ok t) (hq : t.kind = .quantifier) :
    ∃ p, tokens.getLast? = some p ∧ p.kind.isQuantifiable = true := by
  obtain ⟨k, hk, hkq⟩ := Lexer.nextToken_quantifier_follows h hq
  obtain ⟨p, hp, rfl⟩ := hr.lastToken_eq_some.mp hk
  exact ⟨p, hp, hkq⟩

end Lexer

/-! ## Whole patterns -/

/-- Every quantifier of the list comes right after a token it can repeat. -/
def Placed (ts : List Token) : Prop :=
  ∀ pre q post, ts = pre ++ q :: post → q.kind = .quantifier →
    ∃ p, pre.getLast? = some p ∧ p.kind.isQuantifiable = true

theorem placed_nil : Placed [] := by
  intro pre q post h
  simp at h

/-- Appending a token keeps the quantifiers placed when the token is not a quantifier, or
follows a token it can repeat. -/
theorem Placed.snoc {ts : List Token} {t : Token} (h : Placed ts)
    (ht : t.kind = .quantifier → ∃ p, ts.getLast? = some p ∧ p.kind.isQuantifiable = true) :
    Placed (ts ++ [t]) := by
  intro pre q post heq hq
  rcases List.eq_nil_or_concat post with rfl | ⟨post', x, rfl⟩
  · -- the quantifier is the token appended
    obtain ⟨rfl, hqt⟩ := List.append_inj' heq rfl
    simp only [List.cons.injEq, and_true] at hqt
    rw [← hqt] at hq
    exact ht hq
  · -- it was in the list already
    rw [List.concat_eq_append, ← List.cons_append, ← List.append_assoc] at heq
    exact h pre q post' (List.append_inj' heq rfl).1 hq

/-- Reading the rest of a pattern keeps the quantifiers read placed. -/
theorem Lexer.Remembers.placed_tokenizeFrom {l : Lexer} {acc : Array Lexeme}
    (hr : Remembers l (acc.toList.map (·.token))) (hacc : Placed (acc.toList.map (·.token))) :
    Placed ((l.tokenizeFrom acc).1.toList.map (·.token)) := by
  fun_induction l.tokenizeFrom acc with
  | case1 l acc hn t l₁ heq _ ih =>
    have hok : l.nextToken.1 = .ok t := by
      rw [heq]
    have hr₁ : Remembers l₁ (acc.toList.map (·.token) ++ [t]) := by
      have := hr.nextToken
      rw [heq] at this
      exact this
    rw [Array.toList_push, List.map_append, List.map_singleton] at ih
    exact ih hr₁ (hacc.snoc fun hq => hr.nextToken_quantifier_follows hok hq)
  | case2 => exact hacc
  | case3 => exact hacc

/-- Every quantifier of a pattern read whole comes right after a token it can repeat. -/
theorem placed_tokenize {lib : UnicodeLibrary} {source : Source} {ts : List Token} (h : tokenize lib source = .ok ts) :
    Placed ts := by
  obtain ⟨-, rfl⟩ := tokenize_eq_ok_iff.mp h
  exact (Lexer.remembers_new lib source).placed_tokenizeFrom placed_nil

/-! ## The law over sessions -/

/-- In every session on a fresh lexer, errors included, the next read returns a quantifier
only when the last token the session returned exists and can be repeated.  A read at `*`, `+`
or `?` then returns the quantifier with its bounds, greedy unless a `?` follows; otherwise it
fails with code 1561 after a quantifier and with code 1560 after any other token or none.
Every pattern read whole has each quantifier right after a token it can repeat. -/
theorem quantifier_follows_repeatable (lib : UnicodeLibrary) (source : Source) (calls : List Lexer.Call) :
    let l := ((Lexer.new lib source).session calls).2
    let last := (((Lexer.new lib source).session calls).1.filterMap Lexer.Reply.token?).getLast?
    (∀ t, l.nextToken.1 = .ok t → t.kind = .quantifier →
      ∃ p, last = some p ∧ p.kind.isQuantifiable = true) ∧
    (∀ c after min max, l.rest = c :: after →
      (c, min, max) ∈ [(Scan.unit '*', 0, none), (Scan.unit '+', 1, none),
        (Scan.unit '?', 0, some 1)] →
      ((∃ p, last = some p ∧ p.kind.isQuantifiable = true) →
        l.nextToken.1 = .ok (.quantifier ⟨min, max, !Scan.startsWith after "?"⟩)) ∧
      (∀ p, last = some p → p.kind = .quantifier →
        ∃ e, l.nextToken.1 = .error e ∧ e.code = 1561) ∧
      ((∀ p, last = some p → p.kind ≠ .quantifier ∧ p.kind.isQuantifiable = false) →
        ∃ e, l.nextToken.1 = .error e ∧ e.code = 1560)) ∧
    (∀ ts, tokenize lib source = .ok ts → ∀ pre q post, ts = pre ++ q :: post →
      q.kind = .quantifier → ∃ p, pre.getLast? = some p ∧ p.kind.isQuantifiable = true) := by
  intro l last
  have hr : Lexer.Remembers l
      (((Lexer.new lib source).session calls).1.filterMap Lexer.Reply.token?) := by
    simpa using (Lexer.remembers_new lib source).session calls
  refine ⟨fun t ht hq => hr.nextToken_quantifier_follows ht hq,
    fun c after min max hrest hc => ?_, fun ts h => placed_tokenize h⟩
  obtain ⟨hok, hon, hnothing⟩ := Lexer.nextToken_quantifierUnit hrest hc
  refine ⟨fun ⟨p, hp, hq⟩ => hok p.kind (hr.lastToken_eq_some.mpr ⟨p, hp, rfl⟩) hq,
    fun p hp hq => hon (hr.lastToken_eq_some.mpr ⟨p, hp, hq⟩), fun hlast => hnothing ?_⟩
  -- a remembered kind is the kind of the last token returned, which is not repeatable
  intro k hk
  obtain ⟨p, hp, rfl⟩ := hr.lastToken_eq_some.mp hk
  exact hlast p hp

end EcmaRegex
