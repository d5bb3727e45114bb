import EcmaRegex.Lexer.Basic
import EcmaRegex.Proofs.Consumption
/-!
# Sessions on one lexer

A client drives a lexer by any sequence of five calls: `hasNext`, `nextToken`, `index`,
`tokenSpan`, and `next`, the fused iterator.  `Lexer.session` makes the calls in order and
collects the replies.  Three of the calls only read the state; `nextToken` reads a token, and
`next` reads one unless it has failed before or the input is used up.

The state a session reaches satisfies, whatever the pattern and the calls:

* the token start lies at or before the position, which lies within the pattern;
* a token read with input left moves the position forward, its span starting where the last
  one stopped, so that the spans of those reads tile the pattern from its start
  (`Lexer.Tiling`), and there are at most as many of them as units;
* a token read at the end is the error for an unexpected end, with an empty span at the end,
  and changes nothing but the token start;
* the group count and the last token kind are those of the tokens returned so far.

Each fact is an invariant of one call (`Lexer.call_cases` says what a call can do), carried
over a session by induction on the calls.
-/

namespace EcmaRegex

namespace Lexer

/-- A call a client makes on a lexer. -/
inductive Call where
  | hasNext
  | nextToken
  | index
  | tokenSpan
  | next
  deriving DecidableEq, Repr

/-- What a call answers. -/
inductive Reply where
  | hasNext (b : Bool)
  | token (r : Except SyntaxError Token)
  | index (i : Nat)
  | span (s : TextSpan)
  | item (r : Option (Except SyntaxError Token))

/-- The token a reply returns, if it returns one. -/
def Reply.token? : Reply → Option Token
  | .token (.ok t) => some t
  | .item (some (.ok t)) => some t
  | _ => none

/-- Make one call. -/
def call (l : Lexer) : Call → Reply × Lexer
  | .hasNext => (.hasNext l.hasNext, l)
  | .nextToken => (.token l.nextToken.1, l.nextToken.2)
  | .index => (.index l.index, l)
  | .tokenSpan => (.span l.tokenSpan, l)
  | .next => (.item l.next.1, l.next.2)

/-- Make the calls in order, collecting the replies. -/
def session (l : Lexer) : List Call → List Reply × Lexer
  | [] => ([], l)
  | c :: cs => ((l.call c).1 :: ((l.call c).2.session cs).1, ((l.call c).2.session cs).2)

/-- Whether the call reads a token: `nextToken` always, `next` unless it has failed before
or the input is used up. -/
def reads (l : Lexer) : Call → Bool
  | .nextToken => true
  | .next => !l.failed && l.hasNext
  | _ => false

/-- The spans of the tokens read with input left during a session, in order, each as the
pair of its start and its stop. -/
def readSpans (l : Lexer) : List Call → List (Nat × Nat)
  | [] => []
  | c :: cs =>
    if l.reads c && l.hasNext then
      ((l.call c).2.tokenStart, (l.call c).2.index) :: (l.call c).2.readSpans cs
    else (l.call c).2.readSpans cs

/-- Spans that follow one another from `start` to `stop`, none empty, with neither gap nor
overlap. -/
def Tiling : List (Nat × Nat) → Nat → Nat → Prop
  | [], start, stop => start = stop
  | (s, e) :: rest, start, stop => s = start ∧ s < e ∧ Tiling rest e stop

theorem Tiling.start_le : ∀ {spans : List (Nat × Nat)} {start stop : Nat},
    Tiling spans start stop → start ≤ stop
  | [], _, _, h => Nat.le_of_eq h
  | (_, _) :: _, _, _, ⟨hs, hlt, h⟩ => by
    have := Tiling.start_le h
    omega

/-- Tiling spans are at most as many as the units they cover. -/
theorem Tiling.length_le : ∀ {spans : List (Nat × Nat)} {start stop : Nat},
    Tiling spans start stop → spans.length ≤ stop - start
  | [], _, _, h => by simp only [List.length_nil]; omega
  | (s, e) :: rest, start, stop, ⟨hs, hlt, h⟩ => by
    have := Tiling.length_le h
    have := Tiling.start_le h
    simp only [List.length_cons]
    omega

/-! ## What one call of `nextToken` does -/

section NextToken

variable {l : Lexer}

/-- A successful read moves the position to where the token ended, and records its kind
and, for a capture group, one more group. -/
theorem nextToken_ok {t : Token} {after : List Nat}
    (h : Scan.token l.mode l.groupCount l.lastToken l.rest = .ok (t, after)) :
    l.nextToken = (.ok t,
      { l with tokenStart := l.index, index := l.size - after.length, lastToken := some t.kind,
               groupCount := countGroup l.groupCount t.kind }) := by
  simp only [nextToken]
  rw [show ({ l with tokenStart := l.index } : Lexer).rest = l.rest from rfl,
    show ({ l with tokenStart := l.index } : Lexer).mode = l.mode from rfl, h]
  rfl

/-- A failed read moves the position to where scanning stopped and changes nothing else
but the token start. -/
theorem nextToken_error {p : Problem} {after : List Nat}
    (h : Scan.token l.mode l.groupCount l.lastToken l.rest = .error (p, after)) :
    l.nextToken = (.error ⟨l.source.text, l.source.flags, p,
        TextSpan.between (position l.index) (position (l.size - after.length))⟩,
      { l with tokenStart := l.index, index := l.size - after.length }) := by
  simp only [nextToken]
  rw [show ({ l with tokenStart := l.index } : Lexer).rest = l.rest from rfl,
    show ({ l with tokenStart := l.index } : Lexer).mode = l.mode from rfl, h]
  rfl

@[simp] theorem nextToken_tokenStart (l : Lexer) : l.nextToken.2.tokenStart = l.index := by
  cases h : Scan.token l.mode l.groupCount l.lastToken l.rest with
  | ok r => rw [nextToken_ok h]
  | error e => rw [nextToken_error h]

theorem nextToken_index_eq (l : Lexer) :
    l.nextToken.2.index =
      l.size - (Scan.token l.mode l.groupCount l.lastToken l.rest).rest.length := by
  cases h : Scan.token l.mode l.groupCount l.lastToken l.rest with
  | ok r => rw [nextToken_ok h]; rfl
  | error e => rw [nextToken_error h]; rfl

@[simp] theorem nextToken_failed (l : Lexer) : l.nextToken.2.failed = l.failed := by
  cases h : Scan.token l.mode l.groupCount l.lastToken l.rest with
  | ok r => rw [nextToken_ok h]
  | error e => rw [nextToken_error h]

@[simp] theorem nextToken_size (l : Lexer) : l.nextToken.2.size = l.size := by
  simp only [size, nextToken_source]

theorem rest_length (l : Lexer) : l.rest.length = l.size - l.index := by
  simp only [rest, size, List.length_drop]

/-- A read never moves the position back, nor past the end. -/
theorem nextToken_index_le (l : Lexer) :
    l.index ≤ l.nextToken.2.index ∨ l.size < l.index := by
  rw [nextToken_index_eq]
  have hr := rest_length l
  cases hrest : l.rest with
  | nil =>
    simp only [hrest, List.length_nil] at hr
    simp only [Scan.token, Scanned.rest_error, List.length_nil]
    omega
  | cons c input =>
    have := Scan.token_rest_length l.mode l.groupCount l.lastToken c input
    simp only [hrest, List.length_cons] at hr ⊢
    omega

/-- A read made with input left consumes at least one unit, whether it succeeds or fails. -/
theorem nextToken_advances (hn : l.hasNext = true) : l.index < l.nextToken.2.index := by
  simp only [hasNext, decide_eq_true_eq] at hn
  rw [nextToken_index_eq]
  have hr := rest_length l
  cases hrest : l.rest with
  | nil =>
    simp only [hrest, List.length_nil] at hr
    omega
  | cons c input =>
    have := Scan.token_rest_length l.mode l.groupCount l.lastToken c input
    simp only [hrest, List.length_cons] at hr ⊢
    omega

/-- A read at the end of the input is the error for an unexpected end, with an empty span
at the end, and changes nothing but the token start. -/
theorem nextToken_at_end (hn : l.hasNext = false) (hle : l.index ≤ l.size) :
    l.nextToken = (.error ⟨l.source.text, l.source.flags, .unexpectedEnd, ⟨position l.size, 0⟩⟩,
      { l with tokenStart := l.index }) := by
  simp only [hasNext, decide_eq_false_iff_not, Nat.not_lt] at hn
  have hend : l.index = l.size := Nat.le_antisymm hle hn
  have hrest : l.rest = [] := List.length_eq_zero_iff.mp (by rw [rest_length]; omega)
  have hscan : Scan.token l.mode l.groupCount l.lastToken l.rest = .error (.unexpectedEnd, []) := by
    rw [hrest]
    rfl
  rw [nextToken_error hscan]
  simp only [List.length_nil, Nat.sub_zero, ← hend, TextSpan.between, Nat.sub_self]

end NextToken

/-! ## What one call does -/

section Call

variable {l : Lexer}

theorem next_of_idle (h : (l.failed || !l.hasNext) = true) : l.next = (none, l) := by
  simp only [next, h, if_true]

theorem next_of_ready (h : (l.failed || !l.hasNext) = false) :
    l.next = (some l.nextToken.1, { l.nextToken.2 with failed := !l.nextToken.1.toBool }) := by
  have hf : l.failed = false := by
    simp only [Bool.or_eq_false_iff] at h
    exact h.1
  simp only [next, h, Bool.false_eq_true, if_false]
  cases h' : Scan.token l.mode l.groupCount l.lastToken l.rest with
  | ok r =>
    rw [nextToken_ok h']
    simp only [Except.toBool, Bool.not_true, hf]
  | error e =>
    rw [nextToken_error h']
    simp only [Except.toBool, Bool.not_false]

/-- A call either leaves the lexer as it was and returns no token, or reads a token: its
state is then the state after `nextToken`, up to the iterator's `failed` flag, and it returns
the token `nextToken` returns, if any. -/
theorem call_cases (l : Lexer) (c : Call) :
    (l.reads c = false ∧ (l.call c).2 = l ∧ (l.call c).1.token? = none) ∨
    (l.reads c = true ∧ (∃ b, (l.call c).2 = { l.nextToken.2 with failed := b }) ∧
      (l.call c).1.token? = l.nextToken.1.toOption) := by
  cases c with
  | hasNext => exact Or.inl ⟨rfl, rfl, rfl⟩
  | index => exact Or.inl ⟨rfl, rfl, rfl⟩
  | tokenSpan => exact Or.inl ⟨rfl, rfl, rfl⟩
  | nextToken =>
    refine Or.inr ⟨rfl, ⟨l.nextToken.2.failed, rfl⟩, ?_⟩
    simp only [call]
    cases l.nextToken.1 <;> rfl
  | next =>
    cases h : (l.failed || !l.hasNext) with
    | true =>
      have hr : l.reads .next = false := by
        simp only [reads]
        revert h
        cases l.failed <;> cases l.hasNext <;> decide
      exact Or.inl ⟨hr, by simp only [call, next_of_idle h],
        by simp only [call, next_of_idle h]; rfl⟩
    | false =>
      have hr : l.reads .next = true := by
        simp only [reads]
        revert h
        cases l.failed <;> cases l.hasNext <;> decide
      refine Or.inr ⟨hr, ⟨!l.nextToken.1.toBool, by simp only [call, next_of_ready h]⟩, ?_⟩
      simp only [call, next_of_ready h]
      cases l.nextToken.1 <;> rfl

@[simp] theorem call_source (l : Lexer) (c : Call) : (l.call c).2.source = l.source := by
  rcases call_cases l c with ⟨-, h, -⟩ | ⟨-, ⟨b, h⟩, -⟩
  · rw [h]
  · rw [h]
    exact nextToken_source l

@[simp] theorem call_library (l : Lexer) (c : Call) : (l.call c).2.library = l.library := by
  rcases call_cases l c with ⟨-, h, -⟩ | ⟨-, ⟨b, h⟩, -⟩
  · rw [h]
  · rw [h]
    exact nextToken_library l

@[simp] theorem call_mode (l : Lexer) (c : Call) : (l.call c).2.mode = l.mode := by
  simp only [mode, call_source, call_library]

@[simp] theorem call_size (l : Lexer) (c : Call) : (l.call c).2.size = l.size := by
  simp only [size, call_source]

@[simp] theorem session_source (l : Lexer) (calls : List Call) :
    (l.session calls).2.source = l.source := by
  induction calls generalizing l with
  | nil => rfl
  | cons c cs ih => simp only [Lexer.session, ih, call_source]

@[simp] theorem session_library (l : Lexer) (calls : List Call) :
    (l.session calls).2.library = l.library := by
  induction calls generalizing l with
  | nil => rfl
  | cons c cs ih => simp only [Lexer.session, ih, call_library]

@[simp] theorem session_size (l : Lexer) (calls : List Call) :
    (l.session calls).2.size = l.size := by
  simp only [size, session_source]

end Call

/-! ## The position stays within the pattern -/

/-- The token start lies at or before the position, which lies within the pattern. -/
structure Bounded (l : Lexer) : Prop where
  start_le : l.tokenStart ≤ l.index
  index_le : l.index ≤ l.size

theorem bounded_new (lib : UnicodeLibrary) (source : Source) : Bounded (new lib source) :=
  ⟨Nat.le_refl 0, Nat.zero_le _⟩

theorem Bounded.nextToken {l : Lexer} (h : Bounded l) : Bounded l.nextToken.2 := by
  refine ⟨?_, ?_⟩
  · rw [nextToken_tokenStart]
    rcases nextToken_index_le l with hle | hlt
    · exact hle
    · exact absurd h.index_le (Nat.not_le.mpr hlt)
  · rw [nextToken_index_eq, nextToken_size]
    exact Nat.sub_le _ _

theorem Bounded.call {l : Lexer} (h : Bounded l) (c : Call) : Bounded (l.call c).2 := by
  rcases call_cases l c with ⟨-, hc, -⟩ | ⟨-, ⟨b, hc⟩, -⟩
  · rw [hc]
    exact h
  · rw [hc]
    exact ⟨h.nextToken.start_le, h.nextToken.index_le⟩

theorem Bounded.session {l : Lexer} (h : Bounded l) (calls : List Call) :
    Bounded (l.session calls).2 := by
  induction calls generalizing l with
  | nil => exact h
  | cons c cs ih => exact ih (h.call c)

/-! ## Spans tile the pattern -/

/-- The reads of a session made with input left tile the part of the pattern between the
position it starts at and the position it ends at. -/
theorem tiling_readSpans {l : Lexer} (h : Bounded l) (calls : List Call) :
    Tiling (l.readSpans calls) l.index (l.session calls).2.index := by
  induction calls generalizing l with
  | nil => rfl
  | cons c cs ih =>
    have hnext := ih (h.call c)
    simp only [readSpans, session]
    rcases call_cases l c with ⟨hr, hc, -⟩ | ⟨hr, ⟨b, hc⟩, -⟩
    · -- nothing read: the position stays
      simp only [hr, Bool.false_and, Bool.false_eq_true, if_false]
      rw [hc] at hnext ⊢
      exact hnext
    · cases hn : l.hasNext with
      | true =>
        simp only [hr, Bool.and_self, if_true]
        rw [hc] at hnext ⊢
        exact ⟨nextToken_tokenStart l, by simpa using nextToken_advances hn, hnext⟩
      | false =>
        -- a read at the end leaves the position where it was
        simp only [Bool.and_false, Bool.false_eq_true, if_false]
        rw [hc, nextToken_at_end hn h.index_le] at hnext ⊢
        exact hnext

/-! ## The state remembers the tokens returned -/

/-- The part of the state that records the tokens returned so far: one more than the count
of capture groups among them, saturating at `2 ^ 32 - 1`, and the kind of the last one. -/
structure Remembers (l : Lexer) (tokens : List Token) : Prop where
  groups : l.groupCount = min (1 + tokens.countP (·.kind == .captureGroupBegin)) Scan.u32Max
  last : l.lastToken = tokens.getLast?.map Token.kind

theorem remembers_new (lib : UnicodeLibrary) (source : Source) : Remembers (new lib source) [] :=
  ⟨rfl, rfl⟩

theorem Remembers.nextToken {l : Lexer} {tokens : List Token} (h : Remembers l tokens) :
    Remembers l.nextToken.2 (tokens ++ l.nextToken.1.toOption.toList) := by
  cases hs : Scan.token l.mode l.groupCount l.lastToken l.rest with
  | ok r =>
    obtain ⟨t, after⟩ := r
    rw [nextToken_ok hs]
    refine ⟨?_, ?_⟩
    · have hmax : 1 ≤ Scan.u32Max := by decide
      simp only [Except.toOption, Option.toList_some, List.countP_append, List.countP_singleton,
        countGroup, h.groups]
      cases t.kind == .captureGroupBegin
      · simp only [Bool.false_eq_true, if_false, Nat.add_zero]
      · simp only [if_true]
        omega
    · simp only [Except.toOption, Option.toList_some, List.getLast?_append, List.getLast?_singleton,
        Option.some_or, Option.map_some]
  | error e =>
    obtain ⟨p, after⟩ := e
    rw [nextToken_error hs]
    simp only [Except.toOption, Option.toList_none, List.append_nil]
    exact ⟨h.groups, h.last⟩

theorem Remembers.call {l : Lexer} {tokens : List Token} (h : Remembers l tokens) (c : Call) :
    Remembers (l.call c).2 (tokens ++ (l.call c).1.token?.toList) := by
  rcases call_cases l c with ⟨-, hc, ht⟩ | ⟨-, ⟨b, hc⟩, ht⟩
  · rw [hc, ht, Option.toList_none, List.append_nil]
    exact h
  · rw [hc, ht]
    exact ⟨h.nextToken.groups, h.nextToken.last⟩

theorem Remembers.session {l : Lexer} {tokens : List Token} (h : Remembers l tokens)
    (calls : List Call) :
    Remembers (l.session calls).2 (tokens ++ (l.session calls).1.filterMap Reply.token?) := by
  induction calls generalizing l tokens with
  | nil => simpa [Lexer.session] using h
  | cons c cs ih =>
    have := ih (h.call c)
    simp only [Lexer.session, List.filterMap_cons]
    cases ht : (l.call c).1.token? with
    | none => simpa [ht] using this
    | some t => simpa [ht] using this

/-! ## The run invariant -/

/-- Every session on a fresh lexer, errors included, keeps the token start at or before the
position and the position within the pattern.  A read with input left moves the position
forward and starts its span where the last one stopped, so that those reads tile the pattern
from its start and are at most as many as its units; a read at the end is the error for an
unexpected end, with an empty span at the end, and changes nothing but the token start.  The
group count and the last token kind are those of the tokens the session returned. -/
theorem session_state_invariant (lib : UnicodeLibrary) (source : Source) (calls : List Call) :
    let l := ((new lib source).session calls).2
    let tokens := ((new lib source).session calls).1.filterMap Reply.token?
    (l.tokenStart ≤ l.index ∧ l.index ≤ l.size) ∧
    (l.hasNext = true → l.index < l.nextToken.2.index ∧ l.nextToken.2.tokenStart = l.index) ∧
    Tiling ((new lib source).readSpans calls) 0 l.index ∧
    ((new lib source).readSpans calls).length ≤ source.units.length ∧
    (l.hasNext = false → ∃ e, l.nextToken = (.error e, { l with tokenStart := l.index }) ∧
      e.code = 1504 ∧ e.span = ⟨position l.size, 0⟩) ∧
    l.groupCount = min (1 + tokens.countP (·.kind == .captureGroupBegin)) Scan.u32Max ∧
    l.lastToken = tokens.getLast?.map Token.kind := by
  intro l tokens
  have hb : Bounded l := (bounded_new lib source).session calls
  have hr : Remembers l tokens := by
    simpa using (remembers_new lib source).session calls
  have ht : Tiling ((new lib source).readSpans calls) 0 l.index :=
    tiling_readSpans (bounded_new lib source) calls
  have hsize : l.size = source.units.length := session_size (new lib source) calls
  refine ⟨⟨hb.start_le, hb.index_le⟩, fun hn => ⟨nextToken_advances hn, nextToken_tokenStart l⟩,
    ht, ?_, fun hn => ⟨_, nextToken_at_end hn hb.index_le, rfl, rfl⟩, hr.groups, hr.last⟩
  have := ht.length_le
  have := hb.index_le
  omega

end Lexer

/-- A whole pattern is read to tokens exactly when the lexer's run meets no error, and the
tokens are those of its lexemes. -/
theorem tokenize_eq_ok_iff {lib : UnicodeLibrary} {source : Source} {ts : List Token} :
    tokenize lib source = .ok ts ↔
      (Lexer.tokenize lib source).2 = none ∧ (Lexer.tokenize lib source).1.map (·.token) = ts := by
  unfold tokenize
  split
  · next lexemes heq =>
    simp only [heq, Except.ok.injEq, true_and]
  · next lexemes e heq =>
    simp only [heq, reduceCtorEq, false_and]

end EcmaRegex
