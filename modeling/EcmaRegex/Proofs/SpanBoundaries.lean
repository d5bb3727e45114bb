import EcmaRegex.Proofs.Session
/-!
# Spans and surrogate pairs

In the unicode grammar a pattern is read as code points: a high surrogate followed by a low
surrogate is one code point, and a position between the two is no code point boundary
(`Utf16.Boundary`).  Every scan of that grammar stops on a clean cut, but for the failure on an
escape whose escaped unit is a high surrogate with its low surrogate after it (`Scan.Stops`).  So
a read of the lexer that starts on a boundary ends on one, unless it fails on such an escaped
pair (`Lexer.nextToken_boundary`, `Lexer.SplitsEscapedPair`); a run that meets no such failure
keeps its token start and its position on boundaries throughout.
-/

namespace EcmaRegex

namespace Utf16

/-- A position of a unit list is a code point boundary when cutting there separates no pair. -/
def Boundary (w : List Nat) (i : Nat) : Prop :=
  SplitsPair (w.take i) (w.drop i) = false

instance (w : List Nat) (i : Nat) : Decidable (Boundary w i) :=
  inferInstanceAs (Decidable (_ = false))

theorem boundary_zero (w : List Nat) : Boundary w 0 := rfl

theorem boundary_append_length (a r : List Nat) :
    Boundary (a ++ r) a.length ↔ SplitsPair a r = false := by
  rw [Boundary, List.take_left, List.drop_left]

/-- Reading cleanly from a boundary stops on a boundary. -/
theorem Boundary.of_cutsClean {w r : List Nat} {i : Nat} (hb : Boundary w i)
    (h : Scan.CutsClean (w.drop i) r) : Boundary w (w.length - r.length) := by
  obtain ⟨pre, hpre, hsplit⟩ := h
  -- the cut after the units read is decided by the last of them, or by the old cut if none
  have hcut : SplitsPair (w.take i ++ pre) r = false := by
    cases pre with
    | nil =>
      rw [List.nil_append] at hpre
      rw [List.append_nil, ← hpre]
      exact hb
    | cons x xs => rw [splitsPair_append _ (List.cons_ne_nil x xs), hsplit]
  have hw : w = (w.take i ++ pre) ++ r := by
    rw [List.append_assoc, ← hpre, List.take_append_drop]
  generalize w.take i ++ pre = a at hcut hw
  subst hw
  rw [List.length_append, Nat.add_sub_cancel]
  exact (boundary_append_length a r).2 hcut

end Utf16

namespace Lexer

open Utf16

/-- The failure on an escape whose escaped unit is a high surrogate with its low surrogate after
it, in the pattern `w`: an invalid escape whose span stops between the two halves of the pair. -/
def SplitsEscapedPair (w : List Nat) (e : SyntaxError) : Prop :=
  e.problem = .invalidEscape ∧ ∃ pre lead trail after,
    w = pre ++ Scan.unit '\\' :: lead :: trail :: after ∧ isHigh lead = true ∧
      isLow trail = true ∧ e.span.stop = position (pre.length + 2)

/-- A read whose scan splits an escaped pair fails so, and its span stops inside the pair. -/
theorem nextToken_splitsEscapedPair {l : Lexer}
    (h : Scan.SplitsEscape l.rest (Scan.token l.mode l.groupCount l.lastToken l.rest)) :
    ∃ e, l.nextToken.1 = .error e ∧ SplitsEscapedPair l.source.units e := by
  obtain ⟨pre, lead, trail, after, hrest, hl, ht, htok⟩ := h
  rw [nextToken_error htok]
  refine ⟨_, rfl, rfl, l.source.units.take l.index ++ pre, lead, trail, after, ?_, hl, ht, ?_⟩
  · rw [List.append_assoc, ← hrest, rest, List.take_append_drop]
  · -- the rest holds the escape, so the position is before the end and the read stops after it
    have hlen : l.rest.length = l.size - l.index := List.length_drop ..
    rw [hrest] at hlen
    simp only [List.length_append, List.length_cons] at hlen
    have hi : l.index ≤ l.size := by omega
    simp only [TextSpan.stop, TextSpan.between, List.length_append, List.length_take,
      List.length_cons]
    rw [show min l.index l.source.units.length = l.index from Nat.min_eq_left hi]
    have hmono : position l.index ≤ position (l.size - (after.length + 1)) := by
      simp only [position]
      omega
    rw [Nat.add_sub_cancel' hmono]
    congr 1
    omega

/-- In the unicode grammar a read that starts on a code point boundary ends on one, unless it
fails on an escape whose escaped unit is a high surrogate with its low surrogate after it. -/
theorem nextToken_boundary (l : Lexer) (hu : l.source.flags.unicode = true)
    (hb : Boundary l.source.units l.index) :
    Boundary l.source.units l.nextToken.2.index ∨
      ∃ e, l.nextToken.1 = .error e ∧ SplitsEscapedPair l.source.units e := by
  have hmode : l.mode.unicode = true := hu
  rcases (Scan.Stops.token l.groupCount l.lastToken l.rest).unicode hmode with h | h
  · left
    rw [nextToken_index_eq]
    exact Boundary.of_cutsClean hb h
  · exact Or.inr (nextToken_splitsEscapedPair h)

/-- The token start and the position of a lexer lie on code point boundaries of its pattern. -/
structure OnBoundaries (l : Lexer) : Prop where
  start : Boundary l.source.units l.tokenStart
  index : Boundary l.source.units l.index

theorem onBoundaries_new (lib : UnicodeLibrary) (source : Source) : OnBoundaries (new lib source) :=
  ⟨boundary_zero _, boundary_zero _⟩

/-- The error a reply returns, if it returns one. -/
def Reply.error? : Reply → Option SyntaxError
  | .token (.error e) => some e
  | .item (some (.error e)) => some e
  | _ => none

/-- A call that reads a token replies with the error of `nextToken`, if there is one. -/
theorem call_error?_of_reads {l : Lexer} {c : Call} (hr : l.reads c = true) :
    (l.call c).1.error? = (Reply.token l.nextToken.1).error? := by
  cases c with
  | nextToken => rfl
  | next =>
    have h : (l.failed || !l.hasNext) = false := by
      simp only [reads, Bool.and_eq_true, Bool.not_eq_true'] at hr
      simp only [hr.1, hr.2, Bool.not_true, Bool.or_self]
    simp only [call, next_of_ready h]
    cases l.nextToken.1 <;> rfl
  | hasNext | index | tokenSpan => cases hr

variable {l : Lexer}

theorem OnBoundaries.nextToken (h : OnBoundaries l) (hu : l.source.flags.unicode = true)
    (hne : ∀ e, l.nextToken.1 = .error e → ¬ SplitsEscapedPair l.source.units e) :
    OnBoundaries l.nextToken.2 := by
  refine ⟨?_, ?_⟩
  · rw [nextToken_source, nextToken_tokenStart]
    exact h.index
  · rcases nextToken_boundary l hu h.index with hb | ⟨e, he, hsplit⟩
    · rw [nextToken_source]
      exact hb
    · exact absurd hsplit (hne e he)

theorem OnBoundaries.call (h : OnBoundaries l) (hu : l.source.flags.unicode = true) (c : Call)
    (hne : ∀ e, (l.call c).1.error? = some e → ¬ SplitsEscapedPair l.source.units e) :
    OnBoundaries (l.call c).2 := by
  rcases call_cases l c with ⟨-, hc, -⟩ | ⟨hr, ⟨b, hc⟩, -⟩
  · rw [hc]
    exact h
  · have hnext := h.nextToken hu fun e he => hne e (by rw [call_error?_of_reads hr, he]; rfl)
    rw [hc]
    exact ⟨hnext.start, hnext.index⟩

/-- A session keeps the token start and the position on boundaries as long as no reply is the
failure on an escaped surrogate pair. -/
theorem OnBoundaries.session (h : OnBoundaries l) (hu : l.source.flags.unicode = true)
    (calls : List Call)
    (hne : ∀ r ∈ (l.session calls).1, ∀ e, r.error? = some e →
      ¬ SplitsEscapedPair l.source.units e) :
    OnBoundaries (l.session calls).2 := by
  induction calls generalizing l with
  | nil => exact h
  | cons c cs ih =>
    simp only [session, List.mem_cons, forall_eq_or_imp] at hne ⊢
    have hsrc : (l.call c).2.source = l.source := call_source l c
    exact ih (h.call hu c hne.1) (by rw [hsrc]; exact hu) (by rw [hsrc]; exact hne.2)

end Lexer

end EcmaRegex
