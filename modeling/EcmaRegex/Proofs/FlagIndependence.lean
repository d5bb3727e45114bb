import Mathlib.Data.List.Forall2
import EcmaRegex.Proofs.Session
import EcmaRegex.Proofs.ModeDependence
import EcmaRegex.Unicode.Tables
/-!
# Only the `u` flag decides the syntax

Two lexers over one pattern whose flags agree on `u` run in lockstep, whatever their other
flags and their options: for every sequence of calls they answer alike, call by call.  Reads
succeed or fail together, stopping at the same place; the errors have the same code, message
and span; the tokens have the same kinds and are equal unless they are character classes.
When the flags also agree on `i` and `s` and the options are the same, the tokens are equal
outright.  In particular a pattern is refused under some flags exactly when it is refused
under every flags with the same `u`.

The lockstep is the relation `Lexer.SameSyntax`: the same pattern, grammar and state.  One
read keeps it (`SameSyntax.nextToken`), from `Scan.token_erase`; so does every call, and so
every session and the whole of `Lexer.tokenize`.
-/

namespace EcmaRegex

namespace Lexer

/-- Two lexers over the same pattern, with the same grammar and Unicode library and in the same
state; they may differ in the other flags and in the options. -/
structure SameSyntax (l l' : Lexer) : Prop where
  units : l.source.units = l'.source.units
  unicode : l.mode.unicode = l'.mode.unicode
  library : l.library = l'.library
  index : l.index = l'.index
  tokenStart : l.tokenStart = l'.tokenStart
  lastToken : l.lastToken = l'.lastToken
  groupCount : l.groupCount = l'.groupCount
  failed : l.failed = l'.failed

/-- Two results of a read that agree: tokens of the same kind that are equal unless they are
character classes, or errors with the same code, message and span. -/
def SameShape : Except SyntaxError Token → Except SyntaxError Token → Prop
  | .ok t, .ok t' => t.kind = t'.kind ∧ (t.kind ≠ .charClass → t = t')
  | .error e, .error e' => e.code = e'.code ∧ e.text = e'.text ∧ e.span = e'.span
  | _, _ => False

/-- Two replies to the same call that agree: equal, but for results of reads, which have the
same shape. -/
def Reply.Agree : Reply → Reply → Prop
  | .hasNext b, .hasNext b' => b = b'
  | .token r, .token r' => SameShape r r'
  | .index i, .index i' => i = i'
  | .span s, .span s' => s = s'
  | .item r, .item r' => Option.Rel SameShape r r'
  | _, _ => False

theorem SameShape.toBool_eq {r r' : Except SyntaxError Token} (h : SameShape r r') :
    r.toBool = r'.toBool := by
  cases r <;> cases r'
  · rfl
  · exact h.elim
  · exact h.elim
  · rfl

theorem sameSyntax_new (lib : UnicodeLibrary) (units : List Nat) {f g : Flags} (o o' : Options)
    (hu : f.unicode = g.unicode) : SameSyntax (new lib ⟨units, f, o⟩) (new lib ⟨units, g, o'⟩) :=
  ⟨rfl, hu, rfl, rfl, rfl, rfl, rfl, rfl⟩

namespace SameSyntax

variable {l l' : Lexer} (h : SameSyntax l l')
include h

theorem size : l.size = l'.size := by
  simp only [Lexer.size, h.units]

theorem rest : l.rest = l'.rest := by
  simp only [Lexer.rest, h.units, h.index]

theorem hasNext : l.hasNext = l'.hasNext := by
  simp only [Lexer.hasNext, h.index, h.size]

/-- One read keeps two lexers in lockstep, and its results have the same shape. -/
theorem nextToken : SameShape l.nextToken.1 l'.nextToken.1 ∧
    SameSyntax l.nextToken.2 l'.nextToken.2 := by
  have herase := Scan.token_erase h.unicode h.library l.groupCount l.lastToken l.rest
  rw [h.rest, h.groupCount, h.lastToken] at herase
  rcases Scanned.erase_agree herase with ⟨⟨p, after⟩, h1, h2⟩ |
    ⟨t, t', after, h1, h2, hskel⟩
  · rw [← h.rest, ← h.groupCount, ← h.lastToken] at h1
    rw [nextToken_error h1, nextToken_error h2]
    refine ⟨⟨rfl, rfl, ?_⟩,
      ⟨h.units, h.unicode, h.library, ?_, h.index, h.lastToken, h.groupCount, h.failed⟩⟩
    · simp only [h.index, h.size]
    · simp only [h.size]
  · rw [← h.rest, ← h.groupCount, ← h.lastToken] at h1
    rw [nextToken_ok h1, nextToken_ok h2]
    have hkind : t.kind = t'.kind := by
      rw [← Token.skeleton_kind t, hskel, Token.skeleton_kind]
    refine ⟨Token.skeleton_eq_skeleton_iff.mp hskel,
      ⟨h.units, h.unicode, h.library, ?_, h.index, ?_, ?_, h.failed⟩⟩
    · simp only [h.size]
    · simp only [hkind]
    · simp only [h.groupCount, hkind]

theorem reads (c : Call) : l.reads c = l'.reads c := by
  cases c <;> simp only [Lexer.reads, h.failed, h.hasNext]

/-- Every call keeps two lexers in lockstep, and their replies agree. -/
theorem call (c : Call) : Reply.Agree (l.call c).1 (l'.call c).1 ∧
    SameSyntax (l.call c).2 (l'.call c).2 := by
  cases c with
  | hasNext => exact ⟨h.hasNext, h⟩
  | index => exact ⟨h.index, h⟩
  | tokenSpan => exact ⟨by simp only [Lexer.call, tokenSpan, h.index, h.tokenStart, Reply.Agree], h⟩
  | nextToken => exact h.nextToken
  | next =>
    have hstop : (l.failed || !l.hasNext) = (l'.failed || !l'.hasNext) := by
      rw [h.failed, h.hasNext]
    cases hs : (l.failed || !l.hasNext) with
    | true =>
      simp only [Lexer.call, next_of_idle hs, next_of_idle (hstop ▸ hs)]
      exact ⟨Option.Rel.none, h⟩
    | false =>
      simp only [Lexer.call, next_of_ready hs, next_of_ready (hstop ▸ hs)]
      obtain ⟨hr, hn⟩ := h.nextToken
      refine ⟨Option.Rel.some hr, ⟨hn.units, hn.unicode, hn.library, hn.index, hn.tokenStart,
        hn.lastToken, hn.groupCount, ?_⟩⟩
      simp only [hr.toBool_eq]

/-- Every session keeps two lexers in lockstep, and their replies agree call by call. -/
theorem session (calls : List Call) :
    List.Forall₂ Reply.Agree (l.session calls).1 (l'.session calls).1 ∧
      SameSyntax (l.session calls).2 (l'.session calls).2 := by
  induction calls generalizing l l' with
  | nil => exact ⟨List.Forall₂.nil, h⟩
  | cons c cs ih =>
    obtain ⟨hr, hc⟩ := h.call c
    obtain ⟨hrs, hs⟩ := ih hc
    exact ⟨List.Forall₂.cons hr hrs, hs⟩

/-! ### Modes that read alike read the same tokens -/

section SameReading

variable (hm : Scan.Mode.SameReading l.mode l'.mode)
include hm

theorem nextToken_toOption : l.nextToken.1.toOption = l'.nextToken.1.toOption := by
  have hscan : Scan.token l.mode l.groupCount l.lastToken l.rest =
      Scan.token l'.mode l'.groupCount l'.lastToken l'.rest := by
    rw [Scan.token_congr hm, h.groupCount, h.lastToken, h.rest]
  cases h1 : Scan.token l.mode l.groupCount l.lastToken l.rest with
  | ok r =>
    obtain ⟨t, after⟩ := r
    rw [nextToken_ok h1, nextToken_ok (hscan ▸ h1)]
  | error e =>
    obtain ⟨p, after⟩ := e
    rw [nextToken_error h1, nextToken_error (hscan ▸ h1)]
    rfl

theorem call_token? (c : Call) : (l.call c).1.token? = (l'.call c).1.token? := by
  rcases call_cases l c with ⟨hr, -, ht⟩ | ⟨hr, -, ht⟩ <;>
    rcases call_cases l' c with ⟨hr', -, ht'⟩ | ⟨hr', -, ht'⟩
  · rw [ht, ht']
  · rw [h.reads c, hr'] at hr
    cases hr
  · rw [h.reads c, hr'] at hr
    cases hr
  · rw [ht, ht', nextToken_toOption h hm]

end SameReading

/-- When the modes also read alike, two lexers in lockstep return the same tokens. -/
theorem session_tokens (hm : Scan.Mode.SameReading l.mode l'.mode) (calls : List Call) :
    (l.session calls).1.map Reply.token? = (l'.session calls).1.map Reply.token? := by
  induction calls generalizing l l' with
  | nil => rfl
  | cons c cs ih =>
    have hm' : Scan.Mode.SameReading (l.call c).2.mode (l'.call c).2.mode := by
      simp only [call_mode]
      exact hm
    simp only [Lexer.session, List.map_cons, call_token? h hm c, ih (h.call c).2 hm']

/-- Reading a whole pattern keeps two lexers in lockstep: they read tokens of the same
skeletons, and stop at an error together. -/
theorem tokenizeFrom {acc acc' : Array Lexeme}
    (hacc : List.Forall₂ (fun a b : Lexeme => a.token.skeleton = b.token.skeleton)
      acc.toList acc'.toList) :
    List.Forall₂ (fun a b : Lexeme => a.token.skeleton = b.token.skeleton)
        (l.tokenizeFrom acc).1.toList (l'.tokenizeFrom acc').1.toList ∧
      (l.tokenizeFrom acc).2.isSome = (l'.tokenizeFrom acc').2.isSome := by
  fun_induction l.tokenizeFrom acc generalizing l' acc' with
  | case1 l acc hn t l₁ heq _ ih =>
    have hn' : l'.hasNext = true := by
      rw [← h.hasNext]
      exact hn
    have hstep := h.nextToken
    rw [heq] at hstep
    rw [Lexer.tokenizeFrom.eq_1 l' acc', dif_pos hn']
    split
    · next t' l₁' heq' =>
      rw [heq'] at hstep
      obtain ⟨hshape, hsync⟩ := hstep
      refine ih hsync ?_
      simp only [Array.toList_push]
      exact List.rel_append hacc
        (List.Forall₂.cons (Token.skeleton_eq_skeleton_iff.mpr hshape) List.Forall₂.nil)
    · next e' _ heq' =>
      rw [heq'] at hstep
      exact hstep.1.elim
  | case2 l acc hn e l₁ heq =>
    have hn' : l'.hasNext = true := by
      rw [← h.hasNext]
      exact hn
    have hshape := h.nextToken.1
    rw [heq] at hshape
    rw [Lexer.tokenizeFrom.eq_1 l' acc', dif_pos hn']
    split
    · next t' l₁' heq' =>
      rw [heq'] at hshape
      exact hshape.elim
    · exact ⟨hacc, rfl⟩
  | case3 l acc hn =>
    have hn' : ¬l'.hasNext = true := by
      rw [← h.hasNext]
      exact hn
    rw [Lexer.tokenizeFrom.eq_1 l' acc', dif_neg hn']
    exact ⟨hacc, rfl⟩

end SameSyntax

/-- Under two flags with the same `u`, whatever the rest of the flags and the options, a
pattern is read to tokens of the same skeletons, and refused or not alike. -/
theorem tokenize_sameSyntax (lib : UnicodeLibrary) (units : List Nat) {f g : Flags}
    (o o' : Options) (hu : f.unicode = g.unicode) :
    List.Forall₂ (fun a b : Lexeme => a.token.skeleton = b.token.skeleton)
        (tokenize lib ⟨units, f, o⟩).1 (tokenize lib ⟨units, g, o'⟩).1 ∧
      (tokenize lib ⟨units, f, o⟩).2.isSome = (tokenize lib ⟨units, g, o'⟩).2.isSome :=
  (sameSyntax_new lib units o o' hu).tokenizeFrom List.Forall₂.nil

end Lexer

theorem tokenize_toBool (lib : UnicodeLibrary) (source : Source) :
    (tokenize lib source).toBool = (Lexer.tokenize lib source).2.isNone := by
  unfold tokenize
  split
  · next lexemes heq =>
    simp only [heq, Except.toBool, Option.isNone_none]
  · next lexemes e heq =>
    simp only [heq, Except.toBool, Option.isNone_some]

/-- A pattern read under flags with the same `u` is read to tokens of the same skeletons. -/
theorem tokenize_ok_sameSyntax (lib : UnicodeLibrary) {units : List Nat} {f g : Flags}
    (o o' : Options) (hu : f.unicode = g.unicode) {ts : List Token}
    (h : tokenize lib ⟨units, f, o⟩ = .ok ts) :
    ∃ ts', tokenize lib ⟨units, g, o'⟩ = .ok ts' ∧
      List.Forall₂ (fun t t' : Token => t.skeleton = t'.skeleton) ts ts' := by
  obtain ⟨hlex, herr⟩ := Lexer.tokenize_sameSyntax lib units o o' hu
  obtain ⟨hnone, rfl⟩ := tokenize_eq_ok_iff.mp h
  have hnone' : (Lexer.tokenize lib ⟨units, g, o'⟩).2 = none := by
    rw [hnone, Option.isSome_none, eq_comm, Option.isSome_eq_false_iff, Option.isNone_iff_eq_none]
      at herr
    exact herr
  refine ⟨_, tokenize_eq_ok_iff.mpr ⟨hnone', rfl⟩, ?_⟩
  rw [List.forall₂_map_left_iff, List.forall₂_map_right_iff]
  exact hlex

/-! ## The theorem -/

/-- Two lexers over one pattern whose flags agree on `u` answer every sequence of calls alike,
whatever their other flags and their options, and end at the same position; their tokens are
equal when the flags also agree on `i` and `s` and the options are the same.  The pattern is
refused under the one exactly when it is refused under the other. -/
theorem syntax_depends_only_on_unicode (lib : UnicodeLibrary) (units : List Nat) (f g : Flags)
    (o o' : Options) (hu : f.unicode = g.unicode) (calls : List Lexer.Call) :
    let s := (Lexer.new lib ⟨units, f, o⟩).session calls
    let s' := (Lexer.new lib ⟨units, g, o'⟩).session calls
    List.Forall₂ Lexer.Reply.Agree s.1 s'.1 ∧ s.2.index = s'.2.index ∧
    (f.ignoreCase = g.ignoreCase → f.dotAll = g.dotAll → o = o' →
      s.1.map Lexer.Reply.token? = s'.1.map Lexer.Reply.token?) ∧
    (tokenize lib ⟨units, f, o⟩).toBool = (tokenize lib ⟨units, g, o'⟩).toBool := by
  intro s s'
  have hsync := Lexer.sameSyntax_new lib units o o' hu
  obtain ⟨hreplies, hend⟩ := hsync.session calls
  refine ⟨hreplies, hend.index, fun hi hd ho => hsync.session_tokens ⟨hu, hi, hd, ho, rfl⟩ calls,
    ?_⟩
  rw [tokenize_toBool, tokenize_toBool, ← Option.not_isSome, ← Option.not_isSome,
    (Lexer.tokenize_sameSyntax lib units o o' hu).2]

/-- Folding case changes the sets read from `a*`, not the tokens' shapes. -/
theorem case_blind_star :
    ({ ignoreCase := true } : Flags).unicode = ({} : Flags).unicode ∧
    List.Forall₂ Lexer.Reply.Agree
      ((Lexer.new Unicode.tables ⟨[97, 42], { ignoreCase := true }, {}⟩).session
        [.nextToken, .nextToken]).1
      ((Lexer.new Unicode.tables ⟨[97, 42], {}, {}⟩).session [.nextToken, .nextToken]).1 :=
  ⟨rfl, (syntax_depends_only_on_unicode Unicode.tables [97, 42] { ignoreCase := true } {} {} {}
    rfl [.nextToken, .nextToken]).1⟩

end EcmaRegex
