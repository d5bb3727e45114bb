import EcmaRegex.Proofs.Session
import EcmaRegex.Unicode.Tables
/-!
# Literal text

Text with none of the units `^ $ \ . * + ? ( ) [ ] { } |` is read one code point at a time, each
as a class of that one code point.  What a code point is depends on the grammar: the unicode
grammar decodes UTF-16, taking a high surrogate directly followed by a low surrogate as one code
point and every other unit, a lone surrogate included, as its own value (`Utf16.decode`); the
legacy grammar takes every unit as a code point.

The lexer decides a pair by looking one unit past each high surrogate.  One read at such text
takes the first code point of the decoding and leaves the rest of the text
(`Lexer.nextToken_literal`), whatever surrounds it, so the decoding of the whole text is read
off by induction on the reads.  Without the `i` flag the classes are not folded, and a string
written as UTF-16 is read back one class per character, since decoding undoes the encoding
(`Utf16.decode_encode`).
-/

namespace EcmaRegex

namespace Utf16

/-- The code points a sequence of UTF-16 units stands for: a high surrogate directly followed
by a low surrogate is one code point, and every other unit, a lone surrogate included, stands
for itself. -/
def decode : List Nat → List Nat
  | [] => []
  | [u] => [u]
  | u :: v :: rest => if isHigh u && isLow v then combine u v :: decode rest else u :: decode (v :: rest)

theorem decode_cons_of_not_high {u : Nat} (hu : isHigh u = false) (rest : List Nat) :
    decode (u :: rest) = u :: decode rest := by
  cases rest with
  | nil => rfl
  | cons v rest => simp only [decode, hu, Bool.false_and, Bool.false_eq_true, if_false]

/-- A high surrogate is decoded with the low surrogate after it, if there is one. -/
theorem decode_cons_high {u : Nat} (hu : isHigh u = true) (rest : List Nat) :
    decode (u :: rest) = (Scan.surrogatePair u rest).1 :: decode (Scan.surrogatePair u rest).2 := by
  cases rest with
  | nil => rfl
  | cons v rest =>
    cases hv : isLow v
    · simp only [decode, Scan.surrogatePair, hu, hv, Bool.and_false, Bool.false_eq_true, if_false]
    · simp only [decode, Scan.surrogatePair, hu, hv, Bool.and_self, if_true]

example : Utf16.decode [0x61, 0xDC00, 0xD83D, 0xDE00, 0xD800] = [0x61, 0xDC00, 0x1F600, 0xD800] := by
  decide

/-- The units of a character, and whatever follows them, decode to the character and then to
what the rest decodes to. -/
theorem decode_encodeChar_append (c : Char) (rest : List Nat) :
    decode (encodeChar c ++ rest) = c.toNat :: decode rest := by
  have hvalid := c.valid
  simp only [UInt32.isValidChar, Nat.isValidChar] at hvalid
  unfold encodeChar
  split
  · next hlt =>
    -- a character below `0x10000` is no surrogate, so it stands alone
    have hhigh : isHigh c.val.toNat = false := by
      simp only [isHigh, Bool.and_eq_false_iff, decide_eq_false_iff_not]
      omega
    rw [List.singleton_append, decode_cons_of_not_high hhigh]
    rfl
  · next hge =>
    have hpair : (isHigh (0xD800 + (c.val.toNat - 0x10000) / 0x400) &&
        isLow (0xDC00 + (c.val.toNat - 0x10000) % 0x400)) = true := by
      simp only [isHigh, isLow, Bool.and_eq_true, decide_eq_true_eq]
      omega
    have hcombine : combine (0xD800 + (c.val.toNat - 0x10000) / 0x400)
        (0xDC00 + (c.val.toNat - 0x10000) % 0x400) = c.val.toNat := by
      unfold combine
      omega
    simp only [List.cons_append, List.nil_append, decode, hpair, if_true, hcombine]
    rfl

/-- Decoding undoes the encoding of a string: its units decode to the code points of its
characters. -/
theorem decode_encode (s : String) : decode (encode s) = s.toList.map Char.toNat := by
  rw [encode]
  induction s.toList with
  | nil => rfl
  | cons c cs ih => rw [List.flatMap_cons, decode_encodeChar_append, ih, List.map_cons]

end Utf16

namespace Scan

/-- A string with no syntax character is written in UTF-16 with no syntax unit: its other
characters are written as units above ASCII. -/
theorem not_mem_syntaxUnits_encode {s : String} (hs : ∀ c ∈ s.toList, c.toNat ∉ syntaxUnits) :
    ∀ u ∈ Utf16.encode s, u ∉ syntaxUnits := by
  intro u hu
  obtain ⟨c, hc, hcu⟩ := List.mem_flatMap.1 hu
  unfold Utf16.encodeChar at hcu
  split at hcu
  · rw [List.mem_singleton.1 hcu]
    exact hs c hc
  · apply not_mem_syntaxUnits
    simp only [List.mem_cons, List.not_mem_nil, or_false] at hcu
    omega

/-- At a unit that is no syntax, a token is the class of that unit, or in the unicode grammar
of the surrogate pair it starts. -/
theorem token_of_not_syntax {m : Mode} {groups : Nat} {lastToken : Option TokenKind} {c : Nat}
    {rest : List Nat} (hc : c ∉ syntaxUnits) :
    token m groups lastToken (c :: rest) =
      if m.unicode && Utf16.isHigh c then
        .ok (single m (surrogatePair c rest).1, (surrogatePair c rest).2)
      else .ok (single m c, rest) := by
  rw [token_cons, opener_of_not_mem_syntaxUnits hc, apply_ite (opened m groups lastToken c rest)]
  rfl

/-- Without the `i` flag the class of one code point is not folded. -/
theorem single_of_caseSensitive {m : Mode} (hi : m.flags.ignoreCase = false) (c : Nat) :
    single m c = .charClass (CodePointSet.ofCodePoint c) := by
  simp only [single, classToken, hi, Bool.false_eq_true, if_false]

end Scan

namespace Lexer

/-- A lexer over the same pattern, positioned where `after` is left of the units `l.rest`,
has `after` left to read. -/
theorem rest_eq_of_read {l l' : Lexer} {pre after : List Nat} (h : l.rest = pre ++ after)
    (hs : l'.source = l.source) (hi : l'.index = l.size - after.length) : l'.rest = after := by
  have hlen := rest_length l
  rw [h, List.length_append] at hlen
  simp only [rest, size, hs, hi] at h hlen ⊢
  by_cases hle : l.index ≤ l.source.units.length
  · have hstop : l.source.units.length - after.length = l.index + pre.length := by omega
    rw [hstop, ← List.drop_drop, h, List.drop_left]
  · -- past the end nothing is left to read
    have hnil : after = [] := List.length_eq_zero_iff.1 (by omega)
    rw [hnil, List.length_nil, Nat.sub_zero, List.drop_length]

theorem exists_rest_cons {l : Lexer} (hn : l.hasNext = true) : ∃ u rest, l.rest = u :: rest := by
  have hlen := rest_length l
  simp only [hasNext, decide_eq_true_eq] at hn
  match hr : l.rest with
  | [] =>
    rw [hr, List.length_nil] at hlen
    omega
  | u :: rest => exact ⟨u, rest, rfl⟩

theorem rest_eq_nil {l : Lexer} (hn : l.hasNext = false) : l.rest = [] := by
  have hlen := rest_length l
  simp only [hasNext, decide_eq_false_iff_not] at hn
  exact List.length_eq_zero_iff.1 (by omega)

/-- One read at a unit that is no syntax takes the first code point of the text, as a class
of that code point, and leaves the rest of the text, a suffix of what followed the unit. -/
theorem nextToken_literal {l : Lexer} {u : Nat} {rest : List Nat}
    (hi : l.source.flags.ignoreCase = false) (hrest : l.rest = u :: rest)
    (hu : u ∉ Scan.syntaxUnits) :
    ∃ after, after <:+ rest ∧ l.nextToken.2.rest = after ∧
      ∃ cp, l.nextToken.1 = .ok (.charClass (CodePointSet.ofCodePoint cp)) ∧
        (if l.source.flags.unicode then Utf16.decode (u :: rest) else u :: rest) =
          cp :: (if l.source.flags.unicode then Utf16.decode after else after) := by
  have hscan : Scan.token l.mode l.groupCount l.lastToken (u :: rest) = _ :=
    Scan.token_of_not_syntax hu
  rw [← hrest] at hscan
  have hsingle := Scan.single_of_caseSensitive (m := l.mode) hi
  by_cases hh : (l.mode.unicode && Utf16.isHigh u) = true
  · -- a high surrogate in the unicode grammar: the pair it starts, if any
    rw [if_pos hh] at hscan
    have hmode : l.source.flags.unicode = true ∧ Utf16.isHigh u = true :=
      Bool.and_eq_true_iff.1 hh
    obtain ⟨p, hp⟩ := Scan.surrogatePair_suffix u rest
    refine ⟨_, Scan.surrogatePair_suffix u rest, ?_, (Scan.surrogatePair u rest).1, ?_, ?_⟩
    · rw [nextToken_ok hscan]
      exact rest_eq_of_read (l := l)
        (show l.rest = (u :: p) ++ (Scan.surrogatePair u rest).2 by
          rw [hrest, List.cons_append, hp]) rfl rfl
    · rw [nextToken_ok hscan, hsingle]
    · simp only [hmode.1, if_true]
      exact Utf16.decode_cons_high hmode.2 rest
  · rw [if_neg hh] at hscan
    refine ⟨rest, List.suffix_refl rest, ?_, u, ?_, ?_⟩
    · rw [nextToken_ok hscan]
      exact rest_eq_of_read (l := l) (show l.rest = [u] ++ rest by rw [hrest, List.singleton_append])
        rfl rfl
    · rw [nextToken_ok hscan, hsingle]
    · cases hmode : l.source.flags.unicode
      · rfl
      · -- in the unicode grammar the unit is no high surrogate, so it stands alone
        have hu' : l.mode.unicode = true := hmode
        have hhigh : Utf16.isHigh u = false := by
          simpa only [hu', Bool.true_and, Bool.not_eq_true] using hh
        simp only [if_true]
        exact Utf16.decode_cons_of_not_high hhigh rest

/-- Reading the rest of a literal text to the end meets no error and appends one class per
code point of the text. -/
theorem tokenizeFrom_literal {l : Lexer} (hi : l.source.flags.ignoreCase = false)
    (hw : ∀ u ∈ l.rest, u ∉ Scan.syntaxUnits) (acc : Array Lexeme) :
    (l.tokenizeFrom acc).2 = none ∧
      (l.tokenizeFrom acc).1.toList.map (·.token) = acc.toList.map (·.token) ++
        (if l.source.flags.unicode then Utf16.decode l.rest else l.rest).map
          fun cp => .charClass (CodePointSet.ofCodePoint cp) := by
  fun_induction l.tokenizeFrom acc with
  | case1 l acc hn t l₁ heq _ ih =>
    obtain ⟨u, rest, hrest⟩ := exists_rest_cons hn
    obtain ⟨after, hsuf, hafter, cp, htok, htext⟩ :=
      nextToken_literal hi hrest (hw u (hrest ▸ List.mem_cons_self ..))
    rw [heq] at hafter htok
    cases htok
    have hsrc : l₁.source = l.source := by
      rw [← nextToken_source l, heq]
    have hw₁ : ∀ v ∈ l₁.rest, v ∉ Scan.syntaxUnits := by
      rw [hafter]
      exact fun v hv => hw v (hrest ▸ List.mem_cons_of_mem _ (hsuf.subset hv))
    obtain ⟨hnone, htokens⟩ := ih (hsrc ▸ hi) hw₁
    refine ⟨hnone, ?_⟩
    rw [htokens, Array.toList_push, List.map_append, List.map_singleton, hsrc, hafter, hrest,
      htext, List.map_cons, List.append_assoc, List.singleton_append]
  | case2 l acc hn e l₁ heq =>
    obtain ⟨u, rest, hrest⟩ := exists_rest_cons hn
    obtain ⟨-, -, -, cp, htok, -⟩ :=
      nextToken_literal hi hrest (hw u (hrest ▸ List.mem_cons_self ..))
    rw [heq] at htok
    cases htok
  | case3 l acc hn =>
    -- nothing is left to read
    have hnil : l.rest = [] := rest_eq_nil (Bool.eq_false_iff.2 hn)
    refine ⟨rfl, ?_⟩
    cases l.source.flags.unicode <;> simp [hnil, Utf16.decode]

end Lexer

/-- A pattern of literal text is read without the `i` flag to one class per code point: per
code point of its UTF-16 decoding in the unicode grammar, per unit in the legacy grammar.  So a
string written as UTF-16 is read by the unicode grammar to one class per character. -/
theorem literal_text_tokens (lib : UnicodeLibrary) (flags : Flags) (options : Options)
    (hi : flags.ignoreCase = false) :
    (∀ units : List Nat, (∀ u ∈ units, u ∉ Scan.syntaxUnits) →
      tokenize lib ⟨units, flags, options⟩ =
        .ok ((if flags.unicode then Utf16.decode units else units).map
          fun cp => .charClass (CodePointSet.ofCodePoint cp))) ∧
    (flags.unicode = true → ∀ s : String, (∀ c ∈ s.toList, c.toNat ∉ Scan.syntaxUnits) →
      tokenize lib ⟨Utf16.encode s, flags, options⟩ =
        .ok (s.toList.map fun c => .charClass (CodePointSet.ofCodePoint c.toNat))) := by
  have hunits : ∀ units : List Nat, (∀ u ∈ units, u ∉ Scan.syntaxUnits) →
      tokenize lib ⟨units, flags, options⟩ =
        .ok ((if flags.unicode then Utf16.decode units else units).map
          fun cp => .charClass (CodePointSet.ofCodePoint cp)) := by
    intro units hw
    have hrun := Lexer.tokenizeFrom_literal (l := Lexer.new lib ⟨units, flags, options⟩) hi
      (by simpa [Lexer.rest, Lexer.new] using hw) #[]
    apply tokenize_eq_ok_iff.2
    exact ⟨hrun.1, by simpa [Lexer.tokenize, Lexer.rest, Lexer.new] using hrun.2⟩
  refine ⟨hunits, fun hu s hs => ?_⟩
  rw [hunits _ (Scan.not_mem_syntaxUnits_encode hs), hu, if_pos rfl, Utf16.decode_encode,
    List.map_map]
  rfl

/-- The unicode grammar without the `i` flag. -/
theorem unicode_literal_text_tokens :
    let flags : Flags := { unicode := true }
    flags.ignoreCase = false ∧
      ((∀ units : List Nat, (∀ u ∈ units, u ∉ Scan.syntaxUnits) →
        tokenize Unicode.tables ⟨units, flags, {}⟩ =
          .ok ((if flags.unicode then Utf16.decode units else units).map
            fun cp => .charClass (CodePointSet.ofCodePoint cp))) ∧
      (flags.unicode = true → ∀ s : String, (∀ c ∈ s.toList, c.toNat ∉ Scan.syntaxUnits) →
        tokenize Unicode.tables ⟨Utf16.encode s, flags, {}⟩ =
          .ok (s.toList.map fun c => .charClass (CodePointSet.ofCodePoint c.toNat)))) :=
  ⟨rfl, literal_text_tokens Unicode.tables _ _ rfl⟩

end EcmaRegex
