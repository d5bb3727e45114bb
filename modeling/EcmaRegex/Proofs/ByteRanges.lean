import EcmaRegex.Proofs.SpanBoundaries
import EcmaRegex.Unicode.Tables
/-!
# Byte ranges of lossy text

An error reports its span in UTF-16 units, together with the pattern as text, in which every
unpaired surrogate has become U+FFFD.  `TextSpan.toByteRange` turns the span into UTF-8 byte
offsets of that text.  This file shows that the two agree on spans whose ends are code point
boundaries:

* lossy decoding splits at every boundary (`Utf16.decodeChars_append`);
* the text has as many UTF-16 units as the pattern (`Utf16.encode_decodeLossy_length`);
* the walk of `toByteRange` over `a ++ b ++ c`, for a span covering `b`, finds the byte offsets
  of `b` (`TextSpan.toByteRange_append`).

Together they give `Utf16.toByteRange_decodeLossy`: such a span maps exactly to the bytes of the
text of its own units, after the bytes of the text of the units before it.  The last section
applies this to the lexer: a run in the unicode grammar keeps its spans on boundaries until it
fails on an escape whose escaped unit is a high surrogate with its low surrogate after it, and
that failure is the one place where a span ends inside a surrogate pair.
-/

namespace EcmaRegex

namespace Utf16

/-! ## Characters and their widths -/

theorem toNat_ofNat {n : Nat} (h : n.isValidChar) : (Char.ofNat n).toNat = n := by
  rw [Char.ofNat, dif_pos h]
  rfl

theorem toNat_ofNat_le (n : Nat) : (Char.ofNat n).toNat ≤ n := by
  by_cases h : n.isValidChar
  · exact Nat.le_of_eq (toNat_ofNat h)
  · rw [Char.ofNat, dif_neg h]
    exact Nat.zero_le n

theorem charWidth_pos (c : Char) : 0 < charWidth c := by
  unfold charWidth
  split <;> decide

theorem length_encodeChar (c : Char) : (encodeChar c).length = charWidth c := by
  unfold encodeChar charWidth
  split <;> rfl

theorem encode_append (s t : String) : encode (s ++ t) = encode s ++ encode t := by
  simp only [encode, String.toList_append, List.flatMap_append]

theorem length_encode_ofList_cons (c : Char) (cs : List Char) :
    (encode (String.ofList (c :: cs))).length = charWidth c + (encode (String.ofList cs)).length := by
  simp only [encode, String.toList_ofList, List.flatMap_cons, List.length_append, length_encodeChar]

theorem length_encode_ofList_nil : (encode (String.ofList [])).length = 0 := by
  simp only [encode, String.toList_ofList, List.flatMap_nil, List.length_nil]

/-- A unit below `0x10000` that is read alone is one character of one unit. -/
theorem charWidth_lone {u : Nat} (hu : u < 0x10000) :
    charWidth (if 0xD800 ≤ u && u ≤ 0xDFFF then '\uFFFD' else Char.ofNat u) = 1 := by
  split
  · rfl
  · have := toNat_ofNat_le u
    unfold charWidth
    rw [if_pos (by simp only [Char.toNat] at this; omega)]

/-- A surrogate pair is one character of two units. -/
theorem charWidth_pair {u v : Nat} (hu : isHigh u = true) (hv : isLow v = true) :
    charWidth (Char.ofNat (combine u v)) = 2 := by
  simp only [isHigh, isLow, Bool.and_eq_true, decide_eq_true_eq] at hu hv
  have hlo : 0x10000 ≤ combine u v := by
    unfold combine
    omega
  have hhi : combine u v < 0x110000 := by
    unfold combine
    omega
  have hcp : (Char.ofNat (combine u v)).val.toNat = combine u v :=
    toNat_ofNat (Or.inr ⟨by omega, hhi⟩)
  unfold charWidth
  rw [hcp, if_neg (Nat.not_lt.2 hlo)]

/-! ## Lossy decoding splits at boundaries -/

theorem splitsPair_of_cons {u : Nat} {rest q : List Nat} (h : SplitsPair (u :: rest) q = false) :
    SplitsPair rest q = false := by
  cases rest with
  | nil => rfl
  | cons x xs =>
    rw [← splitsPair_append [u] (List.cons_ne_nil x xs)]
    exact h

/-- Decoding the units on both sides of a cut that separates no pair decodes the whole. -/
theorem decodeChars_append (p q : List Nat) :
    SplitsPair p q = false → decodeChars (p ++ q) = decodeChars p ++ decodeChars q := by
  fun_induction decodeChars p with
  | case1 => intro _; rfl
  | case2 u =>
    intro h
    cases q with
    | nil => rfl
    | cons v rest =>
      have hpair : (isHigh u && isLow v) = false := h
      rw [List.singleton_append, decodeChars, if_neg (by rw [hpair]; decide)]
      rfl
  | case3 u v rest hpair ih =>
    intro h
    rw [List.cons_append, List.cons_append, decodeChars, if_pos hpair,
      ih (splitsPair_of_cons (splitsPair_of_cons h)), List.cons_append]
  | case4 u v rest hpair ih =>
    intro h
    rw [List.cons_append, List.cons_append, decodeChars, if_neg hpair, ← List.cons_append,
      ih (splitsPair_of_cons h), List.cons_append]

theorem decodeLossy_append {p q : List Nat} (h : SplitsPair p q = false) :
    decodeLossy (p ++ q) = decodeLossy p ++ decodeLossy q := by
  rw [decodeLossy, decodeChars_append p q h, String.ofList_append]
  rfl

/-- Lossy decoding keeps the UTF-16 length of units below `0x10000`: a pair becomes one
character of two units, and any other unit one character of one. -/
theorem encode_decodeLossy_length (w : List Nat) (hw : ∀ u ∈ w, u < 0x10000) :
    (encode (decodeLossy w)).length = w.length := by
  unfold decodeLossy
  fun_induction decodeChars w with
  | case1 => exact length_encode_ofList_nil
  | case2 u =>
    rw [length_encode_ofList_cons, length_encode_ofList_nil,
      charWidth_lone (hw u (List.mem_singleton_self u))]
    rfl
  | case3 u v rest hpair ih =>
    simp only [Bool.and_eq_true] at hpair
    rw [length_encode_ofList_cons, charWidth_pair hpair.1 hpair.2,
      ih fun x hx => hw x (List.mem_cons_of_mem _ (List.mem_cons_of_mem _ hx))]
    simp only [List.length_cons]
    omega
  | case4 u v rest hpair ih =>
    rw [length_encode_ofList_cons, charWidth_lone (hw u List.mem_cons_self),
      ih fun x hx => hw x (List.mem_cons_of_mem _ hx)]
    simp only [List.length_cons]
    omega

end Utf16

/-! ## The byte offsets of a span -/

namespace TextSpan

open Utf16

theorem stop_between {s t : Nat} (h : s ≤ t) : (between s t).stop = t := by
  simp only [stop, between]
  omega

theorem utf8ByteSize_ofList_cons (c : Char) (cs : List Char) :
    (String.ofList (c :: cs)).utf8ByteSize = c.utf8Size + (String.ofList cs).utf8ByteSize := by
  rw [String.ofList_cons, String.utf8ByteSize_append, String.utf8ByteSize_singleton]

/-- Walking over characters that lie wholly before the span's start, or after its start and
not past its stop, only moves the two offsets on. -/
theorem byteRangeFrom_append (span : TextSpan) (total : Nat) (cs rest : List Char)
    (units bytes first : Nat)
    (hstart : span.start < units ∨ units + (encode (String.ofList cs)).length ≤ span.start)
    (hstop : units + (encode (String.ofList cs)).length ≤ span.stop) :
    byteRangeFrom span total units bytes first (cs ++ rest) =
      byteRangeFrom span total (units + (encode (String.ofList cs)).length)
        (bytes + (String.ofList cs).utf8ByteSize) first rest := by
  induction cs generalizing units bytes with
  | nil =>
    rw [List.nil_append, length_encode_ofList_nil, String.ofList_nil, String.utf8ByteSize_empty,
      Nat.add_zero, Nat.add_zero]
  | cons c cs ih =>
    rw [length_encode_ofList_cons] at hstart hstop
    have hw := charWidth_pos c
    have hne_start : ¬ units = span.start := by omega
    have hne_stop : ¬ units = span.stop := by omega
    rw [List.cons_append, byteRangeFrom]
    simp only [if_neg hne_start, if_neg hne_stop]
    rw [ih (units + charWidth c) (bytes + c.utf8Size) (by omega) (by omega),
      length_encode_ofList_cons, utf8ByteSize_ofList_cons, Nat.add_assoc, Nat.add_assoc]

/-- At the span's stop the walk ends with the bytes walked so far as the end, and as the start
the offset it found before, or the current one when the span is empty. -/
theorem byteRangeFrom_stop (span : TextSpan) (units bytes first : Nat) (rest : List Char)
    (h : units = span.stop) (hfirst : units = span.start → bytes ≤ first) :
    byteRangeFrom span (bytes + (String.ofList rest).utf8ByteSize) units bytes first rest =
      (min (if units = span.start then bytes else first) bytes, bytes) := by
  cases rest with
  | nil =>
    simp only [byteRangeFrom, String.ofList_nil, String.utf8ByteSize_empty, Nat.add_zero]
    split
    · next hs => rw [Nat.min_eq_right (hfirst hs), Nat.min_self]
    · rfl
  | cons c cs =>
    rw [byteRangeFrom]
    simp only [if_pos h]

/-- A span that covers the text of `b`, with the text of `a` before it and of `c` after it,
maps to the bytes of `b`. -/
theorem toByteRange_append (span : TextSpan) (a b c : List Char)
    (hstart : span.start = (encode (String.ofList a)).length)
    (hstop : span.stop = (encode (String.ofList (a ++ b))).length) :
    span.toByteRange (String.ofList (a ++ b ++ c)) =
      ((String.ofList a).utf8ByteSize,
        (String.ofList a).utf8ByteSize + (String.ofList b).utf8ByteSize) := by
  rw [String.ofList_append, encode_append, List.length_append] at hstop
  have htotal : (String.ofList (a ++ b ++ c)).utf8ByteSize =
      (String.ofList a).utf8ByteSize + (String.ofList b).utf8ByteSize +
        (String.ofList c).utf8ByteSize := by
    simp only [String.ofList_append, String.utf8ByteSize_append]
  unfold toByteRange
  rw [htotal, String.toList_ofList, List.append_assoc,
    byteRangeFrom_append span _ a (b ++ c) 0 0 _ (Or.inr (by omega)) (by omega),
    Nat.zero_add, Nat.zero_add]
  cases b with
  | nil =>
    -- an empty span: its start is its stop
    rw [length_encode_ofList_nil] at hstop
    rw [List.nil_append, String.ofList_nil, String.utf8ByteSize_empty, Nat.add_zero,
      byteRangeFrom_stop span _ _ _ c (by omega) (fun _ => Nat.le_add_right _ _),
      if_pos hstart.symm, Nat.min_self]
  | cons x xs =>
    -- the start offset is taken at the span's first character; the walk goes on to its stop
    rw [length_encode_ofList_cons] at hstop
    have hw := charWidth_pos x
    have hbytes : (String.ofList a).utf8ByteSize + x.utf8Size + (String.ofList xs).utf8ByteSize =
        (String.ofList a).utf8ByteSize + (String.ofList (x :: xs)).utf8ByteSize := by
      rw [utf8ByteSize_ofList_cons, Nat.add_assoc]
    have hne : ¬ (encode (String.ofList a)).length + charWidth x +
        (encode (String.ofList xs)).length = span.start := by omega
    rw [List.cons_append, byteRangeFrom]
    simp only [if_pos hstart.symm,
      if_neg (show ¬ (encode (String.ofList a)).length = span.stop by omega)]
    rw [byteRangeFrom_append span _ xs c _ _ _ (Or.inl (by omega)) (by omega), hbytes,
      byteRangeFrom_stop span _ _ _ c (by omega) (fun h => absurd h hne), if_neg hne,
      Nat.min_eq_left (Nat.le_add_right _ _)]

end TextSpan

namespace Utf16

/-- A span whose ends are code point boundaries of units below `0x10000` maps to the bytes of
the text of its own units, after the bytes of the text of the units before it. -/
theorem toByteRange_decodeLossy {w : List Nat} (hw : ∀ u ∈ w, u < 0x10000) {s t : Nat}
    (hst : s ≤ t) (ht : t ≤ w.length) (hs : Boundary w s) (ht' : Boundary w t) :
    (TextSpan.between s t).toByteRange (decodeLossy w) =
      ((decodeLossy (w.take s)).utf8ByteSize,
        (decodeLossy (w.take s)).utf8ByteSize + (decodeLossy ((w.take t).drop s)).utf8ByteSize) := by
  -- cut the units into those before the span, in it and after it
  have hab : w.take s ++ (w.take t).drop s = w.take t := by
    have h := List.take_append_drop s (w.take t)
    rwa [List.take_take, Nat.min_eq_left hst] at h
  have hbc : w.drop s = (w.take t).drop s ++ w.drop t := by
    have h := congrArg (List.drop s) (List.take_append_drop t w)
    rw [List.drop_append_of_le_length (by rw [List.length_take]; omega)] at h
    exact h.symm
  have hsplit_s : SplitsPair (w.take s) ((w.take t).drop s ++ w.drop t) = false := by
    rw [← hbc]
    exact hs
  have hsplit_t : SplitsPair ((w.take t).drop s) (w.drop t) = false := by
    cases hb : (w.take t).drop s with
    | nil => rfl
    | cons x xs =>
      have h := ht'
      unfold Boundary at h
      rw [← hab, hb, splitsPair_append _ (List.cons_ne_nil x xs)] at h
      exact h
  have hw' : ∀ v, v <:+: w → ∀ u ∈ v, u < 0x10000 := fun v hv u hu => hw u (hv.subset hu)
  have hwidth_a := encode_decodeLossy_length (w.take s) (hw' _ (List.take_prefix s w).isInfix)
  have hwidth_b := encode_decodeLossy_length ((w.take t).drop s)
    (hw' _ ((List.drop_suffix s _).isInfix.trans (List.take_prefix t w).isInfix))
  have hdecode : decodeLossy w = String.ofList (decodeChars (w.take s) ++
      decodeChars ((w.take t).drop s) ++ decodeChars (w.drop t)) :=
    calc decodeLossy w = decodeLossy (w.take s ++ ((w.take t).drop s ++ w.drop t)) := by
          rw [← hbc, List.take_append_drop]
      _ = _ := by
          rw [decodeLossy, decodeChars_append _ _ hsplit_s, decodeChars_append _ _ hsplit_t,
            List.append_assoc]
  rw [hdecode]
  refine TextSpan.toByteRange_append _ _ _ _ ?_ ?_
  · show s = _
    rw [← decodeLossy, hwidth_a, List.length_take, Nat.min_eq_left (by omega)]
  · show s + (t - s) = _
    rw [String.ofList_append, encode_append, List.length_append, ← decodeLossy, ← decodeLossy,
      hwidth_a, hwidth_b, List.length_drop, List.length_take, List.length_take,
      Nat.min_eq_left (by omega), Nat.min_eq_left (by omega)]

end Utf16

/-! ## Spans of the lexer -/

namespace Lexer

open Utf16

theorem position_of_le {i : Nat} (h : i ≤ Scan.u32Max) : position i = i :=
  Nat.min_eq_left h

variable {l : Lexer}

/-- Within 32-bit offsets the span of a lexer runs from its token start to its position. -/
theorem tokenSpan_of_bounded (hb : Bounded l) (hsize : l.size ≤ Scan.u32Max) :
    l.tokenSpan = TextSpan.between l.tokenStart l.index := by
  have := hb.start_le
  have := hb.index_le
  rw [tokenSpan, position_of_le (by omega), position_of_le (by omega)]

/-- An error of a read carries the pattern as text and the span the lexer is left with. -/
theorem nextToken_error_eq {e : SyntaxError} (h : l.nextToken.1 = .error e) :
    e.pattern = l.source.text ∧ e.span = l.nextToken.2.tokenSpan := by
  cases hs : Scan.token l.mode l.groupCount l.lastToken l.rest with
  | ok r =>
    rw [nextToken_ok hs] at h
    cases h
  | error err =>
    rw [nextToken_error hs] at h ⊢
    cases h
    exact ⟨rfl, rfl⟩

/-- The error of a read from a boundary to a boundary carries the pattern as text of as many
UTF-16 units as the pattern, and a span that maps to the bytes of the text of its own units. -/
theorem nextToken_error_byteRange (hb : Bounded l) (hsize : l.size ≤ Scan.u32Max)
    (hw : ∀ u ∈ l.source.units, u < 0x10000) (hs : Boundary l.source.units l.index)
    (ht : Boundary l.source.units l.nextToken.2.index) {e : SyntaxError}
    (he : l.nextToken.1 = .error e) :
    let w := l.source.units
    e.pattern = decodeLossy w ∧ (encode e.pattern).length = w.length ∧
      e.span.toByteRange e.pattern =
        ((decodeLossy (w.take e.span.start)).utf8ByteSize,
          (decodeLossy (w.take e.span.start)).utf8ByteSize +
            (decodeLossy ((w.take e.span.stop).drop e.span.start)).utf8ByteSize) := by
  intro w
  obtain ⟨hpattern, hspan⟩ := nextToken_error_eq he
  have hb' := hb.nextToken
  have hst : l.index ≤ l.nextToken.2.index := by
    have := hb'.start_le
    rwa [nextToken_tokenStart] at this
  have hlen : l.nextToken.2.index ≤ w.length := by
    have := hb'.index_le
    rwa [nextToken_size] at this
  rw [tokenSpan_of_bounded hb' (by rw [nextToken_size]; exact hsize), nextToken_tokenStart]
    at hspan
  refine ⟨hpattern, by rw [hpattern]; exact encode_decodeLossy_length w hw, ?_⟩
  rw [hpattern, hspan, TextSpan.stop_between hst]
  exact toByteRange_decodeLossy hw hst hlen hs ht

/-- In the unicode grammar, for a pattern of UTF-16 units within 32-bit offsets, every run that
has met no failure on an escaped surrogate pair (a backslash, a high surrogate and its low
surrogate, refused after the high one) leaves the lexer's span on code point boundaries.  The
next read either is such a failure, or ends on a boundary too; an error it returns carries the
pattern as text of as many UTF-16 units as the pattern, and a span that maps exactly to the
bytes of the text of its own units. -/
theorem spans_on_boundaries_until_unreadable_escape (lib : UnicodeLibrary) (source : Source)
    (hu : source.flags.unicode = true) (hw : ∀ u ∈ source.units, u < 0x10000)
    (hlen : source.units.length ≤ Scan.u32Max) (calls : List Call)
    (hne : ∀ r ∈ ((new lib source).session calls).1, ∀ e, r.error? = some e →
      ¬ SplitsEscapedPair source.units e) :
    let l := ((new lib source).session calls).2
    let w := source.units
    Boundary w l.tokenSpan.start ∧ Boundary w l.tokenSpan.stop ∧
    ((∃ e, l.nextToken.1 = .error e ∧ SplitsEscapedPair w e) ∨
      (Boundary w l.nextToken.2.tokenSpan.start ∧ Boundary w l.nextToken.2.tokenSpan.stop ∧
        ∀ e, l.nextToken.1 = .error e →
          e.pattern = decodeLossy w ∧ (encode e.pattern).length = w.length ∧
          e.span.toByteRange e.pattern =
            ((decodeLossy (w.take e.span.start)).utf8ByteSize,
              (decodeLossy (w.take e.span.start)).utf8ByteSize +
                (decodeLossy ((w.take e.span.stop).drop e.span.start)).utf8ByteSize))) := by
  intro l w
  have hsrc : l.source = source := session_source (new lib source) calls
  have hb : Bounded l := (bounded_new lib source).session calls
  have hon : OnBoundaries l := (onBoundaries_new lib source).session hu calls hne
  have hu' : l.source.flags.unicode = true := by rw [hsrc]; exact hu
  have hsize : l.size ≤ Scan.u32Max := by rw [size, hsrc]; exact hlen
  have hspan := tokenSpan_of_bounded hb hsize
  rw [← hsrc] at hw
  have hw_eq : w = l.source.units := by rw [hsrc]
  rw [hw_eq, hspan, TextSpan.stop_between hb.start_le]
  refine ⟨hon.start, hon.index, ?_⟩
  rcases nextToken_boundary l hu' hon.index with hnext | hfail
  · -- the read ends on a boundary: its span does, and so does the span of its error
    have hb' := hb.nextToken
    have hsize' : l.nextToken.2.size ≤ Scan.u32Max := by rw [nextToken_size]; exact hsize
    refine Or.inr ⟨?_, ?_, fun e he => nextToken_error_byteRange hb hsize hw hon.index hnext he⟩
    · rw [tokenSpan_of_bounded hb' hsize', nextToken_tokenStart]
      exact hon.index
    · rw [tokenSpan_of_bounded hb' hsize', TextSpan.stop_between hb'.start_le]
      exact hnext
  · exact Or.inl hfail

/-- The run in the unicode grammar over `a😀` reads its first token to a boundary. -/
theorem first_read_of_astral_pattern_on_boundary :
    let source : Source := ⟨[0x61, 0xD83D, 0xDE00], { unicode := true }, {}⟩
    (∃ e, (new Unicode.tables source).nextToken.1 = .error e ∧
        SplitsEscapedPair source.units e) ∨
      Boundary source.units (new Unicode.tables source).nextToken.2.tokenSpan.stop :=
  (spans_on_boundaries_until_unreadable_escape Unicode.tables
    ⟨[0x61, 0xD83D, 0xDE00], { unicode := true }, {}⟩ rfl (by decide) (by decide) []
    (fun r hr => by cases hr)).2.2.imp id fun h => h.2.1

/-- A backslash before a surrogate pair is refused after the high surrogate alone: the error's
span ends inside the pair, and its byte range runs on to the end of the text, past the four
bytes that the text of its two units takes. -/
theorem unreadable_escape_splits_pair :
    let source : Source := ⟨[0x5C, 0xD83D, 0xDE00], { unicode := true }, {}⟩
    (new Unicode.tables source).nextToken.1 =
        .error ⟨decodeLossy source.units, source.flags, .invalidEscape, ⟨0, 2⟩⟩ ∧
      ¬ Boundary source.units 2 ∧
      (TextSpan.mk 0 2).toByteRange (decodeLossy source.units) = (0, 5) ∧
      (decodeLossy (source.units.take 2)).utf8ByteSize = 4 :=
  ⟨rfl, by decide, by decide, by decide⟩

end Lexer

end EcmaRegex
