import EcmaRegex.Proofs.ByteRanges
/-!
# Byte offsets of UTF-16 offsets

A span counts UTF-16 units; `TextSpan.toByteRange` turns it into UTF-8 byte offsets of a text by
walking the characters once.  The walk looks for the span's start and stop only where a
character begins, stops at the stop, and never looks at the boundary after the last character.

Here the offset a UTF-16 offset stands for is given on its own, by `bytePos`: the byte offset
of the character boundary with that many units before it, or the byte length of the text when no
boundary has that many units (an offset past the end, or one between the two units of a
character written as a surrogate pair).  `boundaryFrom_eq_some_iff` says which boundary that is.
The main statement, `toByteRange_boundary_offsets`, is that the walk gives
`min (bytePos start) (bytePos stop)` to `bytePos stop`, and that a span whose ends are both
boundaries covers exactly the bytes of the characters between them, which take as many units as
the span is long.
-/

namespace EcmaRegex

namespace TextSpan

open Utf16

/-- The byte offset of the character boundary of `cs` that lies at UTF-16 offset `x`, counting
from a boundary at `u` units and `b` bytes; every boundary is tested, the one after the last
character included. -/
def boundaryFrom (u b x : Nat) : List Char → Option Nat
  | [] => if x = u then some b else none
  | c :: cs => if x = u then some b else boundaryFrom (u + charWidth c) (b + c.utf8Size) x cs

/-- The byte offset that the UTF-16 offset `x` stands for in `text`: that of the character
boundary with `x` units before it, or the byte length of the text when there is none. -/
def bytePos (text : String) (x : Nat) : Nat :=
  (boundaryFrom 0 0 x text.toList).getD text.utf8ByteSize

/-! ## Which boundary is found -/

/-- The boundary found is the one after the first `k` characters, for the `k` whose characters
take `x` units. -/
theorem boundaryFrom_eq_some_iff (u b x : Nat) (cs : List Char) (y : Nat) :
    boundaryFrom u b x cs = some y ↔ ∃ k ≤ cs.length,
      u + (encode (String.ofList (cs.take k))).length = x ∧
        b + (String.ofList (cs.take k)).utf8ByteSize = y := by
  induction cs generalizing u b with
  | nil =>
    simp only [boundaryFrom, List.length_nil, Nat.le_zero, exists_eq_left, List.take_nil]
    rw [length_encode_ofList_nil, String.ofList_nil, String.utf8ByteSize_empty, Nat.add_zero,
      Nat.add_zero]
    by_cases hx : x = u
    · simp [hx]
    · simp [hx, Ne.symm hx]
  | cons c cs ih =>
    have hw := charWidth_pos c
    rw [boundaryFrom]
    by_cases hx : x = u
    · -- only the boundary before `c` lies at `u` units
      rw [if_pos hx, Option.some.injEq]
      constructor
      · rintro rfl
        refine ⟨0, Nat.zero_le _, ?_, by simp⟩
        rw [List.take_zero, length_encode_ofList_nil, hx, Nat.add_zero]
      · rintro ⟨k, -, hunits, hbytes⟩
        cases k with
        | zero => simpa using hbytes
        | succ k =>
          rw [List.take_succ_cons, length_encode_ofList_cons] at hunits
          omega
    · rw [if_neg hx, ih]
      constructor
      · rintro ⟨k, hk, hunits, hbytes⟩
        refine ⟨k + 1, by simpa using hk, ?_, ?_⟩
        · rw [List.take_succ_cons, length_encode_ofList_cons]
          omega
        · rw [List.take_succ_cons, utf8ByteSize_ofList_cons]
          omega
      · rintro ⟨k, hk, hunits, hbytes⟩
        cases k with
        | zero =>
          simp only [List.take_zero, length_encode_ofList_nil, Nat.add_zero] at hunits
          exact absurd hunits.symm hx
        | succ k =>
          rw [List.take_succ_cons, length_encode_ofList_cons] at hunits
          rw [List.take_succ_cons, utf8ByteSize_ofList_cons] at hbytes
          exact ⟨k, by simpa using hk, by omega, by omega⟩

/-- No boundary lies before the one the search starts from. -/
theorem boundaryFrom_of_lt {u b x : Nat} (h : x < u) (cs : List Char) :
    boundaryFrom u b x cs = none := by
  induction cs generalizing u b with
  | nil => simp only [boundaryFrom, if_neg (Nat.ne_of_lt h)]
  | cons c cs ih => rw [boundaryFrom, if_neg (Nat.ne_of_lt h), ih (by omega)]

theorem getD_boundaryFrom_nil (u b x : Nat) : (boundaryFrom u b x []).getD b = b := by
  unfold boundaryFrom
  split <;> rfl

/-! ## The walk -/

/-- The walk of `toByteRange` from a boundary at `u` units and `b` bytes ends with the offsets of
the stop's boundary and of the start's, found now or, for a start before `u`, earlier.  A start
not passed yet has found nothing, so `first` is still the byte length of the text. -/
theorem byteRangeFrom_eq_boundaries (span : TextSpan) (cs : List Char) (u b first : Nat)
    (hfirst : u ≤ span.start → first = b + (String.ofList cs).utf8ByteSize) :
    byteRangeFrom span (b + (String.ofList cs).utf8ByteSize) u b first cs =
      (min (if u ≤ span.start then
          (boundaryFrom u b span.start cs).getD (b + (String.ofList cs).utf8ByteSize) else first)
        ((boundaryFrom u b span.stop cs).getD (b + (String.ofList cs).utf8ByteSize)),
        (boundaryFrom u b span.stop cs).getD (b + (String.ofList cs).utf8ByteSize)) := by
  induction cs generalizing u b first with
  | nil =>
    simp only [String.ofList_nil, String.utf8ByteSize_empty, Nat.add_zero] at hfirst ⊢
    rw [byteRangeFrom, getD_boundaryFrom_nil, getD_boundaryFrom_nil]
    by_cases hs : u ≤ span.start
    · rw [if_pos hs, hfirst hs]
    · rw [if_neg hs]
  | cons c cs ih =>
    have hw := charWidth_pos c
    have hle : span.start ≤ span.stop := Nat.le_add_right _ _
    rw [utf8ByteSize_ofList_cons, ← Nat.add_assoc] at hfirst ⊢
    rw [byteRangeFrom, boundaryFrom, boundaryFrom]
    by_cases hstop : u = span.stop
    · -- the walk ends here, at the stop; a start at or after `u` is the stop itself
      simp only [if_pos hstop, if_pos hstop.symm, Option.getD_some]
      by_cases hs : u = span.start
      · simp only [if_pos hs, if_pos hs.symm, Option.getD_some]
        rw [if_pos (Nat.le_of_eq hs), Nat.min_self]
      · rw [if_neg hs, if_neg (show ¬ u ≤ span.start by omega)]
    · simp only [if_neg hstop, if_neg (Ne.symm hstop)]
      have hfirst' : u + charWidth c ≤ span.start →
          (if u = span.start then b else first) =
            b + c.utf8Size + (String.ofList cs).utf8ByteSize := fun h => by
        rw [if_neg (by omega), hfirst (by omega)]
      rw [ih (u + charWidth c) (b + c.utf8Size) _ hfirst']
      by_cases hpast : u + charWidth c ≤ span.start
      · rw [if_pos hpast, if_pos (show u ≤ span.start by omega),
          if_neg (show ¬ span.start = u by omega)]
      · by_cases hs : u = span.start
        · rw [if_neg hpast, if_pos hs, if_pos (Nat.le_of_eq hs), if_pos hs.symm, Option.getD_some]
        · by_cases hafter : u ≤ span.start
          · -- the start falls inside `c`: no boundary has it, and none was found before
            have hnone : boundaryFrom (u + charWidth c) (b + c.utf8Size) span.start cs = none :=
              boundaryFrom_of_lt (by omega) cs
            rw [if_neg hpast, if_neg hs, if_pos hafter, if_neg (Ne.symm hs), hnone,
              Option.getD_none, hfirst hafter]
          · rw [if_neg hpast, if_neg hs, if_neg hafter]

/-- The byte range of a span runs from the offset its stop or its start stands for, whichever is
smaller, to the offset its stop stands for. -/
theorem toByteRange_eq_bytePos (span : TextSpan) (text : String) :
    span.toByteRange text =
      (min (bytePos text span.start) (bytePos text span.stop), bytePos text span.stop) := by
  have htotal : text.utf8ByteSize = 0 + (String.ofList text.toList).utf8ByteSize := by
    rw [String.ofList_toList, Nat.zero_add]
  have h := byteRangeFrom_eq_boundaries span text.toList 0 0 text.utf8ByteSize
    (fun _ => htotal)
  rw [← htotal, if_pos (Nat.zero_le _)] at h
  exact h

/-- Offset 2 of `a😀b` falls inside the pair, so the span from it starts where it stops. -/
example : bytePos "a😀b" 2 = 6 ∧ (TextSpan.mk 2 1).toByteRange "a😀b" = (5, 5) := by
  decide

/-! ## Spans between boundaries -/

/-- The boundary after the first `k` characters lies at their UTF-16 length and their byte
length. -/
theorem bytePos_take {text : String} {k : Nat} (hk : k ≤ text.toList.length) :
    bytePos text (encode (String.ofList (text.toList.take k))).length =
      (String.ofList (text.toList.take k)).utf8ByteSize := by
  unfold bytePos
  rw [(boundaryFrom_eq_some_iff 0 0 _ _ _).2 ⟨k, hk, Nat.zero_add _, Nat.zero_add _⟩]
  rfl

/-- The characters after the first `j` of the first `k` take the units and the bytes that the
first `k` take beyond the first `j`. -/
theorem take_drop_sizes (cs : List Char) {j k : Nat} (hjk : j ≤ k) :
    (encode (String.ofList (cs.take k))).length =
        (encode (String.ofList (cs.take j))).length +
          (encode (String.ofList ((cs.take k).drop j))).length ∧
      (String.ofList (cs.take k)).utf8ByteSize =
        (String.ofList (cs.take j)).utf8ByteSize +
          (String.ofList ((cs.take k).drop j)).utf8ByteSize := by
  have hsplit : cs.take k = cs.take j ++ (cs.take k).drop j := by
    have h := List.take_append_drop j (cs.take k)
    rw [List.take_take, Nat.min_eq_left hjk] at h
    exact h.symm
  constructor
  · conv => lhs; rw [hsplit]
    rw [String.ofList_append, encode_append, List.length_append]
  · conv => lhs; rw [hsplit]
    rw [String.ofList_append, String.utf8ByteSize_append]

/-- More characters take more UTF-16 units. -/
theorem length_encode_take_lt (cs : List Char) {j k : Nat} (hjk : j < k)
    (hk : k ≤ cs.length) :
    (encode (String.ofList (cs.take j))).length < (encode (String.ofList (cs.take k))).length := by
  have hsizes := (take_drop_sizes cs (Nat.le_of_lt hjk)).1
  cases hrest : (cs.take k).drop j with
  | nil =>
    have := congrArg List.length hrest
    simp only [List.length_drop, List.length_take, List.length_nil] at this
    omega
  | cons x xs =>
    rw [hrest, length_encode_ofList_cons] at hsizes
    have := charWidth_pos x
    omega

/-- A span whose ends are character boundaries, after the first `j` and the first `k`
characters, maps to the byte lengths of those characters; the characters between take as many
UTF-16 units as the span is long. -/
theorem toByteRange_of_boundaries (span : TextSpan) (text : String) {j k : Nat}
    (hj : j ≤ text.toList.length) (hk : k ≤ text.toList.length)
    (hstart : (encode (String.ofList (text.toList.take j))).length = span.start)
    (hstop : (encode (String.ofList (text.toList.take k))).length = span.stop) :
    j ≤ k ∧
      span.toByteRange text =
        ((String.ofList (text.toList.take j)).utf8ByteSize,
          (String.ofList (text.toList.take k)).utf8ByteSize) ∧
      (encode (String.ofList ((text.toList.take k).drop j))).length = span.length := by
  have hle : span.start ≤ span.stop := Nat.le_add_right _ _
  have hjk : j ≤ k := by
    refine Nat.le_of_not_lt fun hkj => ?_
    have := length_encode_take_lt text.toList hkj hj
    omega
  have hsizes := take_drop_sizes text.toList hjk
  refine ⟨hjk, ?_, ?_⟩
  · rw [toByteRange_eq_bytePos, ← hstart, ← hstop, bytePos_take hj, bytePos_take hk,
      Nat.min_eq_left (by omega)]
  · simp only [stop] at hstop
    omega

/-- The byte range of a span runs from `min (bytePos start) (bytePos stop)` to `bytePos stop`,
where `bytePos x` is the byte offset of the character boundary with `x` UTF-16 units before it, or
the byte length of the text when there is none.  So a span whose ends are both boundaries maps to
the byte offsets of those boundaries, and the characters between them take exactly as many
UTF-16 units as the span is long. -/
theorem toByteRange_boundary_offsets (span : TextSpan) (text : String) :
    span.toByteRange text =
        (min (bytePos text span.start) (bytePos text span.stop), bytePos text span.stop) ∧
      ∀ j k, j ≤ text.toList.length → k ≤ text.toList.length →
        (encode (String.ofList (text.toList.take j))).length = span.start →
        (encode (String.ofList (text.toList.take k))).length = span.stop →
        j ≤ k ∧
          span.toByteRange text =
            ((String.ofList (text.toList.take j)).utf8ByteSize,
              (String.ofList (text.toList.take k)).utf8ByteSize) ∧
          (encode (String.ofList ((text.toList.take k).drop j))).length = span.length :=
  ⟨toByteRange_eq_bytePos span text, fun _ _ hj hk hstart hstop =>
    toByteRange_of_boundaries span text hj hk hstart hstop⟩

end TextSpan

end EcmaRegex
