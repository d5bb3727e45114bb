import Mathlib.Order.Interval.Finset.Nat
import EcmaRegex.CodePointSet.Search
import EcmaRegex.Lexer.Digits
import EcmaRegex.Proofs.NormalForm
/-!
# What a set in normal form means

The meaning of a set is the finite set of code points its ranges cover, `codePoints`.  For a
range list in normal form that meaning determines everything else:

* the list itself: two sets in normal form with the same code points have the same ranges
  (`eq_of_codePoints_eq`), so comparing, hashing or printing range lists compares sets;
* the queries: the binary search finds a code point exactly when the set covers it
  (`containsBySearch_iff`), the size is the number of code points and never above `0x110000`,
  and the set is empty or full exactly when its code points are none or all;
* the complement: it covers the code points up to `0x10FFFF` that the set does not, it is in
  normal form again, and taking it twice gives back the same range list.

The binary search is correct because a list in normal form is sorted by its ends, so the
ranges ending below a code point come first (`partitioned_of_normalFrom`), and the partition
point lands on the first range that does not, which is the only one that can cover the code
point (`any_head_dropWhile`).
-/

namespace EcmaRegex

namespace CodePointSet

open CodePointRange

/-! ### Meaning -/

/-- The code points a list of ranges covers. -/
def rangePoints : List CodePointRange → Finset Nat
  | [] => ∅
  | r :: rest => Finset.Icc r.lo r.hi ∪ rangePoints rest

/-- The code points of a set: the meaning of its range list. -/
def codePoints (s : CodePointSet) : Finset Nat := rangePoints s.ranges

theorem mem_rangePoints {rs : List CodePointRange} {c : Nat} :
    c ∈ rangePoints rs ↔ rs.any (·.contains c) = true := by
  induction rs with
  | nil => simp [rangePoints]
  | cons r rest ih =>
    rw [rangePoints, Finset.mem_union, Finset.mem_Icc, ih, List.any_cons, Bool.or_eq_true,
      contains_iff]

/-- A set's code points are those its membership test accepts. -/
theorem mem_codePoints {s : CodePointSet} {c : Nat} : c ∈ s.codePoints ↔ s.contains c = true :=
  mem_rangePoints

/-! ### Canonical form -/

/-- Two sets in normal form with the same code points have the same range list. -/
theorem eq_of_codePoints_eq {s t : CodePointSet} (hs : s.Normal) (ht : t.Normal)
    (h : s.codePoints = t.codePoints) : s = t := by
  apply eq_of_contains hs ht
  intro c
  apply Bool.eq_iff_iff.2
  rw [← mem_codePoints, ← mem_codePoints, h]

/-! ### Lookup by binary search -/

/-- The ranges of a list in normal form that end below a code point all come first. -/
theorem partitioned_of_normalFrom {b c : Nat} {rs : List CodePointRange} (h : NormalFrom b rs) :
    Partitioned (fun r => decide (r.hi < c)) rs := by
  induction rs generalizing b with
  | nil => intro x hx; cases hx
  | cons r rest ih =>
    obtain ⟨-, ⟨hr, -⟩, hrest⟩ := h
    intro x hx
    rw [List.dropWhile_cons] at hx
    split at hx
    · exact ih hrest x hx
    · next hge =>
      -- every later range starts, and so ends, above the end of the first one
      rcases List.mem_cons.1 hx with rfl | hx
      · simpa using hge
      · have hlo := hrest.le_lo x hx
        have hv := (hrest.valid x hx).1
        simp only [decide_eq_true_eq, not_lt] at hge
        simp only [decide_eq_false_iff_not, not_lt]
        omega

/-- The first range that does not end below `c` covers `c` exactly when some range does:
the ranges before it end below `c`, and those after it start above its end. -/
theorem any_head_dropWhile {b c : Nat} {rs : List CodePointRange} (h : NormalFrom b rs) :
    ((rs.dropWhile fun r => decide (r.hi < c)).head?).any (·.contains c) =
      rs.any (·.contains c) := by
  induction rs generalizing b with
  | nil => rfl
  | cons r rest ih =>
    obtain ⟨-, -, hrest⟩ := h
    rw [List.dropWhile_cons, List.any_cons]
    split
    · next hlt =>
      have hr : r.contains c = false := by
        simp only [decide_eq_true_eq] at hlt
        simp only [CodePointRange.contains, Bool.and_eq_false_iff, decide_eq_false_iff_not]
        omega
      rw [ih hrest, hr, Bool.false_or]
    · next hge =>
      simp only [decide_eq_true_eq, not_lt] at hge
      rw [hrest.not_contains (by omega), Bool.or_false]
      rfl

/-- The binary search finds a code point exactly when a set in normal form covers it. -/
theorem containsBySearch_eq_contains {s : CodePointSet} (hs : s.Normal) (c : Nat) :
    s.containsBySearch c = s.contains c := by
  have hn := normal_iff.1 hs
  rw [containsBySearch, partitionPoint_eq (partitioned_of_normalFrom hn),
    getElem?_length_takeWhile, any_head_dropWhile hn]
  rfl

theorem containsBySearch_iff {s : CodePointSet} (hs : s.Normal) (c : Nat) :
    s.containsBySearch c = true ↔ c ∈ s.codePoints := by
  rw [containsBySearch_eq_contains hs, mem_codePoints]

/-! ### Size -/

theorem foldl_size_eq (rs : List CodePointRange) (acc : Nat) :
    rs.foldl (fun n r => n + r.size) acc = acc + rs.foldl (fun n r => n + r.size) 0 := by
  induction rs generalizing acc with
  | nil => rfl
  | cons r rest ih =>
    rw [List.foldl_cons, List.foldl_cons, ih, ih (0 + r.size)]
    omega

/-- The ranges of a list in normal form are disjoint, so their sizes add up to the number of
code points they cover. -/
theorem NormalFrom.foldl_size_eq_card {b : Nat} {rs : List CodePointRange} (h : NormalFrom b rs) :
    rs.foldl (fun n r => n + r.size) 0 = (rangePoints rs).card := by
  induction rs generalizing b with
  | nil => rfl
  | cons r rest ih =>
    obtain ⟨-, ⟨hr, -⟩, hrest⟩ := h
    have hdisj : Disjoint (Finset.Icc r.lo r.hi) (rangePoints rest) := by
      rw [Finset.disjoint_left]
      intro c hc hrestc
      rw [Finset.mem_Icc] at hc
      rw [mem_rangePoints, hrest.not_contains (by omega)] at hrestc
      cases hrestc
    rw [List.foldl_cons, foldl_size_eq, ih hrest, rangePoints, Finset.card_union_of_disjoint hdisj,
      Nat.card_Icc, Nat.zero_add]
    rfl

/-- The size of a set in normal form is the number of its code points. -/
theorem Normal.size_eq_card {s : CodePointSet} (hs : s.Normal) : s.size = s.codePoints.card :=
  (normal_iff.1 hs).foldl_size_eq_card

/-- The sizes summed so far never exceed the whole size, so no partial sum passes
`0x110000`. -/
theorem Normal.partial_size_le {s : CodePointSet} (hs : s.Normal) (k : Nat) :
    (s.ranges.take k).foldl (fun n r => n + r.size) 0 ≤ maxCodePoint + 1 := by
  have hwhole := hs.size_le
  rw [size, ← List.take_append_drop k s.ranges, List.foldl_append, foldl_size_eq] at hwhole
  omega

/-! ### Empty and full sets -/

/-- A set in normal form has no range exactly when it has no code point: each of its ranges
covers at least its start. -/
theorem Normal.isEmpty_iff {s : CodePointSet} (hs : s.Normal) :
    s.isEmpty = true ↔ s.codePoints = ∅ := by
  rw [isEmpty, List.isEmpty_iff]
  constructor
  · intro h
    rw [codePoints, h]
    rfl
  · intro h
    match hr : s.ranges with
    | [] => rfl
    | r :: _ =>
      have hlo : r.lo ∈ s.codePoints := by
        rw [codePoints, hr, rangePoints, Finset.mem_union, Finset.mem_Icc]
        exact Or.inl ⟨Nat.le_refl _, (hs.valid r (by rw [hr]; exact List.mem_cons_self ..)).1⟩
      rw [h] at hlo
      cases hlo

theorem codePoints_full : full.codePoints = Finset.range (maxCodePoint + 1) := by
  ext c
  rw [Finset.mem_range, Nat.lt_succ_iff]
  simp [codePoints, full, rangePoints]

theorem normal_full : full.Normal :=
  normal_iff.2 ⟨Nat.le_refl _, ⟨Nat.zero_le _, Nat.le_refl _⟩, trivial⟩

/-- A set in normal form is the single range `0..0x10FFFF` exactly when it holds every code
point. -/
theorem Normal.isFull_iff {s : CodePointSet} (hs : s.Normal) :
    s.isFull = true ↔ s.codePoints = Finset.range (maxCodePoint + 1) := by
  constructor
  · intro h
    have hs' : s = full := by
      cases s
      simp only [isFull, beq_iff_eq] at h
      rw [h]
      rfl
    rw [hs', codePoints_full]
  · intro h
    rw [eq_of_codePoints_eq hs normal_full (h.trans codePoints_full.symm)]
    rfl

/-! ### Complement -/

/-- The complement covers the code points up to `0x10FFFF` that the set does not. -/
theorem Normal.codePoints_complement {s : CodePointSet} (hs : s.Normal) :
    s.complement.codePoints = Finset.range (maxCodePoint + 1) \ s.codePoints := by
  ext c
  rw [Finset.mem_sdiff, Finset.mem_range, Nat.lt_succ_iff, mem_codePoints, mem_codePoints,
    contains_complement hs, Bool.not_eq_true]

/-- Taking the complement twice gives back the same range list: both are in normal form and
cover the same code points, since a set in normal form holds only code points up to
`0x10FFFF`. -/
theorem Normal.complement_complement {s : CodePointSet} (hs : s.Normal) :
    s.complement.complement = s := by
  apply eq_of_contains hs.complement.complement hs
  intro c
  have hc := contains_complement hs c
  apply Bool.eq_iff_iff.2
  rw [contains_complement hs.complement]
  constructor
  · rintro ⟨hmax, hnot⟩
    by_contra hsc
    rw [hc.2 ⟨hmax, Bool.not_eq_true _ ▸ hsc⟩] at hnot
    cases hnot
  · intro hsc
    refine ⟨hs.le_of_contains hsc, Bool.eq_false_iff.2 fun hcomp => ?_⟩
    have hout := (hc.1 hcomp).2
    rw [hsc] at hout
    cases hout

/-- The arithmetic of the complement loop from the start `next` on stays within 32 bits:
the end `lo - 1` of a gap is only taken of a range starting above `next`, so of a positive
start, and the next start `hi + 1` is at most `2^32 - 1`. -/
def GapsFit : Nat → List CodePointRange → Prop
  | _, [] => True
  | next, r :: rest =>
    (next < r.lo → 1 ≤ r.lo) ∧ r.hi + 1 ≤ Scan.u32Max ∧ GapsFit (r.hi + 1) rest

/-- On a list in normal form every range ends at `0x10FFFF` or below, so each next start is at
most `0x110000`. -/
theorem NormalFrom.gapsFit {b : Nat} {rs : List CodePointRange} (h : NormalFrom b rs)
    (next : Nat) : GapsFit next rs := by
  induction rs generalizing b next with
  | nil => trivial
  | cons r rest ih =>
    obtain ⟨-, ⟨-, hmax⟩, hrest⟩ := h
    refine ⟨fun hlt => by omega, ?_, ih hrest (r.hi + 1)⟩
    simp only [maxCodePoint, Scan.u32Max] at hmax ⊢
    omega

/-- The complement of a set in normal form is in normal form, covers exactly the code points
up to `0x10FFFF` that the set does not, and gives the set back when taken again; the loop
that builds it computes no value outside 32 bits. -/
theorem complement_involutive (s : CodePointSet) (hs : s.Normal) :
    s.complement.Normal ∧
      s.complement.codePoints = Finset.range (maxCodePoint + 1) \ s.codePoints ∧
      s.complement.complement = s ∧ GapsFit 0 s.ranges :=
  ⟨hs.complement, hs.codePoints_complement, hs.complement_complement,
    (normal_iff.1 hs).gapsFit 0⟩

/-- The lower-case letters `a` to `z`: their complement is the two gaps around them. -/
theorem letters_complement :
    let s := ofRange 0x61 0x7A
    s.Normal ∧ (s.complement.Normal ∧
      s.complement.codePoints = Finset.range (maxCodePoint + 1) \ s.codePoints ∧
      s.complement.complement = s ∧ GapsFit 0 s.ranges) :=
  ⟨by decide, complement_involutive _ (by decide)⟩

example : (ofRange 0x61 0x7A).complement.ranges = [⟨0, 0x60⟩, ⟨0x7B, maxCodePoint⟩] := by
  decide

/-- Two sets in normal form are equal as range lists when they cover the same code points;
and on a set in normal form the binary search finds exactly its code points, the size is
their number, at most `0x110000`, with every partial sum of range sizes at most that too, and
the set is empty or full exactly when it covers none or all code points. -/
theorem normal_sets_canonical (s t : CodePointSet) (hs : s.Normal) (ht : t.Normal) :
    (s.codePoints = t.codePoints → s = t) ∧
      (∀ n, s.containsBySearch n = true ↔ n ∈ s.codePoints) ∧
      s.size = s.codePoints.card ∧ s.size ≤ maxCodePoint + 1 ∧
      (∀ k, (s.ranges.take k).foldl (fun n r => n + r.size) 0 ≤ maxCodePoint + 1) ∧
      (s.isEmpty = true ↔ s.codePoints = ∅) ∧
      (s.isFull = true ↔ s.codePoints = Finset.range (maxCodePoint + 1)) :=
  ⟨eq_of_codePoints_eq hs ht, containsBySearch_iff hs, hs.size_eq_card, hs.size_le,
    hs.partial_size_le, hs.isEmpty_iff, hs.isFull_iff⟩

/-- The digits and the letters `A` to `Z`, added in either order, give one range list. -/
theorem digits_letters_canonical :
    let s := (ofRange 0x30 0x39).addRange 0x41 0x5A
    let t := (ofRange 0x41 0x5A).addRange 0x30 0x39
    s.Normal ∧ t.Normal ∧ ((s.codePoints = t.codePoints → s = t) ∧
      (∀ n, s.containsBySearch n = true ↔ n ∈ s.codePoints) ∧
      s.size = s.codePoints.card ∧ s.size ≤ maxCodePoint + 1 ∧
      (∀ k, (s.ranges.take k).foldl (fun n r => n + r.size) 0 ≤ maxCodePoint + 1) ∧
      (s.isEmpty = true ↔ s.codePoints = ∅) ∧
      (s.isFull = true ↔ s.codePoints = Finset.range (maxCodePoint + 1))) :=
  ⟨by decide +kernel, by decide +kernel,
    normal_sets_canonical _ _ (by decide +kernel) (by decide +kernel)⟩

end CodePointSet

end EcmaRegex
