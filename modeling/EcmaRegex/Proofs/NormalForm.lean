import Mathlib.Data.List.Chain
import Mathlib.Data.List.TakeWhile
import EcmaRegex.CodePointSet.Basic
/-!
# The normal form of code point sets

A range list is in normal form when every range is valid (its ends in order, its top at most
`0x10FFFF`) and each range ends at least two code points before the next one starts, so that a
code point lies between them that neither covers.  This file proves that every operation that
builds sets keeps that form and has the meaning of a union:

* `insertRange`, the merge walk, keeps a list in normal form and adds exactly the inserted
  range (`normalFrom_insertRange`, `contains_insertRange`);
* `addRange` finds the window of ranges to merge by two binary searches and splices one range
  in its place; on a set in normal form the searches land on the ends of the window, so the
  splice is the merge walk (`addRange_eq_insertRange`);
* hence `addRange`, `addCodePoint` and `union` keep normal form and add what they are given,
  the shortcut of `union` for an empty set agrees with adding the other set's ranges, and
  `ofRanges` normalises any list of valid ranges, in any order, overlapping or touching;
* every set built from the constructors by these operations and the complement is in normal
  form (`Reachable.normal`).

The working form of the invariant is `NormalFrom b`, normal form with every range starting at
`b` or later: the bound is what an induction along the list carries.  `normal_iff` says it is
the same as `Normal`.  A set in normal form is determined by its members (`eq_of_contains`),
which is why the range list of a set can be compared for equality.
-/

namespace EcmaRegex

namespace CodePointRange

/-- A range is valid when its ends are in order and it holds only code points. -/
def Valid (r : CodePointRange) : Prop := r.lo ≤ r.hi ∧ r.hi ≤ maxCodePoint

instance (r : CodePointRange) : Decidable r.Valid := inferInstanceAs (Decidable (_ ∧ _))

/-- `r` ends before `s` starts, with at least one code point between them. -/
def Before (r s : CodePointRange) : Prop := r.hi + 1 < s.lo

instance (r s : CodePointRange) : Decidable (r.Before s) := inferInstanceAs (Decidable (_ < _))

/-- `r` ends before `t` starts, with a value between them, as `addRange` compares ranges: the end
plus one is counted in 32-bit arithmetic that saturates. -/
def Precedes (r t : CodePointRange) : Prop := succSaturating r.hi < t.lo

theorem contains_iff {r : CodePointRange} {c : Nat} : r.contains c = true ↔ r.lo ≤ c ∧ c ≤ r.hi := by
  simp [contains]

/-- Two valid ranges that overlap or touch cover together the range from the lower of their
starts to the higher of their ends. -/
theorem contains_merge {r s : CodePointRange} (h1 : ¬ s.hi + 1 < r.lo) (h2 : ¬ r.hi + 1 < s.lo) (c : Nat) :
    (⟨min r.lo s.lo, max r.hi s.hi⟩ : CodePointRange).contains c = (r.contains c || s.contains c) := by
  apply Bool.eq_iff_iff.2
  simp only [Bool.or_eq_true, contains_iff]
  omega

end CodePointRange

/-! ### The partition point -/

section Partition

variable {α : Type} {p : α → Bool} {xs : List α}

/-- Every element satisfying `p` comes before every element that does not. -/
def Partitioned (p : α → Bool) (xs : List α) : Prop :=
  ∀ x ∈ xs.dropWhile p, p x = false

/-- In a partitioned list an index holds an element satisfying `p` exactly when it lies
within the leading run of such elements. -/
theorem Partitioned.any_getElem? (h : Partitioned p xs) (i : Nat) :
    xs[i]?.any p = decide (i < (xs.takeWhile p).length) := by
  induction xs generalizing i with
  | nil => simp
  | cons x rest ih =>
    by_cases hx : p x = true
    · have hrest : Partitioned p rest := by
        intro y hy
        exact h y (by rw [List.dropWhile_cons, if_pos hx]; exact hy)
      cases i with
      | zero => simp [hx]
      | succ i => simp [hx, ih hrest i]
    · -- the run is empty, and every element lies past it
      have hall : ∀ y ∈ x :: rest, p y = false := by
        intro y hy
        exact h y (by rw [List.dropWhile_cons, if_neg hx]; exact hy)
      rw [List.takeWhile_cons, if_neg hx, List.length_nil]
      cases hi : (x :: rest)[i]? with
      | none => simp
      | some y => simp [hall y (List.mem_of_getElem? hi)]

/-- The halving loop keeps the partition point inside its window `base .. base + size`:
taking the upper half only when the middle element satisfies `p` never passes it, and
keeping the lower half otherwise never loses it. -/
theorem partitionLoop_eq (h : Partitioned p xs) {base size : Nat}
    (hlo : base ≤ (xs.takeWhile p).length) (hhi : (xs.takeWhile p).length ≤ base + size)
    (hsize : 1 ≤ size) : partitionLoop p xs base size = (xs.takeWhile p).length := by
  fun_induction partitionLoop p xs base size with
  | case1 base size hle hany =>
    rw [h.any_getElem? base, decide_eq_true_eq] at hany
    omega
  | case2 base size hle hany =>
    rw [h.any_getElem? base, decide_eq_true_eq] at hany
    omega
  | case3 base size hgt half mid ih =>
    -- the middle element satisfies `p` exactly when it lies before the partition point
    have hmid := h.any_getElem? mid
    simp only [dite_eq_ite] at ih
    apply ih
    · split
      · next hm =>
        rw [hmid, decide_eq_true_eq] at hm
        omega
      · exact hlo
    · split
      · omega
      · next hm =>
        rw [hmid, decide_eq_true_eq] at hm
        omega
    · omega

/-- On a partitioned list the partition point is the length of the leading run of elements
satisfying the predicate. -/
theorem partitionPoint_eq (h : Partitioned p xs) :
    partitionPoint p xs = (xs.takeWhile p).length := by
  rw [partitionPoint]
  split
  · next hempty =>
    rw [List.isEmpty_iff.1 hempty]
    rfl
  · next hne =>
    have hlen : 0 < xs.length := List.length_pos_iff.2 (by simpa using hne)
    exact partitionLoop_eq h (Nat.zero_le _)
      (by rw [Nat.zero_add]; exact (List.takeWhile_prefix p).length_le) hlen

/-- The element at the end of the leading run is the first one past it. -/
theorem getElem?_length_takeWhile (p : α → Bool) (xs : List α) :
    xs[(xs.takeWhile p).length]? = (xs.dropWhile p).head? := by
  induction xs with
  | nil => rfl
  | cons x rest ih =>
    by_cases hx : p x = true
    · simp [hx, ih]
    · simp [hx]

theorem take_length_takeWhile (p : α → Bool) : ∀ xs : List α,
    xs.take (xs.takeWhile p).length = xs.takeWhile p
  | [] => rfl
  | x :: rest => by
    by_cases hx : p x = true
    · rw [List.takeWhile_cons_of_pos hx, List.length_cons, List.take_succ_cons,
        take_length_takeWhile p rest]
    · rw [List.takeWhile_cons_of_neg hx]
      rfl

theorem drop_length_takeWhile (p : α → Bool) : ∀ xs : List α,
    xs.drop (xs.takeWhile p).length = xs.dropWhile p
  | [] => rfl
  | x :: rest => by
    by_cases hx : p x = true
    · rw [List.takeWhile_cons_of_pos hx, List.length_cons, List.drop_succ_cons,
        drop_length_takeWhile p rest, List.dropWhile_cons_of_pos hx]
    · rw [List.takeWhile_cons_of_neg hx, List.dropWhile_cons_of_neg hx]
      rfl

/-- In a partitioned list the leading run holds exactly the elements satisfying `p`. -/
theorem Partitioned.mem_takeWhile (h : Partitioned p xs) {x : α} :
    x ∈ xs.takeWhile p ↔ x ∈ xs ∧ p x = true := by
  refine ⟨fun hx => ⟨(List.takeWhile_prefix p).subset hx, List.mem_takeWhile_imp hx⟩, ?_⟩
  rintro ⟨hx, hpx⟩
  rw [← List.takeWhile_append_dropWhile (p := p) (l := xs), List.mem_append] at hx
  rcases hx with hx | hx
  · exact hx
  · rw [h x hx] at hpx
    cases hpx

/-- In a partitioned list the rest after the leading run holds exactly the other elements. -/
theorem Partitioned.mem_dropWhile (h : Partitioned p xs) {x : α} :
    x ∈ xs.dropWhile p ↔ x ∈ xs ∧ p x = false := by
  refine ⟨fun hx => ⟨(List.dropWhile_suffix p).subset hx, h x hx⟩, ?_⟩
  rintro ⟨hx, hpx⟩
  rw [← List.takeWhile_append_dropWhile (p := p) (l := xs), List.mem_append] at hx
  rcases hx with hx | hx
  · rw [List.mem_takeWhile_imp hx] at hpx
    cases hpx
  · exact hx

/-- A predicate that holds of an element whenever it holds of a later one related to it splits
a pairwise related list into a leading run and the rest. -/
theorem partitioned_of_pairwise {R : α → α → Prop} (hR : xs.Pairwise R)
    (hp : ∀ x ∈ xs, ∀ y ∈ xs, R x y → p y = true → p x = true) : Partitioned p xs := by
  induction xs with
  | nil => intro x hx; cases hx
  | cons x rest ih =>
    obtain ⟨hx, hrest⟩ := List.pairwise_cons.1 hR
    intro y hy
    rw [List.dropWhile_cons] at hy
    split at hy
    · exact ih hrest (fun a ha b hb => hp a (List.mem_cons_of_mem x ha) b (List.mem_cons_of_mem x hb)) y hy
    · next hpx =>
      rcases List.mem_cons.1 hy with rfl | hy
      · simpa using hpx
      · -- a later element satisfying `p` would make the first one satisfy it
        cases hpy : p y
        · rfl
        · exact absurd (hp x List.mem_cons_self y (List.mem_cons_of_mem x hy) (hx y hy) hpy) hpx

end Partition

namespace CodePointSet

open CodePointRange

/-- The range list of a set in normal form: every range valid, and each one before the next. -/
def Normal (s : CodePointSet) : Prop :=
  (∀ r ∈ s.ranges, r.Valid) ∧ s.ranges.IsChain Before

instance (s : CodePointSet) : Decidable s.Normal := inferInstanceAs (Decidable (_ ∧ _))

/-- A range list in normal form whose ranges all start at `b` or later. -/
def NormalFrom : Nat → List CodePointRange → Prop
  | _, [] => True
  | b, r :: rest => b ≤ r.lo ∧ r.Valid ∧ NormalFrom (r.hi + 2) rest

@[simp] theorem normalFrom_nil (b : Nat) : NormalFrom b [] := trivial

@[simp] theorem normalFrom_cons {b : Nat} {r : CodePointRange} {rest : List CodePointRange} :
    NormalFrom b (r :: rest) ↔ b ≤ r.lo ∧ r.Valid ∧ NormalFrom (r.hi + 2) rest := Iff.rfl

/-- Normal form is checked range by range, so that tables of ranges can be checked by
evaluation. -/
instance decidableNormalFrom : ∀ b rs, Decidable (NormalFrom b rs)
  | _, [] => isTrue trivial
  | _, r :: rest =>
    have := decidableNormalFrom (r.hi + 2) rest
    inferInstanceAs (Decidable (_ ∧ _ ∧ _))

/-- A lower bound may always be lowered. -/
theorem NormalFrom.mono {b b' : Nat} {rs : List CodePointRange} (h : NormalFrom b' rs)
    (hb : b ≤ b') : NormalFrom b rs := by
  cases rs with
  | nil => trivial
  | cons r rest =>
    obtain ⟨hlo, hv, hrest⟩ := h
    exact ⟨Nat.le_trans hb hlo, hv, hrest⟩

theorem NormalFrom.valid {b : Nat} {rs : List CodePointRange} (h : NormalFrom b rs) :
    ∀ r ∈ rs, r.Valid := by
  induction rs generalizing b with
  | nil => intro r hr; cases hr
  | cons s rest ih =>
    intro r hr
    rcases List.mem_cons.1 hr with rfl | hr
    · exact h.2.1
    · exact ih h.2.2 r hr

/-- Every range of a list in normal form from `b` starts at `b` or later. -/
theorem NormalFrom.le_lo {b : Nat} {rs : List CodePointRange} (h : NormalFrom b rs) :
    ∀ r ∈ rs, b ≤ r.lo := by
  induction rs generalizing b with
  | nil => intro r hr; cases hr
  | cons s rest ih =>
    intro r hr
    obtain ⟨hlo, ⟨hv, -⟩, hrest⟩ := h
    rcases List.mem_cons.1 hr with rfl | hr
    · exact hlo
    · have := ih hrest r hr
      omega

/-- No code point below the bound is in a list in normal form from that bound. -/
theorem NormalFrom.not_contains {b c : Nat} {rs : List CodePointRange} (h : NormalFrom b rs)
    (hc : c < b) : rs.any (·.contains c) = false := by
  rw [Bool.eq_false_iff]
  intro hany
  obtain ⟨r, hr, hrc⟩ := List.any_eq_true.1 hany
  have := h.le_lo r hr
  have := contains_iff.1 hrc
  omega

theorem normalFrom_iff_chain {b : Nat} {r : CodePointRange} {rest : List CodePointRange} :
    NormalFrom b (r :: rest) ↔ b ≤ r.lo ∧ (∀ x ∈ r :: rest, x.Valid) ∧ (r :: rest).IsChain Before := by
  induction rest generalizing b r with
  | nil => simp
  | cons s rest ih =>
    rw [normalFrom_cons, ih, List.isChain_cons_cons]
    simp only [List.mem_cons, forall_eq_or_imp, Before]
    constructor
    · rintro ⟨hb, hv, hs, hall, hchain⟩
      exact ⟨hb, ⟨hv, hall⟩, by omega, hchain⟩
    · rintro ⟨hb, ⟨hv, hall⟩, hbefore, hchain⟩
      exact ⟨hb, hv, by omega, hall, hchain⟩

/-- Normal form is normal form from `0`. -/
theorem normal_iff {s : CodePointSet} : s.Normal ↔ NormalFrom 0 s.ranges := by
  match hs : s.ranges with
  | [] => simp [Normal, hs]
  | r :: rest =>
    rw [normalFrom_iff_chain, Normal, hs]
    simp

/-! ### The merge walk -/

/-- Insert the range `r` into a range list in normal form by walking along it.  Ranges that end
at least two below `r.lo` stay in front; the first range that starts at least two above `r.hi`
and all after it stay behind; every range in between overlaps or touches `r` and is merged into
it.  This is what adding a range means; `addRange` computes it with two binary searches. -/
def insertRange (r : CodePointRange) : List CodePointRange → List CodePointRange
  | [] => [r]
  | s :: rest =>
    if s.hi + 1 < r.lo then s :: insertRange r rest
    else if r.hi + 1 < s.lo then r :: s :: rest
    else insertRange ⟨min r.lo s.lo, max r.hi s.hi⟩ rest

/-- Inserting a valid range that starts at the bound or later keeps normal form from the
bound.  A merged range starts at the lower of two starts, so it stays above the bound. -/
theorem normalFrom_insertRange {b : Nat} {r : CodePointRange} {rs : List CodePointRange}
    (hr : r.Valid) (hb : b ≤ r.lo) (h : NormalFrom b rs) : NormalFrom b (insertRange r rs) := by
  induction rs generalizing b r with
  | nil => exact ⟨hb, hr, trivial⟩
  | cons s rest ih =>
    obtain ⟨hbs, hs, hrest⟩ := h
    rw [insertRange]
    split
    · next hbefore => exact ⟨hbs, hs, ih hr (by omega) hrest⟩
    split
    · next _ hafter => exact ⟨hb, hr, by omega, hs, hrest⟩
    -- the merged range reaches from the lower start to the higher end of `r` and `s`
    · have hm : (⟨min r.lo s.lo, max r.hi s.hi⟩ : CodePointRange).Valid := by
        simp only [Valid] at hr hs ⊢
        omega
      exact ih hm (Nat.le_min.2 ⟨hb, hbs⟩) (hrest.mono (by simp only [Valid] at hs; omega))

/-- Inserting a range adds exactly its code points.  A merge only happens where the two ranges
overlap or touch, so it covers no code point that neither covers. -/
theorem contains_insertRange (r : CodePointRange) (rs : List CodePointRange) (c : Nat) :
    (insertRange r rs).any (·.contains c) = (r.contains c || rs.any (·.contains c)) := by
  induction rs generalizing r with
  | nil => simp [insertRange]
  | cons s rest ih =>
    rw [insertRange]
    split
    · rw [List.any_cons, ih r, List.any_cons]
      cases r.contains c <;> cases s.contains c <;> rfl
    split
    · rfl
    · next h1 h2 => rw [ih, contains_merge h1 h2, List.any_cons, Bool.or_assoc]

/-- A range after every range of the list is appended at its end. -/
theorem insertRange_of_after {r : CodePointRange} {rs : List CodePointRange}
    (h : ∀ x ∈ rs, x.hi + 1 < r.lo) : insertRange r rs = rs ++ [r] := by
  induction rs with
  | nil => rfl
  | cons s rest ih =>
    rw [insertRange, if_pos (h s (List.mem_cons_self ..)),
      ih (fun x hx => h x (List.mem_cons_of_mem _ hx)), List.cons_append]

/-! ### The window of `addRange` -/

@[simp] theorem succSaturating_of_le {n : Nat} (h : n ≤ maxCodePoint) : succSaturating n = n + 1 := by
  simp only [succSaturating, maxCodePoint] at h ⊢
  omega

theorem takeWhile_eq_of_forall {α : Type} {p q : α → Bool} {xs : List α}
    (h : ∀ x ∈ xs, p x = q x) : xs.takeWhile p = xs.takeWhile q := by
  induction xs with
  | nil => rfl
  | cons x rest ih =>
    rw [List.takeWhile_cons, List.takeWhile_cons, h x List.mem_cons_self,
      ih fun y hy => h y (List.mem_cons_of_mem x hy)]

theorem getD_mem {α : Type} {xs : List α} {i : Nat} (d : α) (h : i < xs.length) :
    xs.getD i d ∈ xs := by
  rw [List.getD_eq_getElem?_getD, List.getElem?_eq_getElem h, Option.getD_some]
  exact List.getElem_mem h

/-- A range in front of both windows stays in front. -/
theorem spliceRange_cons_succ (s : CodePointRange) (rs : List CodePointRange)
    (lo hi start stop : Nat) :
    spliceRange (s :: rs) lo hi (start + 1) (stop + 1) = s :: spliceRange rs lo hi start stop := by
  cases stop with
  | zero => simp [spliceRange]
  | succ stop => simp [spliceRange]

/-- The window of a range that overlaps or touches the first range of a list in normal form
starts at that range; merging the first range into the new one first leaves the window over the
rest where it was, and stretches it to the same range. -/
theorem spliceRange_merge_first {s : CodePointRange} {rest : List CodePointRange}
    (hs : s.Valid) (hrest : NormalFrom (s.hi + 2) rest) {lo hi : Nat} (hhi : hi ≤ maxCodePoint) :
    spliceRange (s :: rest) lo hi 0
        ((rest.takeWhile fun r => decide (r.lo ≤ succSaturating hi)).length + 1) =
      spliceRange rest (min lo s.lo) (max hi s.hi)
        (rest.takeWhile fun r => decide (succSaturating r.hi < min lo s.lo)).length
        (rest.takeWhile fun r => decide (r.lo ≤ succSaturating (max hi s.hi))).length := by
  have hmax : max hi s.hi ≤ maxCodePoint := Nat.max_le.2 ⟨hhi, hs.2⟩
  -- no range of the rest ends before the merged range starts
  have hfront : (rest.takeWhile fun r => decide (succSaturating r.hi < min lo s.lo)) = [] := by
    cases rest with
    | nil => rfl
    | cons x more =>
      obtain ⟨hx, ⟨hxv, hxmax⟩, -⟩ := hrest
      have hslo := hs.1
      rw [List.takeWhile_cons_of_neg]
      simp only [succSaturating_of_le hxmax, decide_eq_true_eq, not_lt]
      omega
  -- and a range of the rest touches the merged range exactly when it touches the new one
  have hback : (rest.takeWhile fun r => decide (r.lo ≤ succSaturating (max hi s.hi))) =
      rest.takeWhile fun r => decide (r.lo ≤ succSaturating hi) := by
    apply takeWhile_eq_of_forall
    intro x hx
    have := hrest.le_lo x hx
    simp only [succSaturating_of_le hmax, succSaturating_of_le hhi, decide_eq_decide]
    omega
  rw [hfront, hback, List.length_nil]
  generalize hn : (rest.takeWhile fun r => decide (r.lo ≤ succSaturating hi)).length = n
  have hn_le : n ≤ rest.length := hn ▸ (List.takeWhile_prefix _).length_le
  cases n with
  | zero => simp [spliceRange]
  | succ k =>
    -- the window over the rest runs from its first range to its range `k`, both past `s`
    have hfirst := hrest.le_lo (rest.getD 0 default) (getD_mem default (by omega))
    have hlast := hrest.valid (rest.getD k default) (getD_mem default (by omega))
    have hklo := hrest.le_lo (rest.getD k default) (getD_mem default (by omega))
    simp only [spliceRange, Nat.lt_add_one_iff, Nat.zero_le, if_true,
      List.take_zero, List.nil_append, List.drop_succ_cons, Nat.add_sub_cancel, List.getD_cons_zero,
      List.getD_cons_succ, List.cons.injEq, CodePointRange.mk.injEq, and_true]
    simp only [Valid] at hs hlast
    omega

/-- On a list in normal form, the splice over the window the two searches find is the merge
walk: the ranges before the window are walked past, those in it merged, those after it kept. -/
theorem spliceRange_eq_insertRange {b : Nat} {rs : List CodePointRange} (h : NormalFrom b rs)
    {lo hi : Nat} (hr : lo ≤ hi) (hhi : hi ≤ maxCodePoint) :
    spliceRange rs lo hi (rs.takeWhile fun r => decide (succSaturating r.hi < lo)).length
      (rs.takeWhile fun r => decide (r.lo ≤ succSaturating hi)).length =
      insertRange ⟨lo, hi⟩ rs := by
  induction rs generalizing b lo hi with
  | nil => rfl
  | cons s rest ih =>
    obtain ⟨-, hs, hrest⟩ := h
    have hsat : succSaturating s.hi = s.hi + 1 := succSaturating_of_le hs.2
    rw [insertRange]
    by_cases hbefore : s.hi + 1 < lo
    · -- `s` ends before the new range: both windows start past it
      have hlo : s.lo ≤ succSaturating hi := by
        simp only [succSaturating_of_le hhi]
        simp only [Valid] at hs
        omega
      rw [if_pos hbefore, List.takeWhile_cons_of_pos (by simpa [hsat] using hbefore),
        List.takeWhile_cons_of_pos (by simpa using hlo), List.length_cons, List.length_cons,
        spliceRange_cons_succ, ih hrest hr hhi]
    · have hstart : (s :: rest).takeWhile (fun r => decide (succSaturating r.hi < lo)) = [] :=
        List.takeWhile_cons_of_neg (by simpa [hsat] using hbefore)
      rw [if_neg hbefore, hstart, List.length_nil]
      by_cases hafter : hi + 1 < s.lo
      · -- `s` starts after the new range: the window is empty
        have hstop : (s :: rest).takeWhile (fun r => decide (r.lo ≤ succSaturating hi)) = [] :=
          List.takeWhile_cons_of_neg (by simpa [succSaturating_of_le hhi] using hafter)
        rw [if_pos hafter, hstop]
        rfl
      · -- `s` overlaps or touches the new range: the window starts at `s`
        have hstop : (s :: rest).takeWhile (fun r => decide (r.lo ≤ succSaturating hi)) =
            s :: rest.takeWhile (fun r => decide (r.lo ≤ succSaturating hi)) :=
          List.takeWhile_cons_of_pos (by simpa [succSaturating_of_le hhi] using hafter)
        have hmerged : min lo s.lo ≤ max hi s.hi := by omega
        rw [if_neg hafter, hstop, List.length_cons, spliceRange_merge_first hs hrest hhi,
          ih hrest hmerged (Nat.max_le.2 ⟨hhi, hs.2⟩)]

/-! ### Adding to a separated list -/

/-- The test of the first search of `addRange`: the range ends, plus one, below `lo`. -/
def below (lo : Nat) (r : CodePointRange) : Bool := decide (succSaturating r.hi < lo)

/-- The test of the second search of `addRange`: the range starts at most one above `hi`. -/
def reaches (hi : Nat) (r : CodePointRange) : Bool := decide (r.lo ≤ succSaturating hi)

theorem addRange_eq_spliceRange (s : CodePointSet) (lo hi : Nat) :
    s.addRange lo hi = ⟨spliceRange s.ranges lo hi (partitionPoint (below lo) s.ranges)
      (partitionPoint (reaches hi) s.ranges)⟩ := rfl

/-- A set is separated when each of its ranges has its ends in order and precedes every later
one.  This is what `addRange` needs to add exactly the range it is given.  Unlike normal form it
bounds no value, so adding any range in order keeps it. -/
def Separated (s : CodePointSet) : Prop :=
  (∀ r ∈ s.ranges, r.lo ≤ r.hi) ∧ s.ranges.Pairwise Precedes

theorem NormalFrom.pairwise {b : Nat} {rs : List CodePointRange} (h : NormalFrom b rs) :
    rs.Pairwise Precedes := by
  induction rs generalizing b with
  | nil => exact List.Pairwise.nil
  | cons r rest ih =>
    obtain ⟨-, hr, hrest⟩ := h
    refine List.pairwise_cons.2 ⟨fun t ht => ?_, ih hrest⟩
    have := hrest.le_lo t ht
    rw [Precedes, succSaturating_of_le hr.2]
    omega

section Window

variable {rs : List CodePointRange} {lo hi : Nat}

theorem partitioned_below (hv : ∀ r ∈ rs, r.lo ≤ r.hi) (hp : rs.Pairwise Precedes) :
    Partitioned (below lo) rs :=
  partitioned_of_pairwise hp fun r _ t ht hrt hpt => by
    have := hv t ht
    simp only [below, decide_eq_true_eq] at hpt ⊢
    simp only [Precedes, succSaturating] at hrt hpt ⊢
    omega

theorem partitioned_reaches (hv : ∀ r ∈ rs, r.lo ≤ r.hi) (hp : rs.Pairwise Precedes) :
    Partitioned (reaches hi) rs :=
  partitioned_of_pairwise hp fun r hr t _ hrt hpt => by
    have := hv r hr
    simp only [reaches, decide_eq_true_eq] at hpt ⊢
    simp only [Precedes, succSaturating] at hrt hpt ⊢
    omega

/-- A range that ends below the new one precedes every range that starts past it. -/
theorem precedes_of_below {r t : CodePointRange} (hr : below lo r = true)
    (ht : reaches hi t = false) (hlohi : lo ≤ hi) : Precedes r t := by
  simp only [below, reaches, decide_eq_true_eq, decide_eq_false_iff_not] at hr ht
  simp only [Precedes, succSaturating] at hr ht ⊢
  omega

/-- The range the splice puts in place of the window. -/
def merged (rs : List CodePointRange) (lo hi start stop : Nat) : CodePointRange :=
  if start < stop then ⟨min lo (rs.getD start default).lo, max hi (rs.getD (stop - 1) default).hi⟩
  else ⟨lo, hi⟩


theorem spliceRange_eq (rs : List CodePointRange) (lo hi start stop : Nat) :
    spliceRange rs lo hi start stop = rs.take start ++ merged rs lo hi start stop :: rs.drop stop :=
  rfl

/-- The ranges of the window: those that neither end below the new range nor start past it. -/
def InWindow (lo hi : Nat) (r : CodePointRange) : Prop := below lo r = false ∧ reaches hi r = true

/-- Once the first search stops before the second, the window runs from the range the first
search stops at to the last range the second one passes, and every range of the window lies
between those two. -/
theorem window_ends (hv : ∀ r ∈ rs, r.lo ≤ r.hi) (hp : rs.Pairwise Precedes)
    (hlt : (rs.takeWhile (below lo)).length < (rs.takeWhile (reaches hi)).length) :
    let a := rs.getD (rs.takeWhile (below lo)).length default
    let b := rs.getD ((rs.takeWhile (reaches hi)).length - 1) default
    a ∈ rs ∧ below lo a = false ∧ b ∈ rs ∧ reaches hi b = true ∧
      ∀ x ∈ rs, InWindow lo hi x → a.lo ≤ x.lo ∧ x.hi ≤ b.hi := by
  intro a b
  have h1 : Partitioned (below lo) rs := partitioned_below hv hp
  have h2 : Partitioned (reaches hi) rs := partitioned_reaches hv hp
  -- the first search stops at the head of the rest after its run
  obtain ⟨a', rest, hdrop⟩ : ∃ a' rest, rs.dropWhile (below lo) = a' :: rest := by
    have hlen := (List.takeWhile_prefix (l := rs) (reaches hi)).length_le
    cases hd : rs.dropWhile (below lo) with
    | nil =>
      have := congrArg List.length (List.takeWhile_append_dropWhile (p := below lo) (l := rs))
      rw [hd, List.append_nil] at this
      omega
    | cons a' rest => exact ⟨a', rest, rfl⟩
  have ha : a = a' := by
    have := getElem?_length_takeWhile (below lo) rs
    rw [hdrop, List.head?_cons] at this
    simp only [a, List.getD_eq_getElem?_getD, this, Option.getD_some]
  -- the second search passes a last range
  obtain ⟨front, b', htake⟩ : ∃ front b', rs.takeWhile (reaches hi) = front ++ [b'] := by
    rcases List.eq_nil_or_concat (rs.takeWhile (reaches hi)) with h | ⟨front, b', h⟩
    · rw [h, List.length_nil] at hlt
      omega
    · exact ⟨front, b', by rw [h, List.concat_eq_append]⟩
  have hb : b = b' := by
    have hpre := (List.takeWhile_prefix (l := rs) (reaches hi))
    rw [htake] at hpre
    obtain ⟨tail, htail⟩ := hpre
    have hidx : (rs.takeWhile (reaches hi)).length - 1 = front.length := by
      rw [htake, List.length_append, List.length_singleton, Nat.add_sub_cancel]
    have hget : rs[front.length]? = some b' := by
      rw [← htail, List.append_assoc, List.singleton_append,
        List.getElem?_append_right (Nat.le_refl _), Nat.sub_self, List.getElem?_cons_zero]
    simp only [b, hidx, List.getD_eq_getElem?_getD, hget, Option.getD_some]
  rw [ha, hb]
  have ha_mem : a' ∈ rs.dropWhile (below lo) := hdrop ▸ List.mem_cons_self
  have hb_mem : b' ∈ rs.takeWhile (reaches hi) :=
    htake ▸ List.mem_append_right _ (List.mem_singleton_self b')
  obtain ⟨haR, ha1⟩ := h1.mem_dropWhile.1 ha_mem
  obtain ⟨hbR, hb2⟩ := h2.mem_takeWhile.1 hb_mem
  refine ⟨haR, ha1, hbR, hb2, fun x hx ⟨hx1, hx2⟩ => ⟨?_, ?_⟩⟩
  · -- a range of the window past the first one starts after it ends
    have hxd : x ∈ a' :: rest := hdrop ▸ h1.mem_dropWhile.2 ⟨hx, hx1⟩
    rcases List.mem_cons.1 hxd with rfl | hxr
    · exact Nat.le_refl _
    · have hsub : (a' :: rest).Pairwise Precedes :=
        hdrop ▸ hp.sublist (List.dropWhile_suffix _).sublist
      have hax := List.rel_of_pairwise_cons hsub hxr
      have := hv a' haR
      simp only [reaches, decide_eq_true_eq] at hx2
      simp only [Precedes, succSaturating] at hax hx2
      omega
  · -- a range of the window before the last one ends before it starts
    have hxt : x ∈ front ++ [b'] := htake ▸ h2.mem_takeWhile.2 ⟨hx, hx2⟩
    rcases List.mem_append.1 hxt with hxf | hxb
    · have hsub : (front ++ [b']).Pairwise Precedes :=
        htake ▸ hp.sublist (List.takeWhile_prefix _).sublist
      have hxb := (List.pairwise_append.1 hsub).2.2 x hxf b' (List.mem_singleton_self b')
      have := hv b' hbR
      simp only [reaches, decide_eq_true_eq] at hb2
      simp only [Precedes, succSaturating] at hxb hb2
      omega
    · rw [List.mem_singleton.1 hxb]

/-- The merged range covers no code point that is neither in the new range nor in a range of
the list: a point below the new range is in the first range of the window, a point above it in
the last. -/
theorem merged_subset (hv : ∀ r ∈ rs, r.lo ≤ r.hi) (hp : rs.Pairwise Precedes) {c : Nat}
    (hc : (merged rs lo hi (rs.takeWhile (below lo)).length
      (rs.takeWhile (reaches hi)).length).contains c = true) :
    (lo ≤ c ∧ c ≤ hi) ∨ ∃ x ∈ rs, x.contains c = true := by
  rw [merged] at hc
  split at hc
  · next hlt =>
    obtain ⟨haR, ha1, hbR, hb2, -⟩ := window_ends hv hp hlt
    generalize rs.getD (rs.takeWhile (below lo)).length default = a at haR ha1 hc
    generalize rs.getD ((rs.takeWhile (reaches hi)).length - 1) default = b at hbR hb2 hc
    have hab := hv a haR
    simp only [below, reaches, decide_eq_true_eq, decide_eq_false_iff_not] at ha1 hb2
    simp only [succSaturating] at ha1 hb2
    simp only [contains_iff] at hc
    by_cases hclo : c < lo
    · exact Or.inr ⟨a, haR, contains_iff.2 (by omega)⟩
    · by_cases hchi : hi < c
      · exact Or.inr ⟨b, hbR, contains_iff.2 (by omega)⟩
      · exact Or.inl ⟨by omega, by omega⟩
  · exact Or.inl (contains_iff.1 hc)

/-- The merged range covers the new range and every range of the window. -/
theorem contains_merged (hv : ∀ r ∈ rs, r.lo ≤ r.hi) (hp : rs.Pairwise Precedes) {c : Nat}
    (hc : (lo ≤ c ∧ c ≤ hi) ∨ ∃ x ∈ rs, InWindow lo hi x ∧ x.contains c = true) :
    (merged rs lo hi (rs.takeWhile (below lo)).length
      (rs.takeWhile (reaches hi)).length).contains c = true := by
  rw [merged]
  split
  · next hlt =>
    obtain ⟨-, -, -, -, hwin⟩ := window_ends hv hp hlt
    generalize rs.getD (rs.takeWhile (below lo)).length default = a at hwin
    generalize rs.getD ((rs.takeWhile (reaches hi)).length - 1) default = b at hwin
    simp only [contains_iff]
    rcases hc with hc | ⟨x, hx, hxw, hxc⟩
    · omega
    · have := hwin x hx hxw
      rw [contains_iff] at hxc
      omega
  · next hge =>
    -- with no window the merged range is the new one, and no range lies in the window
    rcases hc with hc | ⟨x, hx, ⟨hx1, hx2⟩, -⟩
    · exact contains_iff.2 hc
    · have hx' := (partitioned_reaches hv hp).mem_takeWhile.2 ⟨hx, hx2⟩
      rw [← take_length_takeWhile] at hx'
      have : x ∈ rs.take (rs.takeWhile (below lo)).length :=
        (List.take_subset_take_left _ (Nat.le_of_not_lt hge)) hx'
      rw [take_length_takeWhile] at this
      rw [List.mem_takeWhile_imp this] at hx1
      cases hx1


/-- The splice over the window adds exactly the new range: the ranges before the window and
after it are kept, and the merged range covers the new range and the window. -/
theorem contains_spliceRange (hv : ∀ r ∈ rs, r.lo ≤ r.hi) (hp : rs.Pairwise Precedes)
    (c : Nat) :
    (spliceRange rs lo hi (rs.takeWhile (below lo)).length
      (rs.takeWhile (reaches hi)).length).any (·.contains c) =
      (rs.any (·.contains c) || decide (lo ≤ c) && decide (c ≤ hi)) := by
  have h1 : Partitioned (below lo) rs := partitioned_below hv hp
  have h2 : Partitioned (reaches hi) rs := partitioned_reaches hv hp
  apply Bool.eq_iff_iff.2
  rw [spliceRange_eq, take_length_takeWhile, drop_length_takeWhile, List.any_append, List.any_cons]
  simp only [Bool.or_eq_true, List.any_eq_true, Bool.and_eq_true, decide_eq_true_eq]
  constructor
  · rintro (⟨x, hx, hxc⟩ | hm | ⟨x, hx, hxc⟩)
    · exact Or.inl ⟨x, (List.takeWhile_prefix _).subset hx, hxc⟩
    · exact (merged_subset hv hp hm).symm
    · exact Or.inl ⟨x, (List.dropWhile_suffix _).subset hx, hxc⟩
  · rintro (⟨x, hx, hxc⟩ | h)
    · -- every range of the list is kept in front, kept behind, or merged
      cases hb : below lo x
      · cases hr : reaches hi x
        · exact Or.inr (Or.inr ⟨x, h2.mem_dropWhile.2 ⟨hx, hr⟩, hxc⟩)
        · exact Or.inr (Or.inl (contains_merged hv hp (Or.inr ⟨x, hx, ⟨hb, hr⟩, hxc⟩)))
      · exact Or.inl ⟨x, h1.mem_takeWhile.2 ⟨hx, hb⟩, hxc⟩
    · exact Or.inr (Or.inl (contains_merged hv hp (Or.inl h)))

/-- The splice over the window keeps the list separated: the ranges in front end below the new
range and below the window, and the merged range ends, plus one, below the ranges behind. -/
theorem separated_spliceRange (hv : ∀ r ∈ rs, r.lo ≤ r.hi) (hp : rs.Pairwise Precedes)
    (hlohi : lo ≤ hi) :
    let rs' := spliceRange rs lo hi (rs.takeWhile (below lo)).length
      (rs.takeWhile (reaches hi)).length
    (∀ r ∈ rs', r.lo ≤ r.hi) ∧ rs'.Pairwise Precedes := by
  have h1 : Partitioned (below lo) rs := partitioned_below hv hp
  have h2 : Partitioned (reaches hi) rs := partitioned_reaches hv hp
  intro rs'
  have hsplit : rs' = rs.takeWhile (below lo) ++
      merged rs lo hi (rs.takeWhile (below lo)).length (rs.takeWhile (reaches hi)).length ::
        rs.dropWhile (reaches hi) := by
    show spliceRange _ _ _ _ _ = _
    rw [spliceRange_eq, take_length_takeWhile, drop_length_takeWhile]
  generalize hm : merged rs lo hi _ _ = m at hsplit
  -- what the merged range is made of: its ends, and the ranges it precedes and follows
  have hmv : m.lo ≤ m.hi ∧ (∀ y ∈ rs.dropWhile (reaches hi), Precedes m y) ∧
      ∀ x ∈ rs.takeWhile (below lo), Precedes x m := by
    rw [← hm, merged]
    split
    · next hlt =>
      obtain ⟨haR, ha1, hbR, hb2, -⟩ := window_ends hv hp hlt
      generalize rs.getD (rs.takeWhile (below lo)).length default = a at haR ha1
      generalize rs.getD ((rs.takeWhile (reaches hi)).length - 1) default = b at hbR hb2
      have hb := h2.mem_takeWhile.2 ⟨hbR, hb2⟩
      have ha := h1.mem_dropWhile.2 ⟨haR, ha1⟩
      have hpb := List.pairwise_append.1
        ((List.takeWhile_append_dropWhile (p := reaches hi) (l := rs)).symm ▸ hp)
      have hpa := List.pairwise_append.1
        ((List.takeWhile_append_dropWhile (p := below lo) (l := rs)).symm ▸ hp)
      refine ⟨show min lo a.lo ≤ max hi b.hi by omega, fun y hy => ?_, fun x hx => ?_⟩
      · have hby := hpb.2.2 b hb y hy
        have hy2 := (h2.mem_dropWhile.1 hy).2
        simp only [reaches, decide_eq_false_iff_not] at hy2
        simp only [Precedes, succSaturating] at hby hy2 ⊢
        omega
      · have hxa := hpa.2.2 x hx a ha
        have hx1 := List.mem_takeWhile_imp hx
        simp only [below, decide_eq_true_eq] at hx1
        simp only [Precedes, succSaturating] at hxa hx1 ⊢
        omega
    · refine ⟨hlohi, fun y hy => ?_, fun x hx => ?_⟩
      · have hy2 := (h2.mem_dropWhile.1 hy).2
        simp only [reaches, decide_eq_false_iff_not] at hy2
        simp only [Precedes, succSaturating] at hy2 ⊢
        omega
      · have hx1 := List.mem_takeWhile_imp hx
        simp only [below, decide_eq_true_eq] at hx1
        exact hx1
  obtain ⟨hmlo, hmy, hxm⟩ := hmv
  rw [hsplit]
  refine ⟨fun r hr => ?_, List.pairwise_append.2 ⟨hp.sublist (List.takeWhile_prefix _).sublist,
    List.pairwise_cons.2 ⟨hmy, hp.sublist (List.dropWhile_suffix _).sublist⟩, ?_⟩⟩
  · rcases List.mem_append.1 hr with hr | hr
    · exact hv r ((List.takeWhile_prefix _).subset hr)
    · rcases List.mem_cons.1 hr with rfl | hr
      · exact hmlo
      · exact hv r ((List.dropWhile_suffix _).subset hr)
  · intro x hx y hy
    rcases List.mem_cons.1 hy with rfl | hy
    · exact hxm x hx
    · exact precedes_of_below (List.mem_takeWhile_imp hx) (h2.mem_dropWhile.1 hy).2 hlohi

end Window

/-! ### Sets -/

theorem normal_empty : empty.Normal := normal_iff.2 trivial

/-- The code points of a set are those of its ranges. -/
theorem contains_def (s : CodePointSet) (c : Nat) : s.contains c = s.ranges.any (·.contains c) :=
  rfl

theorem Normal.valid {s : CodePointSet} (h : s.Normal) : ∀ r ∈ s.ranges, r.Valid := h.1

theorem Normal.separated {s : CodePointSet} (hs : s.Normal) : s.Separated :=
  ⟨fun r hr => (hs.valid r hr).1, (normal_iff.1 hs).pairwise⟩

theorem separated_empty : empty.Separated := ⟨fun _ h => absurd h List.not_mem_nil, List.Pairwise.nil⟩

/-- On a separated set each search lands at the end of the leading run of ranges that pass its
test, so that the window is the ranges between the two runs. -/
theorem Separated.addRange_eq {s : CodePointSet} (hs : s.Separated) (lo hi : Nat) :
    s.addRange lo hi = ⟨spliceRange s.ranges lo hi (s.ranges.takeWhile (below lo)).length
      (s.ranges.takeWhile (reaches hi)).length⟩ := by
  rw [addRange_eq_spliceRange, partitionPoint_eq (partitioned_below hs.1 hs.2),
    partitionPoint_eq (partitioned_reaches hs.1 hs.2)]

/-- Adding a range in order keeps a set separated, whatever its bounds. -/
theorem Separated.addRange {s : CodePointSet} (hs : s.Separated) {lo hi : Nat} (hr : lo ≤ hi) :
    (s.addRange lo hi).Separated := by
  rw [hs.addRange_eq]
  exact separated_spliceRange hs.1 hs.2 hr

/-- Adding a range to a separated set adds exactly its code points. -/
theorem contains_addRange {s : CodePointSet} (hs : s.Separated) (lo hi c : Nat) :
    (s.addRange lo hi).contains c = (s.contains c || decide (lo ≤ c) && decide (c ≤ hi)) := by
  rw [hs.addRange_eq, contains_def, contains_spliceRange hs.1 hs.2]
  rfl

/-- On a set in normal form, adding a valid range by the two searches and the splice is the
merge walk: the searches land on the ends of the window because a list in normal form is sorted
by both ends of its ranges. -/
theorem addRange_eq_insertRange {s : CodePointSet} (hs : s.Normal) {lo hi : Nat} (hr : lo ≤ hi)
    (hhi : hi ≤ maxCodePoint) : s.addRange lo hi = ⟨insertRange ⟨lo, hi⟩ s.ranges⟩ := by
  rw [hs.separated.addRange_eq]
  exact congrArg mk (spliceRange_eq_insertRange (normal_iff.1 hs) hr hhi)

theorem Normal.addRange {s : CodePointSet} {r : CodePointRange} (hs : s.Normal) (hr : r.Valid) :
    (s.addRange r.lo r.hi).Normal := by
  rw [addRange_eq_insertRange hs hr.1 hr.2]
  exact normal_iff.2 (normalFrom_insertRange hr (Nat.zero_le _) (normal_iff.1 hs))

theorem Normal.addCodePoint {s : CodePointSet} {cp : Nat} (hs : s.Normal)
    (hcp : cp ≤ maxCodePoint) : (s.addCodePoint cp).Normal :=
  Normal.addRange (r := ⟨cp, cp⟩) hs ⟨Nat.le_refl _, hcp⟩

theorem Separated.addCodePoint {s : CodePointSet} (hs : s.Separated) (cp : Nat) :
    (s.addCodePoint cp).Separated :=
  hs.addRange (Nat.le_refl cp)

theorem contains_addCodePoint {s : CodePointSet} (hs : s.Separated) (cp c : Nat) :
    (s.addCodePoint cp).contains c = (s.contains c || c == cp) := by
  rw [addCodePoint, contains_addRange hs]
  congr 1
  apply Bool.eq_iff_iff.2
  simp only [Bool.and_eq_true, decide_eq_true_eq, beq_iff_eq]
  omega

/-- Adding valid ranges one after another to a set in normal form is inserting them one after
another by the merge walk. -/
theorem addRanges_eq {s : CodePointSet} (hs : s.Normal) {rs : List CodePointRange}
    (hrs : ∀ r ∈ rs, r.Valid) :
    s.addRanges rs = ⟨rs.foldl (fun acc r => insertRange r acc) s.ranges⟩ := by
  induction rs generalizing s with
  | nil => rfl
  | cons r rest ih =>
    have hr := hrs r List.mem_cons_self
    rw [addRanges, List.foldl_cons, ← addRanges, ih (hs.addRange hr)
      fun x hx => hrs x (List.mem_cons_of_mem r hx), addRange_eq_insertRange hs hr.1 hr.2]
    rfl

theorem Normal.addRanges {s : CodePointSet} (hs : s.Normal) {rs : List CodePointRange}
    (hrs : ∀ r ∈ rs, r.Valid) : (s.addRanges rs).Normal := by
  induction rs generalizing s with
  | nil => exact hs
  | cons r rest ih =>
    exact ih (hs.addRange (hrs r List.mem_cons_self)) fun x hx => hrs x (List.mem_cons_of_mem r hx)

theorem Separated.addRanges {s : CodePointSet} (hs : s.Separated) {rs : List CodePointRange}
    (hrs : ∀ r ∈ rs, r.lo ≤ r.hi) : (s.addRanges rs).Separated := by
  induction rs generalizing s with
  | nil => exact hs
  | cons r rest ih =>
    exact ih (hs.addRange (hrs r List.mem_cons_self)) fun x hx => hrs x (List.mem_cons_of_mem r hx)

/-- Adding ranges in order one after another adds exactly their code points. -/
theorem contains_addRanges {s : CodePointSet} (hs : s.Separated) {rs : List CodePointRange}
    (hrs : ∀ r ∈ rs, r.lo ≤ r.hi) (c : Nat) :
    (s.addRanges rs).contains c = (s.contains c || rs.any (·.contains c)) := by
  induction rs generalizing s with
  | nil => simp [addRanges]
  | cons r rest ih =>
    have hr := hrs r List.mem_cons_self
    rw [addRanges, List.foldl_cons, ← addRanges, ih (hs.addRange hr)
      fun x hx => hrs x (List.mem_cons_of_mem r hx), contains_addRange hs, List.any_cons,
      Bool.or_assoc]
    rfl

/-- Inserting the ranges of a list in normal form, each after all ranges so far, appends them. -/
theorem foldl_insertRange_of_after {acc rs : List CodePointRange} {b : Nat}
    (hacc : ∀ x ∈ acc, x.hi + 2 ≤ b) (hrs : NormalFrom b rs) :
    rs.foldl (fun acc r => insertRange r acc) acc = acc ++ rs := by
  induction rs generalizing acc b with
  | nil => simp
  | cons r rest ih =>
    obtain ⟨hb, hr, hrest⟩ := hrs
    rw [List.foldl_cons, insertRange_of_after (fun x hx => by have := hacc x hx; omega)]
    rw [ih (b := r.hi + 2) _ hrest, List.append_assoc, List.singleton_append]
    intro x hx
    rcases List.mem_append.1 hx with hx | hx
    · have := hacc x hx
      simp only [Valid] at hr
      omega
    · rw [List.mem_singleton.1 hx]

/-- Adding the ranges of a set in normal form to the empty set one by one gives that set back,
which is why `union` may copy the other set into an empty one. -/
theorem empty_addRanges {t : CodePointSet} (ht : t.Normal) : empty.addRanges t.ranges = t := by
  rw [addRanges_eq normal_empty ht.valid]
  have h := @foldl_insertRange_of_after [] t.ranges 0 (fun x hx => by cases hx) (normal_iff.1 ht)
  simp only [empty, List.nil_append] at h ⊢
  rw [h]

theorem eq_empty_of_isEmpty {s : CodePointSet} (h : s.ranges.isEmpty = true) : s = empty := by
  obtain ⟨rs⟩ := s
  have hrs : rs = [] := List.isEmpty_iff.1 h
  rw [hrs]
  rfl

/-- The shortcut of `union` for an empty set agrees with adding the other set's ranges. -/
theorem union_eq_addRanges (s : CodePointSet) {t : CodePointSet} (ht : t.Normal) :
    s.union t = s.addRanges t.ranges := by
  rw [union]
  split
  · next hempty => rw [eq_empty_of_isEmpty hempty, empty_addRanges ht]
  · rfl

theorem Normal.union {s t : CodePointSet} (hs : s.Normal) (ht : t.Normal) : (s.union t).Normal := by
  rw [union_eq_addRanges s ht]
  exact hs.addRanges ht.valid

theorem Separated.union {s t : CodePointSet} (hs : s.Separated) (ht : t.Separated) :
    (s.union t).Separated := by
  rw [CodePointSet.union]
  split
  · exact ht
  · exact hs.addRanges ht.1

theorem contains_union {s t : CodePointSet} (hs : s.Separated) (ht : ∀ r ∈ t.ranges, r.lo ≤ r.hi)
    (c : Nat) : (s.union t).contains c = (s.contains c || t.contains c) := by
  rw [union]
  split
  · next hempty => rw [eq_empty_of_isEmpty hempty]; rfl
  · exact contains_addRanges hs ht c

theorem normal_ofRanges {rs : List CodePointRange} (hrs : ∀ r ∈ rs, r.Valid) :
    (ofRanges rs).Normal :=
  normal_empty.addRanges hrs

theorem contains_ofRanges {rs : List CodePointRange} (hrs : ∀ r ∈ rs, r.lo ≤ r.hi) (c : Nat) :
    (ofRanges rs).contains c = rs.any (·.contains c) := by
  rw [ofRanges, contains_addRanges separated_empty hrs]
  rfl

/-! ### Complement and surrogates -/

/-- The gaps of a list in normal form, searched from a start at or below its bound, are in
normal form from that start. -/
theorem normalFrom_gapsFrom {b next : Nat} {rs : List CodePointRange} (h : NormalFrom b rs)
    (hb : next ≤ b) : NormalFrom next (gapsFrom next rs) := by
  induction rs generalizing b next with
  | nil =>
    rw [gapsFrom]
    split
    · next hmax => exact ⟨Nat.le_refl _, ⟨hmax, Nat.le_refl _⟩, trivial⟩
    · trivial
  | cons r rest ih =>
    obtain ⟨hlo, ⟨hr, hmax⟩, hrest⟩ := h
    rw [gapsFrom]
    split
    · next hlt =>
      refine ⟨Nat.le_refl _, ⟨show next ≤ r.lo - 1 by omega, show r.lo - 1 ≤ maxCodePoint by omega⟩,
        ?_⟩
      exact (ih hrest (Nat.le_succ _)).mono (show r.lo - 1 + 2 ≤ r.hi + 1 by omega)
    · exact (ih hrest (Nat.le_succ _)).mono (by omega)

/-- The gaps from `next` hold exactly the code points from `next` to `0x10FFFF` that the list
does not. -/
theorem contains_gapsFrom {b next : Nat} {rs : List CodePointRange} (h : NormalFrom b rs)
    (hb : next ≤ b) (c : Nat) :
    (gapsFrom next rs).any (·.contains c) = true ↔
      next ≤ c ∧ c ≤ maxCodePoint ∧ rs.any (·.contains c) = false := by
  induction rs generalizing b next with
  | nil =>
    rw [gapsFrom]
    split
    · simp only [List.any_cons, List.any_nil, Bool.or_false, contains_iff, and_true]
    · simp only [List.any_nil, Bool.false_eq_true, false_iff, and_true]
      omega
  | cons r rest ih =>
    obtain ⟨hlo, ⟨hr, hmax⟩, hrest⟩ := h
    have hbelow := hrest.not_contains (c := c)
    have hrc : r.contains c = false ↔ ¬ (r.lo ≤ c ∧ c ≤ r.hi) := by
      rw [← contains_iff, Bool.not_eq_true]
    rw [gapsFrom, List.any_cons, Bool.or_eq_false_iff, hrc]
    split
    · next hlt =>
      simp only [List.any_cons, Bool.or_eq_true, contains_iff]
      rw [ih hrest (Nat.le_succ _)]
      constructor
      · rintro (⟨h1, h2⟩ | ⟨h1, h2, h3⟩)
        · exact ⟨h1, by omega, by omega, hbelow (by omega)⟩
        · exact ⟨by omega, h2, by omega, h3⟩
      · rintro ⟨h1, h2, h3, h4⟩
        by_cases hc : c < r.lo
        · exact Or.inl ⟨h1, by omega⟩
        · exact Or.inr ⟨by omega, h2, h4⟩
    · rw [ih hrest (Nat.le_succ _)]
      constructor
      · rintro ⟨h1, h2, h3⟩
        exact ⟨by omega, h2, by omega, h3⟩
      · rintro ⟨h1, h2, h3, h4⟩
        exact ⟨by omega, h2, h4⟩

theorem Normal.complement {s : CodePointSet} (hs : s.Normal) : s.complement.Normal :=
  normal_iff.2 (normalFrom_gapsFrom (normal_iff.1 hs) (Nat.le_refl 0))

/-- The complement holds the code points up to `0x10FFFF` that the set does not. -/
theorem contains_complement {s : CodePointSet} (hs : s.Normal) (c : Nat) :
    s.complement.contains c = true ↔ c ≤ maxCodePoint ∧ s.contains c = false := by
  rw [contains_def, complement, contains_gapsFrom (normal_iff.1 hs) (Nat.le_refl 0)]
  simp only [Nat.zero_le, true_and]
  rfl

/-- The set without the surrogate code points `0xD800` to `0xDFFF`: each range is cut into
its part below the block and its part above it, and an empty part is dropped.  This is what a
class of characters can hold of a set. -/
def withoutSurrogates (s : CodePointSet) : CodePointSet :=
  ⟨s.ranges.flatMap fun r =>
    (if r.lo ≤ min r.hi 0xD7FF then [⟨r.lo, min r.hi 0xD7FF⟩] else []) ++
    (if max r.lo 0xE000 ≤ r.hi then [⟨max r.lo 0xE000, r.hi⟩] else [])⟩

/-- A range with the surrogates cut out: its part below them and its part above them. -/
theorem normalFrom_withoutSurrogates {b : Nat} {rs : List CodePointRange} (h : NormalFrom b rs) :
    NormalFrom b (withoutSurrogates ⟨rs⟩).ranges := by
  induction rs generalizing b with
  | nil => trivial
  | cons r rest ih =>
    obtain ⟨hlo, ⟨hr, hmax⟩, hrest⟩ := h
    have htail := ih hrest
    simp only [withoutSurrogates, List.flatMap_cons] at htail ⊢
    split <;> split <;> simp only [List.cons_append, List.nil_append, normalFrom_cons, Valid]
    · exact ⟨hlo, ⟨by omega, by omega⟩, by omega, ⟨by omega, hmax⟩, htail⟩
    · exact ⟨hlo, ⟨by omega, by omega⟩, htail.mono (by omega)⟩
    · exact ⟨by omega, ⟨by omega, hmax⟩, htail⟩
    · exact htail.mono (by omega)

theorem Normal.withoutSurrogates {s : CodePointSet} (hs : s.Normal) :
    s.withoutSurrogates.Normal :=
  normal_iff.2 (normalFrom_withoutSurrogates (normal_iff.1 hs))

/-- The parts of one range below and above the surrogates hold its code points that are not
surrogates. -/
theorem contains_outsideSurrogates (r : CodePointRange) (c : Nat) :
    ((if r.lo ≤ min r.hi 0xD7FF then [(⟨r.lo, min r.hi 0xD7FF⟩ : CodePointRange)] else []) ++
      (if max r.lo 0xE000 ≤ r.hi then [(⟨max r.lo 0xE000, r.hi⟩ : CodePointRange)] else [])).any
        (·.contains c) =
      (r.contains c && !(decide (0xD800 ≤ c) && decide (c ≤ 0xDFFF))) := by
  apply Bool.eq_iff_iff.2
  split <;> split <;>
    simp only [List.cons_append, List.nil_append, List.any_cons, List.any_nil, Bool.or_false,
      Bool.or_eq_true, Bool.and_eq_true, contains_iff, Bool.not_eq_true', Bool.and_eq_false_iff,
      decide_eq_false_iff_not, Bool.false_eq_true, false_iff] <;> omega

/-- Cutting out the surrogates removes them and nothing else. -/
theorem contains_withoutSurrogates (s : CodePointSet) (c : Nat) :
    s.withoutSurrogates.contains c =
      (s.contains c && !(decide (0xD800 ≤ c) && decide (c ≤ 0xDFFF))) := by
  cases s with
  | mk rs =>
  induction rs with
  | nil => rfl
  | cons r rest ih =>
    simp only [withoutSurrogates, contains_def] at ih ⊢
    rw [List.flatMap_cons, List.any_append, ih, contains_outsideSurrogates, List.any_cons]
    cases r.contains c <;> cases rest.any (·.contains c) <;>
      cases decide (0xD800 ≤ c) && decide (c ≤ 0xDFFF) <;> rfl

/-! ### Bounds -/

/-- The ranges of a list in normal form from `b` cover at most the code points from `b` to
`0x10FFFF`, so that their sizes, summed as `size` sums them, stay below `0x110001`. -/
theorem NormalFrom.foldl_size_le {b : Nat} {rs : List CodePointRange} (h : NormalFrom b rs)
    (acc : Nat) : rs.foldl (fun n r => n + r.size) acc ≤ acc + (maxCodePoint + 1 - b) := by
  induction rs generalizing b acc with
  | nil => exact Nat.le_add_right _ _
  | cons r rest ih =>
    obtain ⟨hlo, ⟨hr, hmax⟩, hrest⟩ := h
    have hnext := ih hrest (acc + r.size)
    rw [List.foldl_cons]
    simp only [CodePointRange.size, maxCodePoint] at hnext hmax ⊢
    omega

/-- A set in normal form has at most `0x110000` members. -/
theorem Normal.size_le {s : CodePointSet} (hs : s.Normal) : s.size ≤ maxCodePoint + 1 := by
  have h := (normal_iff.1 hs).foldl_size_le 0
  rw [size]
  omega

/-- A set in normal form holds code points only. -/
theorem Normal.le_of_contains {s : CodePointSet} {c : Nat} (hs : s.Normal)
    (h : s.contains c = true) : c ≤ maxCodePoint := by
  obtain ⟨r, hr, hrc⟩ := List.any_eq_true.1 h
  have hv := (hs.valid r hr).2
  have hc := contains_iff.1 hrc
  omega

/-! ### Reachable sets -/

/-- The sets built by the constructors, the adding operations and the complement, each given
valid arguments: a code point at most `0x10FFFF`, a valid range, or a set built the same way.
These are the arguments the assertion of `CodePointRange::new` asks for wherever a range is
made. -/
inductive Reachable : CodePointSet → Prop where
  | empty : Reachable empty
  | full : Reachable full
  | ofCodePoint {cp : Nat} : cp ≤ maxCodePoint → Reachable (ofCodePoint cp)
  | ofRange {lo hi : Nat} : lo ≤ hi → hi ≤ maxCodePoint → Reachable (ofRange lo hi)
  | ofRanges {rs : List CodePointRange} : (∀ r ∈ rs, r.Valid) → Reachable (ofRanges rs)
  | addRange {s : CodePointSet} {lo hi : Nat} :
      Reachable s → lo ≤ hi → hi ≤ maxCodePoint → Reachable (s.addRange lo hi)
  | addCodePoint {s : CodePointSet} {cp : Nat} :
      Reachable s → cp ≤ maxCodePoint → Reachable (s.addCodePoint cp)
  | union {s t : CodePointSet} : Reachable s → Reachable t → Reachable (s.union t)
  | complement {s : CodePointSet} : Reachable s → Reachable s.complement

/-- Every set built from the constructors by the adding operations and the complement is in
normal form. -/
theorem Reachable.normal {s : CodePointSet} (h : Reachable s) : s.Normal := by
  induction h with
  | empty => exact normal_empty
  | full => exact normal_iff.2 ⟨Nat.le_refl _, ⟨Nat.zero_le _, Nat.le_refl _⟩, trivial⟩
  | ofCodePoint hcp => exact normal_iff.2 ⟨Nat.zero_le _, ⟨Nat.le_refl _, hcp⟩, trivial⟩
  | ofRange hlo hhi => exact normal_iff.2 ⟨Nat.zero_le _, ⟨hlo, hhi⟩, trivial⟩
  | ofRanges hrs => exact normal_ofRanges hrs
  | addRange _ hlo hhi ih => exact Normal.addRange (r := ⟨_, _⟩) ih ⟨hlo, hhi⟩
  | addCodePoint _ hcp ih => exact ih.addCodePoint hcp
  | union _ _ ihs iht => exact ihs.union iht
  | complement _ ih => exact ih.complement

/-- The adding operations keep normal form and add what they are given: a range, a code point,
or another set.  Adding a valid range by the two searches and the splice is the merge walk on
every set in normal form.  The union's shortcut, which copies the other set into an empty one,
agrees with adding that set's ranges one by one.  A list of valid ranges in any order,
overlapping or touching, becomes a set in normal form with their code points; and every set
built from the constructors, the adding operations and the complement is in normal form. -/
theorem adding_keeps_normal_form :
    (∀ (s : CodePointSet) (r : CodePointRange), s.Normal → r.Valid →
      (s.addRange r.lo r.hi).ranges = insertRange r s.ranges ∧ (s.addRange r.lo r.hi).Normal ∧
        ∀ c, (s.addRange r.lo r.hi).contains c = (s.contains c || r.contains c)) ∧
    (∀ (s : CodePointSet) (cp : Nat), s.Normal → cp ≤ maxCodePoint →
      (s.addCodePoint cp).Normal ∧ ∀ c, (s.addCodePoint cp).contains c = (s.contains c || c == cp)) ∧
    (∀ s t : CodePointSet, s.Normal → t.Normal →
      (s.union t).Normal ∧ (∀ c, (s.union t).contains c = (s.contains c || t.contains c)) ∧
        s.union t = s.addRanges t.ranges) ∧
    (∀ rs : List CodePointRange, (∀ r ∈ rs, r.Valid) →
      (ofRanges rs).Normal ∧ ∀ c, (ofRanges rs).contains c = rs.any (·.contains c)) ∧
    (∀ s, Reachable s → s.Normal) := by
  refine ⟨fun s r hs hr => ⟨?_, hs.addRange hr, fun c => ?_⟩,
    fun s cp hs hcp => ⟨hs.addCodePoint hcp, contains_addCodePoint hs.separated cp⟩,
    fun s t hs ht => ⟨hs.union ht, contains_union hs.separated ht.separated.1,
      union_eq_addRanges s ht⟩,
    fun rs hrs => ⟨normal_ofRanges hrs, contains_ofRanges fun r hr => (hrs r hr).1⟩,
    fun s hreach => hreach.normal⟩
  · rw [addRange_eq_insertRange hs hr.1 hr.2]
  · rw [contains_addRange hs.separated]
    rfl

example : (ofRanges [⟨40, 50⟩, ⟨10, 20⟩, ⟨60, 60⟩, ⟨21, 25⟩, ⟨52, 59⟩]).ranges =
    [⟨10, 25⟩, ⟨40, 50⟩, ⟨52, 60⟩] := by decide +kernel

/-! ### Uniqueness -/

/-- Two range lists in normal form from one bound with the same code points are equal.  Their
first ranges start at the least member and end just before the least non-member above it. -/
theorem eq_of_any_contains {b : Nat} {rs ts : List CodePointRange} (hrs : NormalFrom b rs)
    (hts : NormalFrom b ts) (h : ∀ c, rs.any (·.contains c) = ts.any (·.contains c)) :
    rs = ts := by
  induction rs generalizing b ts with
  | nil =>
    cases ts with
    | nil => rfl
    | cons t trest =>
      have := h t.lo
      simp only [List.any_nil, List.any_cons] at this
      have ht : t.contains t.lo = true := contains_iff.2 ⟨Nat.le_refl _, hts.2.1.1⟩
      rw [ht, Bool.true_or] at this
      cases this
  | cons r rest ih =>
    cases ts with
    | nil =>
      have := h r.lo
      simp only [List.any_nil, List.any_cons] at this
      rw [contains_iff.2 ⟨Nat.le_refl _, hrs.2.1.1⟩, Bool.true_or] at this
      cases this
    | cons t trest =>
      obtain ⟨hbr, hr, hrest⟩ := hrs
      obtain ⟨hbt, ht, htrest⟩ := hts
      -- the code points of a list are those of its head, then those of the rest from the bound on
      have split : ∀ (x : CodePointRange) (xs : List CodePointRange), x.Valid →
          NormalFrom (x.hi + 2) xs → ∀ c, (x :: xs).any (·.contains c) = true ↔
            (x.lo ≤ c ∧ c ≤ x.hi) ∨ (x.hi + 2 ≤ c ∧ xs.any (·.contains c) = true) := by
        intro x xs _ hxs c
        rw [List.any_cons, Bool.or_eq_true, contains_iff]
        constructor
        · rintro (hc | hc)
          · exact Or.inl hc
          · refine Or.inr ⟨?_, hc⟩
            by_contra hlt
            rw [hxs.not_contains (by omega)] at hc
            cases hc
        · rintro (hc | ⟨-, hc⟩)
          · exact Or.inl hc
          · exact Or.inr hc
      have hin : ∀ c, ((r.lo ≤ c ∧ c ≤ r.hi) ∨ (r.hi + 2 ≤ c ∧ rest.any (·.contains c) = true)) ↔
          ((t.lo ≤ c ∧ c ≤ t.hi) ∨ (t.hi + 2 ≤ c ∧ trest.any (·.contains c) = true)) := by
        intro c
        rw [← split r rest hr hrest, ← split t trest ht htrest, h c]
      simp only [Valid] at hr ht
      have hlo : r.lo = t.lo := by
        have h1 := (hin r.lo).1 (Or.inl ⟨Nat.le_refl _, hr.1⟩)
        have h2 := (hin t.lo).2 (Or.inl ⟨Nat.le_refl _, ht.1⟩)
        have hr' := hrest.le_lo
        have ht' := htrest.le_lo
        rcases h1 with h1 | ⟨h1, -⟩ <;> rcases h2 with h2 | ⟨h2, -⟩ <;> omega
      have hhi : r.hi = t.hi := by
        -- the code point just above either head range is in neither list
        have h1 := hin (r.hi + 1)
        have h2 := hin (t.hi + 1)
        by_contra hne
        rcases Nat.lt_or_gt_of_ne hne with hlt | hgt
        · have := h1.2 (Or.inl ⟨by omega, by omega⟩)
          omega
        · have := h2.1 (Or.inl ⟨by omega, by omega⟩)
          omega
      have hrt : r = t := by
        cases r
        cases t
        simp only at hlo hhi
        rw [hlo, hhi]
      subst hrt
      rw [ih hrest htrest fun c => ?_]
      by_cases hc : r.hi + 2 ≤ c
      · have := hin c
        apply Bool.eq_iff_iff.2
        constructor
        · intro hx
          rcases this.1 (Or.inr ⟨hc, hx⟩) with hx' | ⟨-, hx'⟩
          · omega
          · exact hx'
        · intro hx
          rcases this.2 (Or.inr ⟨hc, hx⟩) with hx' | ⟨-, hx'⟩
          · omega
          · exact hx'
      · rw [hrest.not_contains (by omega), htrest.not_contains (by omega)]

/-- A set in normal form is determined by its members. -/
theorem eq_of_contains {s t : CodePointSet} (hs : s.Normal) (ht : t.Normal)
    (h : ∀ c, s.contains c = t.contains c) : s = t := by
  cases s
  cases t
  congr
  exact eq_of_any_contains (normal_iff.1 hs) (normal_iff.1 ht) h

end CodePointSet

end EcmaRegex
