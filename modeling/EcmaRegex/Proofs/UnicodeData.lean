import EcmaRegex.CodePointSet.Basic
import EcmaRegex.CaseFold
/-!
# Facts about the case tables

The tables of case data are data, and what the proofs need of them is checked by evaluating
them in the kernel.  For the uppercase table behind `Canonicalize`: it pairs code points only,
none of them a surrogate, an ASCII code point has an ASCII uppercase form, and every form that
`Canonicalize` takes is one it keeps (`CaseFold.canonicalize_canonicalize`).  The last is checked
with a bitmap, a `Nat` whose bit `c` records the code point `c`, which the kernel evaluates
quickly; the same bitmaps check that the classes of a case folding share no code point.  The
checks on one table are stated as one theorem, so that they run one after another rather than
each beside the others.

From the checks follow the facts about `Canonicalize` as a function that its classes and the
legacy fold rest on: it keeps surrogates, takes nothing else to one, keeps ASCII in ASCII and
takes nothing from outside ASCII into it.
-/

namespace EcmaRegex

open CodePointSet

theorem mem_of_lookup {α β : Type} [BEq α] [LawfulBEq α] {table : List (α × β)} {k : α}
    {v : β} (h : table.lookup k = some v) : (k, v) ∈ table := by
  obtain ⟨l₁, l₂, rfl, -⟩ := List.lookup_eq_some_iff.1 h
  simp

/-- A lookup in a table whose entries all pass a check finds an entry that passes it. -/
theorem check_of_lookup {α β : Type} [BEq α] [LawfulBEq α] {table : List (α × β)}
    {p : β → Bool} (htable : (table.all fun e => p e.2) = true) {k : α} {v : β}
    (h : table.lookup k = some v) : p v = true :=
  List.all_eq_true.1 htable (k, v) (mem_of_lookup h)

/-! ### Bitmaps -/

namespace Bitmap

/-- Record the code point `x` in a bitmap. -/
def insert (bits x : Nat) : Nat := bits ||| 1 <<< x

@[simp] theorem testBit_insert (bits x y : Nat) :
    (insert bits x).testBit y = (bits.testBit y || decide (x = y)) := by
  simp [insert, Nat.one_shiftLeft, Nat.testBit_two_pow]

/-- The bitmap with the members of `xs` recorded, or nothing when one of them is recorded
already, in the bitmap or earlier in `xs`. -/
def insertFresh (bits : Nat) : List Nat → Option Nat
  | [] => some bits
  | x :: xs => if bits.testBit x then none else insertFresh (insert bits x) xs

/-- Whether the lists share no member and none repeats one, counting the members recorded in
the bitmap as seen. -/
def allFresh (bits : Nat) : List (List Nat) → Bool
  | [] => true
  | xs :: rest =>
    match insertFresh bits xs with
    | some bits' => allFresh bits' rest
    | none => false

theorem insertFresh_spec {bits bits' : Nat} {xs : List Nat} (h : insertFresh bits xs = some bits') :
    (∀ x ∈ xs, bits.testBit x = false) ∧
      ∀ y, bits'.testBit y = true ↔ bits.testBit y = true ∨ y ∈ xs := by
  induction xs generalizing bits with
  | nil =>
    cases h
    simp
  | cons x rest ih =>
    simp only [insertFresh] at h
    split at h
    · cases h
    · next hx =>
      obtain ⟨hfresh, hbits⟩ := ih h
      refine ⟨fun y hy => ?_, fun y => ?_⟩
      · rcases List.mem_cons.1 hy with rfl | hy
        · simpa using hx
        · have := hfresh y hy
          simp only [testBit_insert, Bool.or_eq_false_iff] at this
          exact this.1
      · rw [hbits y, testBit_insert]
        simp only [Bool.or_eq_true, decide_eq_true_eq, List.mem_cons]
        constructor
        · rintro ((h | rfl) | h) <;> simp_all
        · rintro (h | rfl | h) <;> simp_all

/-- Lists that pass `allFresh` share no member: two of them with a member in common are one. -/
theorem allFresh_spec {bits : Nat} {lists : List (List Nat)} (h : allFresh bits lists = true) :
    (∀ xs ∈ lists, ∀ x ∈ xs, bits.testBit x = false) ∧
      ∀ xs ∈ lists, ∀ ys ∈ lists, ∀ x ∈ xs, x ∈ ys → xs = ys := by
  induction lists generalizing bits with
  | nil => simp
  | cons xs rest ih =>
    simp only [allFresh] at h
    split at h
    · next bits' hins =>
      obtain ⟨hfresh, hbits⟩ := insertFresh_spec hins
      obtain ⟨hrest, hsep⟩ := ih h
      -- a member of `xs` is recorded in `bits'`, which no member of the later lists is
      have hout : ∀ ys ∈ rest, ∀ x ∈ xs, x ∉ ys := fun ys hys x hx hxy => by
        have := hrest ys hys x hxy
        rw [(hbits x).2 (Or.inr hx)] at this
        cases this
      refine ⟨fun ys hys x hx => ?_, fun as has bs hbs x hxa hxb => ?_⟩
      · rcases List.mem_cons.1 hys with rfl | hys
        · exact hfresh x hx
        · have := hrest ys hys x hx
          cases hb : bits.testBit x
          · rfl
          · rw [(hbits x).2 (Or.inl hb)] at this
            cases this
      · rcases List.mem_cons.1 has with ha | ha <;> rcases List.mem_cons.1 hbs with hb | hb
        · rw [ha, hb]
        · rw [ha] at hxa
          exact absurd hxb (hout bs hb x hxa)
        · rw [hb] at hxb
          exact absurd hxa (hout as ha x hxb)
        · exact hsep as ha bs hb x hxa hxb
    · cases h

/-- The bitmap of the first components of some pairs. -/
def firsts (pairs : List (Nat × Nat)) (bits : Nat) : Nat :=
  pairs.foldl (fun b p => insert b p.1) bits

theorem testBit_firsts {pairs : List (Nat × Nat)} {bits y : Nat}
    (h : (firsts pairs bits).testBit y = false) : bits.testBit y = false ∧ ∀ p ∈ pairs, p.1 ≠ y := by
  induction pairs generalizing bits with
  | nil => exact ⟨h, by simp⟩
  | cons p rest ih =>
    obtain ⟨hb, hrest⟩ := ih h
    simp only [testBit_insert, Bool.or_eq_false_iff, decide_eq_false_iff_not] at hb
    refine ⟨hb.1, fun q hq => ?_⟩
    rcases List.mem_cons.1 hq with rfl | hq
    · exact hb.2
    · exact hrest q hq

end Bitmap

namespace CaseFold

/-- The uppercase forms pair code points only; every uppercase form that `Canonicalize` takes is
no code point with an uppercase form of its own; no code point of the table, nor any uppercase
form in it, is a surrogate; and an ASCII code point has an ASCII uppercase form. -/
theorem uppercasePairs_checked :
    (uppercasePairs.all fun p => decide (p.1 ≤ maxCodePoint) && decide (p.2 ≤ maxCodePoint)) =
        true ∧
      (uppercasePairs.all fun p => (if 128 ≤ p.1 ∧ p.2 < 128 then p.1 else p.2) == p.1 ||
        !((Bitmap.firsts uppercasePairs 0).testBit p.2)) = true ∧
      (uppercasePairs.all fun p =>
        !(decide (0xD800 ≤ p.1) && decide (p.1 ≤ 0xDFFF)) &&
          !(decide (0xD800 ≤ p.2) && decide (p.2 ≤ 0xDFFF)) &&
          (!decide (p.1 < 128) || decide (p.2 < 128))) = true :=
  ⟨by decide +kernel, by decide +kernel, by decide +kernel⟩

/-- `Canonicalize` maps a code point to one it keeps. -/
theorem canonicalize_canonicalize (c : Nat) : canonicalize (canonicalize c) = canonicalize c := by
  cases hu : uppercase? c with
  | none => simp only [canonicalize, hu]
  | some u =>
    have hcheck := List.all_eq_true.1 uppercasePairs_checked.2.1 (c, u) (mem_of_lookup hu)
    simp only [Bool.or_eq_true, beq_iff_eq, Bool.not_eq_true'] at hcheck
    by_cases hk : 128 ≤ c ∧ u < 128
    · have hc : canonicalize c = c := by simp only [canonicalize, hu, if_pos hk]
      rw [hc, hc]
    · have hc : canonicalize c = u := by simp only [canonicalize, hu, if_neg hk]
      rw [hc]
      rw [if_neg hk] at hcheck
      rcases hcheck with huc | hfree
      · subst huc
        exact hc
      · -- the form is no first component of the table, so it has no uppercase form
        have hnone : uppercase? u = none :=
          List.lookup_eq_none_iff.2 fun p hp => by
            simpa using Ne.symm ((Bitmap.testBit_firsts hfree).2 p hp)
        simp only [canonicalize, hnone]

/-- The uppercase forms pair code points only. -/
theorem le_of_mem_uppercasePairs {c u : Nat} (h : (c, u) ∈ uppercasePairs) :
    c ≤ maxCodePoint ∧ u ≤ maxCodePoint := by
  have hp := List.all_eq_true.1 uppercasePairs_checked.1 (c, u) h
  simp only [Bool.and_eq_true, decide_eq_true_eq] at hp
  exact hp

theorem mem_uppercasePairs_plain {c u : Nat} (h : (c, u) ∈ uppercasePairs) :
    ¬ (0xD800 ≤ c ∧ c ≤ 0xDFFF) ∧ ¬ (0xD800 ≤ u ∧ u ≤ 0xDFFF) ∧ (c < 128 → u < 128) := by
  have hp := List.all_eq_true.1 uppercasePairs_checked.2.2 (c, u) h
  simp only [Bool.and_eq_true, Bool.not_eq_true', Bool.and_eq_false_iff, decide_eq_false_iff_not,
    Bool.or_eq_true, decide_eq_true_eq] at hp
  refine ⟨by omega, by omega, fun hc => ?_⟩
  rcases hp.2 with hp | hp
  · exact absurd hc hp
  · exact hp

/-! ### `Canonicalize` -/

/-- `Canonicalize` takes a code point to itself or to its uppercase form. -/
theorem canonicalize_eq_or {c u : Nat} (hu : uppercase? c = some u) :
    canonicalize c = c ∨ canonicalize c = u := by
  simp only [canonicalize, hu]
  split
  · exact Or.inl rfl
  · exact Or.inr rfl

/-- A code point that `Canonicalize` moves is in the uppercase table, and its canonical form
is a code point too. -/
theorem canonicalize_le {c : Nat} (hc : c ≤ maxCodePoint) : canonicalize c ≤ maxCodePoint := by
  unfold canonicalize
  split
  · next u hu =>
    split
    · exact hc
    · exact (le_of_mem_uppercasePairs (mem_of_lookup hu)).2
  · exact hc

/-- `Canonicalize` keeps a surrogate, which has no uppercase form. -/
theorem canonicalize_of_surrogate {c : Nat} (hc : 0xD800 ≤ c ∧ c ≤ 0xDFFF) :
    canonicalize c = c := by
  cases hu : uppercase? c with
  | none => simp only [canonicalize, hu]
  | some u => exact absurd hc (mem_uppercasePairs_plain (mem_of_lookup hu)).1

/-- `Canonicalize` takes no other code point to a surrogate. -/
theorem canonicalize_not_surrogate {c : Nat} (hc : ¬ (0xD800 ≤ c ∧ c ≤ 0xDFFF)) :
    ¬ (0xD800 ≤ canonicalize c ∧ canonicalize c ≤ 0xDFFF) := by
  cases hu : uppercase? c with
  | none => simpa only [canonicalize, hu] using hc
  | some u =>
    rcases canonicalize_eq_or hu with hk | hk
    · rw [hk]
      exact hc
    · rw [hk]
      exact (mem_uppercasePairs_plain (mem_of_lookup hu)).2.1

/-- `Canonicalize` takes an ASCII code point into ASCII. -/
theorem canonicalize_lt_of_lt {c : Nat} (hc : c < 128) : canonicalize c < 128 := by
  cases hu : uppercase? c with
  | none => simpa only [canonicalize, hu] using hc
  | some u =>
    rcases canonicalize_eq_or hu with hk | hk
    · rw [hk]
      exact hc
    · rw [hk]
      exact (mem_uppercasePairs_plain (mem_of_lookup hu)).2.2 hc

/-- A code point that `Canonicalize` takes into ASCII is ASCII: the form of a code point above
ASCII is kept out of it. -/
theorem lt_of_canonicalize_lt {d : Nat} (h : canonicalize d < 128) : d < 128 := by
  cases hu : uppercase? d with
  | none => simpa only [canonicalize, hu] using h
  | some u =>
    simp only [canonicalize, hu] at h
    split at h
    · exact h
    · omega

end CaseFold

end EcmaRegex
