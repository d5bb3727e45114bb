import EcmaRegex.Proofs.ClassTokens
import EcmaRegex.Proofs.TableLibrary
/-!
# Class tokens are closed under case folding

Under the `i` flag every set a lexer hands out is its own case fold.  A set built by
`classToken` has been folded, and complemented after folding for `[^...]`; folding is a closure
and the complement of a closed set is closed (`CaseFold.ClosedUnder.complement`), so the set is
its own fold.  The sets of `\d \D \s \S \w \W` are handed out without folding, which is right
because each of them is already closed under the relation of case of the grammar it is used in:

* without the `u` flag, `Canonicalize` keeps white space and the digits, which have no case, and
  the ASCII word characters, since it never takes a code point outside ASCII into it; the kernel
  checks this over the uppercase table (`Predefined.canonical_checked`);
* with it, the sets are white space, the digits and the word characters with U+017F and U+212A,
  which simple case folding joins to `s` and `k`.  Whether they are closed depends on the case
  data of the library, and is asked of the folding as `Predefined.SimplyClosed`; the folding of
  the tables has it (`Predefined.simplyClosed_simpleKey`).

The escape letter matters: for a unit other than `d D s S w W`, `Scan.predefinedClass` falls
through to the ASCII non-word characters, which simple case folding does not keep.  So the
theorem rests on the lexer asking for a predefined class only after `Scan.isPredefinedClass`.
-/

namespace EcmaRegex

open CodePointSet CaseFold

namespace CaseFold

/-! ### `Canonicalize` over the uppercase table -/

/-- Whether `Canonicalize` keeps each code point with an uppercase form in the ranges, or out
of them. -/
def canonicalCheck (rs : List CodePointRange) : Bool :=
  uppercasePairs.all fun p =>
    inRanges p.1 rs == inRanges (if 128 ≤ p.1 ∧ p.2 < 128 then p.1 else p.2) rs

theorem contains_canonicalize_of_canonicalCheck {s : CodePointSet}
    (h : canonicalCheck s.ranges = true) (c : Nat) :
    s.contains c = s.contains (canonicalize c) := by
  cases hu : uppercase? c with
  | none => simp only [canonicalize, hu]
  | some u =>
    have hcheck := List.all_eq_true.1 h (c, u) (mem_of_lookup hu)
    simp only [inRanges_eq_contains, beq_iff_eq] at hcheck
    simp only [canonicalize, hu]
    exact hcheck

/-- A set that holds a code point exactly when it holds its canonical form is closed under
`Canonicalize`. -/
theorem closedUnder_of_canonicalCheck {s : CodePointSet} (h : canonicalCheck s.ranges = true) :
    ClosedUnder SameCanonical s := by
  rintro c d - hcd hd
  rw [contains_canonicalize_of_canonicalCheck h c, hcd,
    ← contains_canonicalize_of_canonicalCheck h d]
  exact hd

end CaseFold

/-! ### The predefined sets -/

namespace Predefined

/-- What handing out the predefined classes unfolded asks of a simple case folding `scf`: white
space, with and without U+180E, the digits, and the word characters with U+017F and U+212A are
closed under it. -/
structure SimplyClosed (scf : Nat → Nat) : Prop where
  whiteSpace : ClosedUnder (SameSimple scf) whiteSpace
  legacyWhiteSpace : ClosedUnder (SameSimple scf) legacyWhiteSpace
  digits : ClosedUnder (SameSimple scf) digits
  wordCharsIgnoreCase : ClosedUnder (SameSimple scf) wordCharsIgnoreCase

/-- What the kernel checks of the predefined sets of the legacy grammar: `Canonicalize` keeps
white space, with and without U+180E, the digits and the ASCII word characters, and keeps every
other code point out of them. -/
theorem canonical_checked :
    canonicalCheck whiteSpace.ranges = true ∧ canonicalCheck legacyWhiteSpace.ranges = true ∧
      canonicalCheck digits.ranges = true ∧ canonicalCheck wordChars.ranges = true :=
  ⟨by decide +kernel, by decide +kernel, by decide +kernel, by decide +kernel⟩

/-- The predefined sets are closed under the simple case folding of the tables: each class of it
misses them or lies inside them. -/
theorem simplyClosed_simpleKey : SimplyClosed Unicode.simpleKey := by
  have hchecked : Unicode.closedCheck whiteSpace.ranges = true ∧
      Unicode.closedCheck legacyWhiteSpace.ranges = true ∧
      Unicode.closedCheck digits.ranges = true ∧
      Unicode.closedCheck wordCharsIgnoreCase.ranges = true :=
    ⟨by decide +kernel, by decide +kernel, by decide +kernel, by decide +kernel⟩
  exact ⟨Unicode.closedUnder_of_closedCheck hchecked.1,
    Unicode.closedUnder_of_closedCheck hchecked.2.1,
    Unicode.closedUnder_of_closedCheck hchecked.2.2.1,
    Unicode.closedUnder_of_closedCheck hchecked.2.2.2⟩

section Closed

variable {scf : Nat → Nat} (hpre : SimplyClosed scf)
include hpre

theorem whiteSpace_closed : ∀ unicode, ClosedUnder (SameCase scf unicode) whiteSpace
  | true => hpre.whiteSpace
  | false => closedUnder_of_canonicalCheck canonical_checked.1

theorem legacyWhiteSpace_closed : ∀ unicode, ClosedUnder (SameCase scf unicode) legacyWhiteSpace
  | true => hpre.legacyWhiteSpace
  | false => closedUnder_of_canonicalCheck canonical_checked.2.1

theorem digits_closed : ∀ unicode, ClosedUnder (SameCase scf unicode) digits
  | true => hpre.digits
  | false => closedUnder_of_canonicalCheck canonical_checked.2.2.1

end Closed

theorem wordChars_closed : ClosedUnder SameCanonical wordChars :=
  closedUnder_of_canonicalCheck canonical_checked.2.2.2

end Predefined

namespace Scan

theorem mem_of_isPredefinedClass {e : Nat} (h : isPredefinedClass e = true) :
    e ∈ [unit 'd', unit 'D', unit 's', unit 'S', unit 'w', unit 'W'] := by
  have hs : "dDsSwW".toList = ['d', 'D', 's', 'S', 'w', 'W'] := by decide
  simp only [isPredefinedClass, hs, List.any_cons, List.any_nil, Bool.or_false, Bool.or_eq_true,
    beq_iff_eq] at h
  rcases h with h | h | h | h | h | h <;> subst h <;> decide

/-- Under the `i` flag the set of each predefined class escape is closed under the relation of
case of the grammar. -/
theorem predefinedClass_closed {scf : Nat → Nat} (hpre : Predefined.SimplyClosed scf) {m : Mode}
    {e : Nat} (he : isPredefinedClass e = true) (hi : m.flags.ignoreCase = true) :
    ClosedUnder (SameCase scf m.unicode) (predefinedClass m e) := by
  have hR := sameCase_equivalence scf m.unicode
  simp only [predefinedClass, hi, Bool.and_true]
  split
  · split
    · exact Predefined.legacyWhiteSpace_closed hpre _
    · exact Predefined.whiteSpace_closed hpre _
  split
  · split
    · exact (Predefined.legacyWhiteSpace_closed hpre _).complement hR
        Predefined.legacyWhiteSpace_reachable.normal
    · exact (Predefined.whiteSpace_closed hpre _).complement hR
        Predefined.whiteSpace_reachable.normal
  split
  · exact Predefined.digits_closed hpre _
  split
  · exact (Predefined.digits_closed hpre _).complement hR Predefined.digits_reachable.normal
  split
  · split
    · next hu =>
      rw [hu]
      exact hpre.wordCharsIgnoreCase
    · next hu =>
      rw [Bool.eq_false_iff.2 hu]
      exact Predefined.wordChars_closed
  split
  · next hW =>
    simp only [Bool.and_eq_true] at hW
    rw [hW.2]
    exact hpre.wordCharsIgnoreCase.complement (sameSimple_equivalence scf)
      Predefined.wordCharsIgnoreCase_reachable.normal
  · next hs hS hd hD hw hW =>
    -- the escape is `W`, so the grammar is the legacy one
    have heW : e = unit 'W' := by
      have hmem := mem_of_isPredefinedClass he
      simp only [List.mem_cons, List.not_mem_nil, or_false] at hmem
      simp only [beq_iff_eq] at hs hS hd hD hw
      rcases hmem with h | h | h | h | h | h
      · exact absurd h hd
      · exact absurd h hD
      · exact absurd h hs
      · exact absurd h hS
      · exact absurd h hw
      · exact h
    have hu : m.unicode = false := by
      simpa only [heW, beq_self_eq_true, Bool.true_and, Bool.not_eq_true] using hW
    rw [hu]
    exact Predefined.wordChars_closed.complement sameCanonical_equivalence
      Predefined.wordChars_reachable.normal

/-- Under the `i` flag a set built either way is closed under the relation of case of the
grammar, when the library folds by `scf` and the predefined sets are closed under it. -/
theorem ClassBuilt.closed {scf : Nat → Nat} {m : Mode} (hlib : m.library.FoldsSimply scf)
    (hpre : Predefined.SimplyClosed scf) {t : Token} (h : ClassBuilt m t)
    (hi : m.flags.ignoreCase = true) : ∀ s ∈ t.set?, ClosedUnder (SameCase scf m.unicode) s := by
  intro s hs
  have hR := sameCase_equivalence scf m.unicode
  have hf := foldsBy_apply hlib m.unicode
  cases h with
  | @folded base invert hbase =>
    simp only [classToken, hi, if_true, Token.set?, Option.mem_def, Option.some.injEq] at hs
    subst hs
    have hn := hbase.normal
    split
    · exact (hf.closed hR hn).complement hR (hf.normal base hn)
    · exact hf.closed hR hn
  | predefined he =>
    simp only [Token.set?, Option.mem_def, Option.some.injEq] at hs
    subst hs
    exact predefinedClass_closed hpre he hi
  | plain hnone =>
    rw [hnone] at hs
    cases hs

end Scan

namespace Lexer

/-- Under the `i` flag every set that a run of the lexer hands out on 16-bit units is closed
under the relation of case of its grammar, and so is its own case fold: the predefined classes,
handed out without folding, included.  This holds for a library that folds by some simple case
folding `scf` under which the predefined sets of the unicode grammar are closed. -/
theorem classes_case_closed (lib : UnicodeLibrary) (scf : Nat → Nat)
    (hlib : lib.FoldsSimply scf) (hpre : Predefined.SimplyClosed scf) (source : Source)
    (hi : source.flags.ignoreCase = true) (hw : ∀ u ∈ source.units, u < 0x10000)
    (calls : List Call) :
    ∀ r ∈ ((new lib source).session calls).1, ∀ t ∈ r.token?, ∀ s ∈ t.set?,
      ClosedUnder (SameCase scf source.flags.unicode) s ∧
        CaseFold.apply lib s source.flags.unicode = s := by
  intro r hr t ht s hs
  have hb := session_built hw calls r hr t ht
  have hc : ClosedUnder (SameCase scf source.flags.unicode) s := hb.closed hlib hpre hi s hs
  exact ⟨hc, (foldsBy_apply hlib _).eq_of_closed (sameCase_equivalence scf _) (hb.normal s hs) hc⟩

/-- `[^k]` under `iu`, with the library of the tables: the complement of the fold of `k`, which
leaves out `k`, `K` and the Kelvin sign. -/
theorem negated_kelvin_class_closed :
    let source : Source := ⟨[0x5B, 0x5E, 0x6B, 0x5D], { unicode := true, ignoreCase := true }, {}⟩
    Unicode.tables.FoldsSimply Unicode.simpleKey ∧ Predefined.SimplyClosed Unicode.simpleKey ∧
      source.flags.ignoreCase = true ∧ (∀ u ∈ source.units, u < 0x10000) ∧
      ∀ r ∈ ((new Unicode.tables source).session [.nextToken]).1, ∀ t ∈ r.token?, ∀ s ∈ t.set?,
        ClosedUnder (SameCase Unicode.simpleKey true) s ∧ CaseFold.apply Unicode.tables s true = s :=
  ⟨Unicode.tables_foldsSimply, Predefined.simplyClosed_simpleKey, rfl, by decide,
    classes_case_closed _ _ Unicode.tables_foldsSimply Predefined.simplyClosed_simpleKey _ rfl
      (by decide) [.nextToken]⟩

end Lexer

end EcmaRegex
