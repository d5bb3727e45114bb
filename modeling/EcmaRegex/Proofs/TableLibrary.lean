import EcmaRegex.Proofs.CaseFolding
import EcmaRegex.Unicode.Tables
/-!
# The Unicode library of the tables

The statements about case folding take the Unicode library as a parameter and ask of it that it
fold simply, by some simple case folding (`UnicodeLibrary.FoldsSimply`).  The library the
program runs with, `Unicode.tables`, does: it folds by `Unicode.simpleKey`
(`Unicode.tables_foldsSimply`), so every such statement holds of it.

The classes of simple case folding are data, and what the proof needs of them is checked by
evaluating them in the kernel: every member is a character, and no code point is in two classes
(a bitmap records the members seen).  Then two characters have the same key exactly when they are
equal or share a class (`Unicode.simpleKey_eq_iff`), and folding a class by the classes that meet
it adds exactly the characters with the key of a character it covers.

A set is closed under `simpleKey` when each class either misses it or lies inside it, which the
kernel checks over ranges compared with `Nat.ble` (`CodePointSet.inRanges`).
-/

namespace EcmaRegex

open CodePointSet CaseFold

namespace CodePointSet

/-- Whether some range of the list covers the code point, compared with `Nat.ble` so that the
kernel evaluates it directly. -/
def inRanges (c : Nat) : List CodePointRange → Bool
  | [] => false
  | r :: rs => (Nat.ble r.lo c && Nat.ble c r.hi) || inRanges c rs

theorem inRanges_eq_contains (s : CodePointSet) (c : Nat) :
    inRanges c s.ranges = s.contains c := by
  rw [contains_def]
  induction s.ranges with
  | nil => rfl
  | cons r rs ih =>
    rw [inRanges, ih, List.any_cons, CodePointRange.contains]
    congr 2 <;> exact Bool.eq_iff_iff.2 (by simp only [Nat.ble_eq, decide_eq_true_eq])

end CodePointSet

namespace Unicode

/-! ### The classes of simple case folding -/

/-- The classes of simple case folding hold characters only, and no code point is in two of
them. -/
theorem simpleFoldingClasses_checked :
    (simpleFoldingClasses.all fun cl => cl.all fun c =>
        decide (c ≤ maxCodePoint) && !(decide (0xD800 ≤ c) && decide (c ≤ 0xDFFF))) = true ∧
      Bitmap.allFresh 0 simpleFoldingClasses = true :=
  ⟨by decide +kernel, by decide +kernel⟩

theorem isValidChar_of_mem {cl : List Nat} {c : Nat} (hcl : cl ∈ simpleFoldingClasses)
    (hc : c ∈ cl) : c.isValidChar := by
  have h := List.all_eq_true.1 (List.all_eq_true.1 simpleFoldingClasses_checked.1 cl hcl) c hc
  simp only [Bool.and_eq_true, decide_eq_true_eq, Bool.not_eq_true', Bool.and_eq_false_iff,
    decide_eq_false_iff_not] at h
  exact (isValidChar_iff c).2 ⟨h.1, by omega⟩

/-- Two classes of simple case folding with a code point in common are one. -/
theorem eq_of_mem_simpleFoldingClasses {cl₁ cl₂ : List Nat} {c : Nat}
    (h₁ : cl₁ ∈ simpleFoldingClasses) (h₂ : cl₂ ∈ simpleFoldingClasses) (hc₁ : c ∈ cl₁)
    (hc₂ : c ∈ cl₂) : cl₁ = cl₂ :=
  (Bitmap.allFresh_spec simpleFoldingClasses_checked.2).2 cl₁ h₁ cl₂ h₂ c hc₁ hc₂

/-! ### The key of a code point -/

/-- The key of a code point in a class is the first member of that class. -/
theorem simpleKey_of_mem {cl : List Nat} {c : Nat} (hcl : cl ∈ simpleFoldingClasses)
    (hc : c ∈ cl) : simpleKey c = cl.head (List.ne_nil_of_mem hc) := by
  unfold simpleKey
  split
  · next cl' hfind =>
    -- the class found is the one class that holds `c`
    have hcl' : cl' = cl := eq_of_mem_simpleFoldingClasses (List.mem_of_find?_eq_some hfind)
      hcl (List.elem_iff.1 (List.find?_some hfind)) hc
    subst hcl'
    cases cl' with
    | nil => cases hc
    | cons x rest => rfl
  · next hfind => exact absurd (List.elem_iff.2 hc) (List.find?_eq_none.1 hfind cl hcl)

/-- The key of a code point in no class is itself. -/
theorem simpleKey_of_not_mem {c : Nat} (h : ∀ cl ∈ simpleFoldingClasses, c ∉ cl) :
    simpleKey c = c := by
  unfold simpleKey
  split
  · next cl hfind =>
    exact absurd (List.elem_iff.1 (List.find?_some hfind)) (h cl (List.mem_of_find?_eq_some hfind))
  · rfl

/-- Two code points have the same key exactly when they are equal or share a class. -/
theorem simpleKey_eq_iff {c d : Nat} :
    simpleKey c = simpleKey d ↔ c = d ∨ ∃ cl ∈ simpleFoldingClasses, c ∈ cl ∧ d ∈ cl := by
  constructor
  · intro h
    by_cases hc : ∃ cl ∈ simpleFoldingClasses, c ∈ cl <;>
      by_cases hd : ∃ cl ∈ simpleFoldingClasses, d ∈ cl
    · -- the common key is the first member of both classes, which are then one
      obtain ⟨cl, hcl, hcm⟩ := hc
      obtain ⟨cl', hcl', hdm⟩ := hd
      rw [simpleKey_of_mem hcl hcm, simpleKey_of_mem hcl' hdm] at h
      have hk : cl.head (List.ne_nil_of_mem hcm) ∈ cl' := h ▸ List.head_mem _
      rw [← eq_of_mem_simpleFoldingClasses hcl hcl' (List.head_mem _) hk] at hdm
      exact Or.inr ⟨cl, hcl, hcm, hdm⟩
    · obtain ⟨cl, hcl, hcm⟩ := hc
      rw [simpleKey_of_mem hcl hcm, simpleKey_of_not_mem (fun cl hcl hm => hd ⟨cl, hcl, hm⟩)] at h
      exact absurd ⟨cl, hcl, h ▸ List.head_mem _⟩ hd
    · obtain ⟨cl, hcl, hdm⟩ := hd
      rw [simpleKey_of_mem hcl hdm, simpleKey_of_not_mem (fun cl hcl hm => hc ⟨cl, hcl, hm⟩)] at h
      exact absurd ⟨cl, hcl, h ▸ List.head_mem _⟩ hc
    · rw [simpleKey_of_not_mem (fun cl hcl hm => hc ⟨cl, hcl, hm⟩),
        simpleKey_of_not_mem (fun cl hcl hm => hd ⟨cl, hcl, hm⟩)] at h
      exact Or.inl h
  · rintro (rfl | ⟨cl, hcl, hc, hd⟩)
    · rfl
    · rw [simpleKey_of_mem hcl hc, simpleKey_of_mem hcl hd]

/-! ### Folding a class -/

/-- The range of a single character covers that character only. -/
theorem covers_pointRange? {n : Nat} (hn : n.isValidChar) :
    ∃ r, pointRange? n = some r ∧ ∀ m, r.covers m = true ↔ m = n := by
  refine ⟨⟨Char.ofNat n, Char.ofNat n, Char.le_refl _⟩,
    by simp only [pointRange?, charOfCode?, if_pos hn, Option.map_some], fun m => ?_⟩
  simp only [CharRange.covers, CharRange.codeRange, CodePointRange.contains_iff,
    Utf16.toNat_ofNat hn]
  omega

/-- The classes that meet a class add exactly their members. -/
theorem covers_foldByClasses (c : UnicodeClass) (n : Nat) :
    (foldByClasses simpleFoldingClasses c).covers n = true ↔
      c.covers n = true ∨ ∃ cl ∈ simpleFoldingClasses, n ∈ cl ∧ ∃ m ∈ cl, c.covers m = true := by
  simp only [foldByClasses, UnicodeClass.covers, List.any_append, Bool.or_eq_true,
    List.any_flatMap, List.any_eq_true, List.mem_filter, List.mem_filterMap]
  apply or_congr_right
  constructor
  · rintro ⟨cl, ⟨hcl, hmeet⟩, r, ⟨x, hx, hxr⟩, hrn⟩
    obtain ⟨r', hr', hcov⟩ := covers_pointRange? (isValidChar_of_mem hcl hx)
    rw [hxr, Option.some.injEq] at hr'
    subst hr'
    rw [(hcov n).1 hrn]
    exact ⟨cl, hcl, hx, hmeet⟩
  · rintro ⟨cl, hcl, hn, hmeet⟩
    obtain ⟨r, hr, hcov⟩ := covers_pointRange? (isValidChar_of_mem hcl hn)
    exact ⟨cl, ⟨hcl, hmeet⟩, r, ⟨n, hn, hr⟩, (hcov n).2 rfl⟩

/-- The library of the tables folds simply, by `simpleKey`: a class keeps what its ranges cover,
and folding adds the members of the classes that meet it, which are the characters with the key
of a character it covers. -/
theorem tables_foldsSimply : tables.FoldsSimply simpleKey where
  keepsCover _ _ := rfl
  foldSimple c := ⟨_, rfl, fun n => by
    rw [covers_foldByClasses]
    constructor
    · rintro (h | ⟨cl, hcl, hn, m, hm, hcm⟩)
      · exact Or.inl h
      · exact Or.inr ⟨isValidChar_of_mem hcl hn, m, isValidChar_of_mem hcl hm, hcm,
          simpleKey_eq_iff.2 (Or.inr ⟨cl, hcl, hn, hm⟩)⟩
    · rintro (h | ⟨-, m, -, hcm, hk⟩)
      · exact Or.inl h
      · rcases simpleKey_eq_iff.1 hk with rfl | ⟨cl, hcl, hn, hm⟩
        · exact Or.inl hcm
        · exact Or.inr ⟨cl, hcl, hn, m, hm, hcm⟩⟩

/-! ### Sets closed under the classes -/

/-- Whether each class either misses the ranges or lies inside them. -/
def closedCheck (rs : List CodePointRange) : Bool :=
  simpleFoldingClasses.all fun cl => !(cl.any (inRanges · rs)) || cl.all (inRanges · rs)

/-- A set that each class misses or lies in is closed under simple case folding by `simpleKey`:
a character with the key of a member other than itself shares its class. -/
theorem closedUnder_of_closedCheck {s : CodePointSet} (h : closedCheck s.ranges = true) :
    ClosedUnder (SameSimple simpleKey) s := by
  rintro c d - (rfl | ⟨-, -, hk⟩) hd
  · exact hd
  rcases simpleKey_eq_iff.1 hk with rfl | ⟨cl, hcl, hc, hdm⟩
  · exact hd
  have hcheck := List.all_eq_true.1 h cl hcl
  simp only [inRanges_eq_contains, Bool.or_eq_true, Bool.not_eq_true', List.any_eq_false,
    List.all_eq_true] at hcheck
  rcases hcheck with hmiss | hall
  · exact absurd hd (hmiss d hdm)
  · exact hall c hc

end Unicode

end EcmaRegex
