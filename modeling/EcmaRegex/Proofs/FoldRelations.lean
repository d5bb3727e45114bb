import EcmaRegex.Proofs.CaseClosure
/-!
# The laws of case folding

In either grammar `CaseFold.apply` is the closure under the grammar's relation of case
(`CaseFold.foldsBy_apply`): without the `u` flag the same form under `Canonicalize`, whatever
the library; with it the same simple case folding, through a library that folds simply.  This
file reads the laws of each fold off that:

* the fold holds the set, grows with it, and folding twice folds once;
* a code point related to none but itself is in the fold exactly when it is in the set, and
  neither relation relates a surrogate to anything else, so folding keeps the surrogates of a set
  as they are;
* a part of the code points that the relation never leaves is folded from that part of the set
  alone, and `Canonicalize` keeps ASCII and the rest apart, so the ASCII part of a legacy fold
  depends only on the ASCII part of the set.
-/

namespace EcmaRegex

namespace CaseFold

open CodePointSet

section Laws

variable {R : Nat → Nat → Prop} {fold : CodePointSet → CodePointSet} {s t : CodePointSet}

/-- A code point related to none but itself is in the fold exactly when it is in the set. -/
theorem FoldsBy.contains_of_isolated (hf : FoldsBy R fold) (hR : Equivalence R) (hs : s.Normal)
    {c : Nat} (hc : ∀ d, R c d → d = c) : (fold s).contains c = s.contains c := by
  apply Bool.eq_iff_iff.2
  rw [hf.contains s hs c]
  constructor
  · rintro ⟨-, d, hsd, hcd⟩
    exact hc d hcd ▸ hsd
  · intro h
    exact ⟨hs.le_of_contains h, c, h, hR.refl c⟩

/-- On a part `P` of the code points that the relation never leaves, the fold depends only on
that part of the set. -/
theorem FoldsBy.contains_congr_part (hf : FoldsBy R fold) (hs : s.Normal) (ht : t.Normal)
    (P : Nat → Prop) (hP : ∀ c d, P c → R c d → P d)
    (hst : ∀ c, P c → s.contains c = t.contains c) {c : Nat} (hc : P c) :
    (fold s).contains c = (fold t).contains c := by
  apply Bool.eq_iff_iff.2
  rw [hf.contains s hs c, hf.contains t ht c]
  constructor
  · rintro ⟨hle, d, hsd, hcd⟩
    exact ⟨hle, d, hst d (hP c d hc hcd) ▸ hsd, hcd⟩
  · rintro ⟨hle, d, htd, hcd⟩
    exact ⟨hle, d, (hst d (hP c d hc hcd)).symm ▸ htd, hcd⟩

end Laws

/-! ### Surrogates and ASCII under the relations -/

/-- `Canonicalize` relates a surrogate to itself alone: it keeps the surrogate, and takes no other
code point to one. -/
theorem sameCanonical_surrogate {c d : Nat} (hc : 0xD800 ≤ c ∧ c ≤ 0xDFFF)
    (h : SameCanonical c d) : d = c := by
  unfold SameCanonical at h
  rw [canonicalize_of_surrogate hc] at h
  by_cases hd : 0xD800 ≤ d ∧ d ≤ 0xDFFF
  · rw [canonicalize_of_surrogate hd] at h
    exact h.symm
  · exact absurd (h ▸ hc) (canonicalize_not_surrogate hd)

/-- A surrogate is no character, so simple case folding relates it to itself alone. -/
theorem sameSimple_surrogate {scf : Nat → Nat} {c d : Nat} (hc : 0xD800 ≤ c ∧ c ≤ 0xDFFF)
    (h : SameSimple scf c d) : d = c := by
  rcases h with rfl | ⟨hvalid, -, -⟩
  · rfl
  · exact absurd hc ((isValidChar_iff c).1 hvalid).2

/-- `Canonicalize` relates ASCII to ASCII only: it takes ASCII into ASCII, and nothing above it
into ASCII. -/
theorem sameCanonical_ascii {c d : Nat} (hc : c < 128) (h : SameCanonical c d) : d < 128 :=
  lt_of_canonicalize_lt (h ▸ canonicalize_lt_of_lt hc)

/-! ### The two closures -/

/-- Without the `u` flag, through any library, folding a set in normal form gives the set, again
in normal form, of the code points that `Canonicalize` takes where it takes some member,
`Canonicalize` keeping each surrogate.  So the fold holds the set, is its own fold and grows with
the set; it keeps the surrogates of the set as they are; and its ASCII part depends only on the
ASCII part of the set. -/
theorem legacy_fold_canonical_closure (lib : UnicodeLibrary) (s : CodePointSet) (hs : s.Normal) :
    (apply lib s false).Normal ∧
      (∀ c, 0xD800 ≤ c ∧ c ≤ 0xDFFF → canonicalize c = c) ∧
      (∀ c, (apply lib s false).contains c = true ↔
        c ≤ maxCodePoint ∧ ∃ d, s.contains d = true ∧ canonicalize c = canonicalize d) ∧
      (∀ c, s.contains c = true → (apply lib s false).contains c = true) ∧
      apply lib (apply lib s false) false = apply lib s false ∧
      (∀ t : CodePointSet, t.Normal → (∀ c, s.contains c = true → t.contains c = true) →
        ∀ c, (apply lib s false).contains c = true → (apply lib t false).contains c = true) ∧
      (∀ c, 0xD800 ≤ c ∧ c ≤ 0xDFFF → (apply lib s false).contains c = s.contains c) ∧
      (∀ t : CodePointSet, t.Normal → (∀ c < 128, s.contains c = t.contains c) →
        ∀ c < 128, (apply lib s false).contains c = (apply lib t false).contains c) := by
  have hf := foldsBy_legacy lib
  have hR := sameCanonical_equivalence
  refine ⟨hf.normal s hs, fun _ hc => canonicalize_of_surrogate hc, hf.contains s hs,
    fun _ h => hf.contains_of_contains hR hs h, hf.fold_fold hR hs,
    fun _ ht hst _ h => hf.mono hs ht hst h,
    fun _ hc => hf.contains_of_isolated hR hs fun _ => sameCanonical_surrogate hc, ?_⟩
  intro t ht hst c hc
  exact hf.contains_congr_part hs ht (· < 128) (fun _ _ => sameCanonical_ascii) hst hc

/-- The long s alone: `Canonicalize` keeps it, since its uppercase form `S` is ASCII. -/
theorem long_s_legacy_fold :
    let s := ofCodePoint 0x17F
    s.Normal ∧ ((apply Unicode.tables s false).Normal ∧
      (∀ c, 0xD800 ≤ c ∧ c ≤ 0xDFFF → canonicalize c = c) ∧
      (∀ c, (apply Unicode.tables s false).contains c = true ↔
        c ≤ maxCodePoint ∧ ∃ d, s.contains d = true ∧ canonicalize c = canonicalize d) ∧
      (∀ c, s.contains c = true → (apply Unicode.tables s false).contains c = true) ∧
      apply Unicode.tables (apply Unicode.tables s false) false = apply Unicode.tables s false ∧
      (∀ t : CodePointSet, t.Normal → (∀ c, s.contains c = true → t.contains c = true) →
        ∀ c, (apply Unicode.tables s false).contains c = true →
          (apply Unicode.tables t false).contains c = true) ∧
      (∀ c, 0xD800 ≤ c ∧ c ≤ 0xDFFF → (apply Unicode.tables s false).contains c = s.contains c) ∧
      (∀ t : CodePointSet, t.Normal → (∀ c < 128, s.contains c = t.contains c) →
        ∀ c < 128, (apply Unicode.tables s false).contains c =
          (apply Unicode.tables t false).contains c)) :=
  ⟨by decide, legacy_fold_canonical_closure Unicode.tables _ (by decide)⟩

/-- With the `u` flag, through a library that folds by the simple case folding `scf`, folding a
set in normal form gives the set, again in normal form, with every character added whose folding
is that of a member that is a character.  So the fold holds the set, is its own fold and grows
with the set, and it holds exactly the surrogates of the set. -/
theorem unicode_fold_simple_closure (lib : UnicodeLibrary) (scf : Nat → Nat)
    (hlib : lib.FoldsSimply scf) (s : CodePointSet) (hs : s.Normal) :
    (apply lib s true).Normal ∧
      (∀ c, (apply lib s true).contains c = true ↔
        s.contains c = true ∨
          (c.isValidChar ∧ ∃ d, d.isValidChar ∧ s.contains d = true ∧ scf c = scf d)) ∧
      (∀ c, s.contains c = true → (apply lib s true).contains c = true) ∧
      apply lib (apply lib s true) true = apply lib s true ∧
      (∀ t : CodePointSet, t.Normal → (∀ c, s.contains c = true → t.contains c = true) →
        ∀ c, (apply lib s true).contains c = true → (apply lib t true).contains c = true) ∧
      (∀ c, 0xD800 ≤ c ∧ c ≤ 0xDFFF → (apply lib s true).contains c = s.contains c) := by
  have hf := foldsBy_unicode hlib
  have hR := sameSimple_equivalence scf
  refine ⟨hf.normal s hs, fun c => ?_, fun _ h => hf.contains_of_contains hR hs h,
    hf.fold_fold hR hs, fun _ ht hst _ h => hf.mono hs ht hst h,
    fun _ hc => hf.contains_of_isolated hR hs fun _ => sameSimple_surrogate hc⟩
  -- a member related to `c` is `c` itself, or a character of its folding
  rw [hf.contains s hs c]
  constructor
  · rintro ⟨-, d, hsd, rfl | ⟨hc, hd, hk⟩⟩
    · exact Or.inl hsd
    · exact Or.inr ⟨hc, d, hd, hsd, hk⟩
  · rintro (h | ⟨hc, d, hd, hsd, hk⟩)
    · exact ⟨hs.le_of_contains h, c, h, Or.inl rfl⟩
    · exact ⟨((isValidChar_iff c).1 hc).1, d, hsd, Or.inr ⟨hc, hd, hk⟩⟩

/-- The high surrogates, which have no case, are their own fold through the library of the
tables. -/
theorem high_surrogates_unicode_fold :
    let s := ofRange 0xD800 0xDBFF
    Unicode.tables.FoldsSimply Unicode.simpleKey ∧ s.Normal ∧
      ((apply Unicode.tables s true).Normal ∧
      (∀ c, (apply Unicode.tables s true).contains c = true ↔
        s.contains c = true ∨ (c.isValidChar ∧ ∃ d, d.isValidChar ∧ s.contains d = true ∧
          Unicode.simpleKey c = Unicode.simpleKey d)) ∧
      (∀ c, s.contains c = true → (apply Unicode.tables s true).contains c = true) ∧
      apply Unicode.tables (apply Unicode.tables s true) true = apply Unicode.tables s true ∧
      (∀ t : CodePointSet, t.Normal → (∀ c, s.contains c = true → t.contains c = true) →
        ∀ c, (apply Unicode.tables s true).contains c = true →
          (apply Unicode.tables t true).contains c = true) ∧
      (∀ c, 0xD800 ≤ c ∧ c ≤ 0xDFFF → (apply Unicode.tables s true).contains c = s.contains c)) :=
  ⟨Unicode.tables_foldsSimply, by decide,
    unicode_fold_simple_closure Unicode.tables Unicode.simpleKey Unicode.tables_foldsSimply _
      (by decide)⟩

end CaseFold

end EcmaRegex
