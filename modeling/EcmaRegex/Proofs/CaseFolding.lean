import EcmaRegex.Proofs.CanonicalClasses
import EcmaRegex.Proofs.ClassConversion
/-!
# Case folding as the closure of a relation

Under the `i` flag a class matches a code point when it matches one of the same case, and
`CaseFold.apply` adds to a set what that asks.  Each grammar has its relation of case
(`CaseFold.SameCase`): with the `u` flag, equality or the same simple case folding `scf` of two
characters; without it, the same form under `Canonicalize`.  Both are equivalences, and in either
grammar the fold of a set in normal form is its closure under the relation
(`CaseFold.foldsBy_apply`): a set in normal form that holds exactly the code points related to a
member.

The laws of a closure follow from that alone (`CaseFold.FoldsBy`): the fold holds the set, grows
with it and is closed; a closed set is its own fold, so folding twice folds once; and the
complement of a closed set is closed, which is why a class may be folded before it is complemented.

* Without the `u` flag the fold adds, one code point at a time, every class of `Canonicalize`
  that meets the set, and those classes are its fibres (`CaseFold.contains_canonical`).
* With it the fold goes through the Unicode library: the part of the set that is not a surrogate
  goes to the library as a class, is folded there, comes back and is added to the set.  The
  library is a parameter, and what is asked of it is `UnicodeLibrary.FoldsSimply`: that building
  a class keeps what its ranges cover, and that folding adds exactly the characters of the same
  folding.  The surrogates, which the class leaves out, stay with the set
  (`CaseFold.contains_simple`).
* The empty and the full set are returned as they are, and are closures under any equivalence.
-/

namespace EcmaRegex

namespace CaseFold

open CodePointSet

/-- A character is a code point that is not a surrogate. -/
theorem isValidChar_iff (c : Nat) :
    c.isValidChar ↔ c ≤ maxCodePoint ∧ ¬ (0xD800 ≤ c ∧ c ≤ 0xDFFF) := by
  simp only [Nat.isValidChar, maxCodePoint]
  omega

/-! ### The relations of case -/

/-- Two code points of one case under a simple case folding `scf`: equal, or two characters with
the same folding.  A surrogate is no character, and of no case but its own. -/
def SameSimple (scf : Nat → Nat) (c d : Nat) : Prop :=
  c = d ∨ (c.isValidChar ∧ d.isValidChar ∧ scf c = scf d)

/-- Two code points of one case under `Canonicalize`. -/
def SameCanonical (c d : Nat) : Prop :=
  canonicalize c = canonicalize d

/-- The relation of case of a grammar: simple case folding with the `u` flag, `Canonicalize`
without it. -/
def SameCase (scf : Nat → Nat) : Bool → Nat → Nat → Prop
  | true => SameSimple scf
  | false => SameCanonical

theorem sameSimple_equivalence (scf : Nat → Nat) : Equivalence (SameSimple scf) where
  refl _ := Or.inl rfl
  symm := by
    rintro c d (rfl | ⟨hc, hd, h⟩)
    · exact Or.inl rfl
    · exact Or.inr ⟨hd, hc, h.symm⟩
  trans := by
    rintro c d e (rfl | ⟨hc, hd, hcd⟩) (rfl | ⟨hd', he, hde⟩)
    · exact Or.inl rfl
    · exact Or.inr ⟨hd', he, hde⟩
    · exact Or.inr ⟨hc, hd, hcd⟩
    · exact Or.inr ⟨hc, he, hcd.trans hde⟩

theorem sameCanonical_equivalence : Equivalence SameCanonical where
  refl _ := rfl
  symm h := Eq.symm h
  trans h₁ h₂ := Eq.trans h₁ h₂

theorem sameCase_equivalence (scf : Nat → Nat) : ∀ unicode, Equivalence (SameCase scf unicode)
  | true => sameSimple_equivalence scf
  | false => sameCanonical_equivalence

/-! ### Closures under a relation -/

/-- A set is closed under a relation when it holds every code point related to one of its
members. -/
def ClosedUnder (R : Nat → Nat → Prop) (s : CodePointSet) : Prop :=
  ∀ c d, c ≤ maxCodePoint → R c d → s.contains d = true → s.contains c = true

/-- A fold of the sets in normal form that is their closure under a relation `R`: it keeps normal
form, and holds exactly the code points related to a member. -/
structure FoldsBy (R : Nat → Nat → Prop) (fold : CodePointSet → CodePointSet) : Prop where
  normal : ∀ s, s.Normal → (fold s).Normal
  contains : ∀ s, s.Normal → ∀ c,
    (fold s).contains c = true ↔ c ≤ maxCodePoint ∧ ∃ d, s.contains d = true ∧ R c d

section Closure

variable {R : Nat → Nat → Prop} {fold : CodePointSet → CodePointSet} {s t : CodePointSet}

theorem FoldsBy.contains_of_contains (hf : FoldsBy R fold) (hR : Equivalence R) (hs : s.Normal)
    {c : Nat} (h : s.contains c = true) : (fold s).contains c = true :=
  (hf.contains s hs c).2 ⟨hs.le_of_contains h, c, h, hR.refl c⟩

/-- The fold grows with the set. -/
theorem FoldsBy.mono (hf : FoldsBy R fold) (hs : s.Normal) (ht : t.Normal)
    (hst : ∀ c, s.contains c = true → t.contains c = true) {c : Nat}
    (h : (fold s).contains c = true) : (fold t).contains c = true := by
  obtain ⟨hc, d, hsd, hcd⟩ := (hf.contains s hs c).1 h
  exact (hf.contains t ht c).2 ⟨hc, d, hst d hsd, hcd⟩

/-- The fold is closed: a code point related to one related to a member is related to it. -/
theorem FoldsBy.closed (hf : FoldsBy R fold) (hR : Equivalence R) (hs : s.Normal) :
    ClosedUnder R (fold s) := by
  intro c d hc hcd hd
  obtain ⟨-, e, hse, hde⟩ := (hf.contains s hs d).1 hd
  exact (hf.contains s hs c).2 ⟨hc, e, hse, hR.trans hcd hde⟩

/-- A closed set in normal form is its own fold. -/
theorem FoldsBy.eq_of_closed (hf : FoldsBy R fold) (hR : Equivalence R) (hs : s.Normal)
    (hc : ClosedUnder R s) : fold s = s := by
  apply eq_of_contains (hf.normal s hs) hs
  intro c
  apply Bool.eq_iff_iff.2
  rw [hf.contains s hs c]
  constructor
  · rintro ⟨hle, d, hsd, hcd⟩
    exact hc c d hle hcd hsd
  · intro h
    exact ⟨hs.le_of_contains h, c, h, hR.refl c⟩

/-- The complement of a closed set is closed: a code point related to one outside the set is
outside it, or the other would be inside. -/
theorem ClosedUnder.complement (hR : Equivalence R) (hs : s.Normal) (hc : ClosedUnder R s) :
    ClosedUnder R s.complement := by
  intro c d hcmax hcd hd
  rw [contains_complement hs] at hd ⊢
  refine ⟨hcmax, ?_⟩
  cases hsc : s.contains c
  · rfl
  · rw [hc d c hd.1 (hR.symm hcd) hsc] at hd
    cases hd.2

/-- Folding twice folds once. -/
theorem FoldsBy.fold_fold (hf : FoldsBy R fold) (hR : Equivalence R) (hs : s.Normal) :
    fold (fold s) = fold s :=
  hf.eq_of_closed hR (hf.normal s hs) (hf.closed hR hs)

/-- The complement of a folded set is its own fold. -/
theorem FoldsBy.fold_complement_fold (hf : FoldsBy R fold) (hR : Equivalence R)
    (hs : s.Normal) : fold (fold s).complement = (fold s).complement :=
  hf.eq_of_closed hR (hf.normal s hs).complement
    ((hf.closed hR hs).complement hR (hf.normal s hs))

/-- The empty and the full set are their own closures under any equivalence. -/
theorem contains_of_isEmpty_or_isFull (hR : Equivalence R) (h : (s.isEmpty || s.isFull) = true)
    (c : Nat) : s.contains c = true ↔ c ≤ maxCodePoint ∧ ∃ d, s.contains d = true ∧ R c d := by
  rcases Bool.or_eq_true_iff.1 h with he | hfull
  · have hnil : s.ranges = [] := List.isEmpty_iff.1 he
    simp only [contains_def, hnil, List.any_nil, Bool.false_eq_true, false_and, exists_false,
      and_false]
  · have hr : s.ranges = [⟨0, maxCodePoint⟩] := beq_iff_eq.1 hfull
    have hc : ∀ n, s.contains n = true ↔ n ≤ maxCodePoint := fun n => by
      simp only [contains_def, hr, List.any_cons, List.any_nil, Bool.or_false,
        CodePointRange.contains_iff, Nat.zero_le, true_and]
    constructor
    · intro h
      exact ⟨(hc c).1 h, c, h, hR.refl c⟩
    · rintro ⟨hle, -⟩
      exact (hc c).2 hle

end Closure

/-! ### Closing under classes -/

section Kept

/- What adding a code point keeps, closing under classes of code points keeps: normal form, and
being built from valid arguments. -/
variable (P : CodePointSet → Prop) (hP : ∀ acc c, P acc → c ≤ maxCodePoint → P (acc.addCodePoint c))
include hP

theorem foldl_addCodePoint_kept {cl : List Nat} {acc : CodePointSet} (hacc : P acc)
    (hcl : ∀ c ∈ cl, c ≤ maxCodePoint) : P (cl.foldl addCodePoint acc) := by
  induction cl generalizing acc with
  | nil => exact hacc
  | cons c rest ih =>
    exact ih (hP acc c hacc (hcl c (List.mem_cons_self ..)))
      (fun x hx => hcl x (List.mem_cons_of_mem _ hx))

/-- Adding the classes that meet a set `t`, one after another. -/
theorem foldl_close_kept (t : CodePointSet) {classes : List (List Nat)} {acc : CodePointSet}
    (hacc : P acc) (hcl : ∀ cl ∈ classes, ∀ c ∈ cl, c ≤ maxCodePoint) :
    P (classes.foldl (fun acc cl => if cl.any t.contains then cl.foldl addCodePoint acc else acc)
      acc) := by
  induction classes generalizing acc with
  | nil => exact hacc
  | cons cl rest ih =>
    rw [List.foldl_cons]
    apply ih _ (fun x hx => hcl x (List.mem_cons_of_mem _ hx))
    split
    · exact foldl_addCodePoint_kept P hP hacc (hcl cl (List.mem_cons_self ..))
    · exact hacc

theorem closeUnder_kept {classes : List (List Nat)} {s : CodePointSet} (hs : P s)
    (hcl : ∀ cl ∈ classes, ∀ c ∈ cl, c ≤ maxCodePoint) : P (closeUnder classes s) :=
  foldl_close_kept P hP s hs hcl

end Kept

theorem contains_foldl_addCodePoint (cl : List Nat) {acc : CodePointSet} (hacc : acc.Separated)
    (c : Nat) :
    (cl.foldl addCodePoint acc).contains c = true ↔ acc.contains c = true ∨ c ∈ cl := by
  induction cl generalizing acc with
  | nil => simp
  | cons x rest ih =>
    rw [List.foldl_cons, ih (hacc.addCodePoint x), contains_addCodePoint hacc]
    simp only [Bool.or_eq_true, beq_iff_eq, List.mem_cons, or_assoc]

/-- Adding the classes that meet a set `t` adds exactly their members. -/
theorem contains_foldl_close (t : CodePointSet) {classes : List (List Nat)} {acc : CodePointSet}
    (hacc : acc.Separated) (hcl : ∀ cl ∈ classes, ∀ c ∈ cl, c ≤ maxCodePoint) (c : Nat) :
    (classes.foldl (fun acc cl => if cl.any t.contains then cl.foldl addCodePoint acc else acc)
      acc).contains c = true ↔
      acc.contains c = true ∨ ∃ cl ∈ classes, c ∈ cl ∧ ∃ d ∈ cl, t.contains d = true := by
  induction classes generalizing acc with
  | nil => simp
  | cons cl rest ih =>
    have hsep : ∀ {a : CodePointSet}, a.Separated →
        (if cl.any t.contains then cl.foldl addCodePoint a else a).Separated := fun ha => by
      split
      · exact foldl_addCodePoint_kept _ (fun _ c h _ => h.addCodePoint c) ha
          (hcl cl (List.mem_cons_self ..))
      · exact ha
    rw [List.foldl_cons, ih (hsep hacc) (fun x hx => hcl x (List.mem_cons_of_mem _ hx))]
    split
    · next hmeet =>
      rw [contains_foldl_addCodePoint cl hacc]
      obtain ⟨d, hd, htd⟩ := List.any_eq_true.1 hmeet
      constructor
      · rintro ((h | h) | ⟨cl', hcl', hc, hd'⟩)
        · exact Or.inl h
        · exact Or.inr ⟨cl, List.mem_cons_self .., h, d, hd, htd⟩
        · exact Or.inr ⟨cl', List.mem_cons_of_mem _ hcl', hc, hd'⟩
      · rintro (h | ⟨cl', hcl', hc, hd'⟩)
        · exact Or.inl (Or.inl h)
        · rcases List.mem_cons.1 hcl' with heq | hcl'
          · exact Or.inl (Or.inr (heq ▸ hc))
          · exact Or.inr ⟨cl', hcl', hc, hd'⟩
    · next hmeet =>
      constructor
      · rintro (h | ⟨cl', hcl', hc, hd'⟩)
        · exact Or.inl h
        · exact Or.inr ⟨cl', List.mem_cons_of_mem _ hcl', hc, hd'⟩
      · rintro (h | ⟨cl', hcl', hc, d, hd, htd⟩)
        · exact Or.inl h
        · rcases List.mem_cons.1 hcl' with heq | hcl'
          · exact absurd (List.any_eq_true.2 ⟨d, heq ▸ hd, htd⟩) hmeet
          · exact Or.inr ⟨cl', hcl', hc, d, hd, htd⟩

/-- A set's closure holds its members and the members of every class that meets it. -/
theorem contains_closeUnder {classes : List (List Nat)} {s : CodePointSet} (hs : s.Separated)
    (hcl : ∀ cl ∈ classes, ∀ c ∈ cl, c ≤ maxCodePoint) (c : Nat) :
    (closeUnder classes s).contains c = true ↔
      s.contains c = true ∨ ∃ cl ∈ classes, c ∈ cl ∧ ∃ d ∈ cl, s.contains d = true :=
  contains_foldl_close s hs hcl c

/-! ### Folding without the `u` flag -/

theorem normal_canonical {s : CodePointSet} (hs : s.Normal) : (canonical s).Normal :=
  closeUnder_kept _ (fun _ _ h hc => h.addCodePoint hc) hs canonicalClasses_le

/-- Without the `u` flag the fold of a set holds the code points that `Canonicalize` takes where
it takes a member: the classes added are the fibres of `Canonicalize`. -/
theorem contains_canonical {s : CodePointSet} (hs : s.Normal) (c : Nat) :
    (canonical s).contains c = true ↔
      c ≤ maxCodePoint ∧ ∃ d, s.contains d = true ∧ SameCanonical c d := by
  rw [canonical, contains_closeUnder hs.separated canonicalClasses_le]
  constructor
  · rintro (h | ⟨cl, hcl, hc, d, hd, hsd⟩)
    · exact ⟨hs.le_of_contains h, c, h, rfl⟩
    · exact ⟨canonicalClasses_le cl hcl c hc, d, hsd, canonicalize_eq_of_mem_class hcl hc hd⟩
  · rintro ⟨-, d, hsd, hcd⟩
    by_cases hne : c = d
    · rw [hne]
      exact Or.inl hsd
    · obtain ⟨cl, hcl, hc, hd⟩ := exists_class_of_canonicalize_eq hne hcd
      exact Or.inr ⟨cl, hcl, hc, d, hd, hsd⟩

/-! ### Folding with the `u` flag -/

/-- Whatever the library answers, the fold is in normal form: a class read back is. -/
theorem normal_simple (lib : UnicodeLibrary) {s : CodePointSet} (hs : s.Normal) :
    (simple lib s).Normal := by
  unfold simple
  split
  · exact hs.union (normal_fromClass _)
  · exact hs

/-- With the `u` flag the fold of a set holds its members and the characters with the simple
case folding of a member that is a character.  The class handed to the library covers the
members that are characters, the library adds the characters of the same folding, and the
surrogates stay with the set. -/
theorem contains_simple {lib : UnicodeLibrary} {scf : Nat → Nat} (hlib : lib.FoldsSimply scf)
    {s : CodePointSet} (hs : s.Normal) (c : Nat) :
    (simple lib s).contains c = true ↔
      c ≤ maxCodePoint ∧ ∃ d, s.contains d = true ∧ SameSimple scf c d := by
  obtain ⟨folded, hfold, hcovers⟩ := hlib.foldSimple (toClass lib.classOf s)
  have hclass : ∀ n, (toClass lib.classOf s).covers n = true ↔
      s.contains n = true ∧ n.isValidChar := fun n => by
    rw [covers_toClass hlib.keepsCover hs, contains_withoutSurrogates, isValidChar_iff]
    simp only [Bool.and_eq_true, Bool.not_eq_true', Bool.and_eq_false_iff,
      decide_eq_false_iff_not]
    constructor
    · rintro ⟨h, hsurr⟩
      exact ⟨h, hs.le_of_contains h, by omega⟩
    · rintro ⟨h, -, hsurr⟩
      exact ⟨h, by omega⟩
  rw [simple, hfold, contains_union hs.separated (normal_fromClass folded).separated.1,
    Bool.or_eq_true, contains_fromClass, hcovers]
  simp only [hclass]
  constructor
  · rintro (h | ⟨h, -⟩ | ⟨hc, m, hm, ⟨hsm, -⟩, hk⟩)
    · exact ⟨hs.le_of_contains h, c, h, Or.inl rfl⟩
    · exact ⟨hs.le_of_contains h, c, h, Or.inl rfl⟩
    · exact ⟨((isValidChar_iff c).1 hc).1, m, hsm, Or.inr ⟨hc, hm, hk⟩⟩
  · rintro ⟨-, d, hsd, rfl | ⟨hc, hd, hk⟩⟩
    · exact Or.inl hsd
    · exact Or.inr (Or.inr ⟨hc, d, hd, ⟨hsd, hd⟩, hk⟩)

/-! ### Folding in either grammar -/

/-- Folding a set in normal form, in either grammar and through any library, gives a set in
normal form. -/
theorem normal_apply (lib : UnicodeLibrary) {s : CodePointSet} (hs : s.Normal) (unicode : Bool) :
    (apply lib s unicode).Normal := by
  unfold apply
  split
  · exact hs
  · split
    · exact normal_simple lib hs
    · exact normal_canonical hs

/-- Without the `u` flag folding is the closure under `Canonicalize`, whatever the library. -/
theorem foldsBy_legacy (lib : UnicodeLibrary) : FoldsBy SameCanonical (apply lib · false) := by
  refine ⟨fun s hs => normal_apply lib hs false, fun s hs c => ?_⟩
  unfold apply
  split
  · next hef => exact contains_of_isEmpty_or_isFull sameCanonical_equivalence hef c
  · exact contains_canonical hs c

/-- With the `u` flag, through a library that folds by `scf`, folding is the closure under
simple case folding. -/
theorem foldsBy_unicode {lib : UnicodeLibrary} {scf : Nat → Nat} (hlib : lib.FoldsSimply scf) :
    FoldsBy (SameSimple scf) (apply lib · true) := by
  refine ⟨fun s hs => normal_apply lib hs true, fun s hs c => ?_⟩
  unfold apply
  split
  · next hef => exact contains_of_isEmpty_or_isFull (sameSimple_equivalence scf) hef c
  · exact contains_simple hlib hs c

/-- Folding, through any library, builds from valid arguments: the code points of the classes
of `Canonicalize`, or the ranges of the class the library gives back. -/
theorem reachable_apply (lib : UnicodeLibrary) {s : CodePointSet} (hs : Reachable s)
    (unicode : Bool) : Reachable (apply lib s unicode) := by
  unfold apply
  split
  · exact hs
  · split
    · unfold simple
      split
      · exact hs.union (reachable_fromClass _)
      · exact hs
    · exact closeUnder_kept _ (fun _ _ h hc => h.addCodePoint hc) hs canonicalClasses_le

/-- In either grammar folding is the closure under the grammar's relation of case. -/
theorem foldsBy_apply {lib : UnicodeLibrary} {scf : Nat → Nat} (hlib : lib.FoldsSimply scf) :
    ∀ unicode, FoldsBy (SameCase scf unicode) (apply lib · unicode)
  | true => foldsBy_unicode hlib
  | false => foldsBy_legacy lib

end CaseFold

end EcmaRegex
