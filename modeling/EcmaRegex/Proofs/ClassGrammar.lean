import Mathlib.Order.Interval.Set.Basic
import EcmaRegex.Lexer.Class
import EcmaRegex.Proofs.EscapeSets
import EcmaRegex.Unicode.Tables
/-!
# Class bodies and the ClassContents grammar

The scanner reads a class body as a loop over atoms, with a look-ahead of one atom for `-`.
The standard describes the same bodies by a grammar (ES2024 22.2.1): ClassContents is empty
or NonemptyClassRanges, and NonemptyClassRanges and NonemptyClassRangesNoDash differ only in
whether their first atom may be a `-` that other atoms follow.  Here the grammar is the
relation `ClassRanges` on the atoms a body decodes to (`AtomsOf`), with the early errors of
the mode folded into its result (`rangeOf`): a range of two code points out of order is
`rangeOutOfOrder`; a range with a class escape as an operand is `invalidClass` in the unicode
grammar, and in the legacy grammar (Annex B, CharacterRangeOrUnion) the union of both operands
and `-`, the parse going on after the second operand.

`class_scan_follows_grammar` says that the scan of a body succeeds only if the body decodes to
atoms up to a `]`, and that on such a body it succeeds exactly when the grammar gives a set,
builds that set before case folding and inversion, and otherwise fails with the grammar's
first early error.  This holds in the unicode grammar for every body.  In the legacy grammar the
scanner reads a class escape before a `-` alone and starts afresh at the `-`; that gives the
grammar's union as long as the atom after the `-` is no `-` and opens no range
(`EscapeBeforeRange`).  Otherwise it does not: `[\d-a-c]` holds `b`, where the grammar reads
`\d-a` as a union and `-c` after it (`escape_before_range_reads_range`).
-/

namespace EcmaRegex

open CodePointSet

namespace Scan

/-- An atom of a class body as the scanner decodes it: the unit `-`, any other code point (a
unit, a surrogate pair in the unicode grammar, or an escape that stands for one code point), or
a class escape, which stands for a set. -/
inductive ClassAtom where
  | dash
  | char (c : Nat)
  | set (s : CodePointSet)
  deriving DecidableEq

namespace ClassAtom

/-- The code point an atom stands for, none for a class escape. -/
def value? : ClassAtom → Option Nat
  | dash => some (unit '-')
  | char c => some c
  | set _ => none

/-- The code points an atom stands for. -/
def chars : ClassAtom → Set Nat
  | dash => {unit '-'}
  | char c => {c}
  | set s => {c | s.contains c = true}

theorem chars_of_value? {a : ClassAtom} {v : Nat} (h : a.value? = some v) : a.chars = {v} := by
  cases a with
  | dash => cases h; rfl
  | char c => cases h; rfl
  | set s => cases h

/-- Only a class escape stands for no single code point. -/
theorem value?_eq_none {a : ClassAtom} : a.value? = none ↔ ∃ s, a = set s := by
  cases a <;> simp [value?]

end ClassAtom

/-- The code points of a range `a-b` of a class, or its early error: two code points out of
order, or in the unicode grammar a class escape as an operand.  The legacy grammar reads a range
with a class escape as an operand as the union of both operands and `-`. -/
def rangeOf (unicode : Bool) (a b : ClassAtom) : Except Problem (Set Nat) :=
  match a.value?, b.value? with
  | some lo, some hi => if hi < lo then .error .rangeOutOfOrder else .ok (Set.Icc lo hi)
  | _, _ => if unicode then .error .invalidClass else .ok (a.chars ∪ b.chars ∪ {unit '-'})

/-- NonemptyClassRanges (`dashFirst`) and NonemptyClassRangesNoDash, with the code points a
parse stands for or the first early error it meets, from left to right.  A parse of
NonemptyClassRangesNoDash starts with a `-` only when the `-` is its one atom. -/
inductive ClassRanges (unicode : Bool) : Bool → List ClassAtom → Except Problem (Set Nat) → Prop
  where
  /-- `ClassAtom` -/
  | last {dashFirst : Bool} (a : ClassAtom) : ClassRanges unicode dashFirst [a] (.ok a.chars)
  /-- `ClassAtom NonemptyClassRangesNoDash` -/
  | more {dashFirst : Bool} {a : ClassAtom} {rest : List ClassAtom} {r : Except Problem (Set Nat)} :
      (dashFirst = true ∨ a ≠ .dash) → ClassRanges unicode false rest r →
      ClassRanges unicode dashFirst (a :: rest) (r.map (a.chars ∪ ·))
  /-- `ClassAtom - ClassAtom ClassContents`, the contents empty -/
  | rangeLast {dashFirst : Bool} {a b : ClassAtom} :
      (dashFirst = true ∨ a ≠ .dash) →
      ClassRanges unicode dashFirst [a, .dash, b] (rangeOf unicode a b)
  /-- `ClassAtom - ClassAtom ClassContents`, the contents not empty -/
  | rangeMore {dashFirst : Bool} {a b : ClassAtom} {rest : List ClassAtom}
      {r : Except Problem (Set Nat)} :
      (dashFirst = true ∨ a ≠ .dash) → ClassRanges unicode true rest r →
      ClassRanges unicode dashFirst (a :: .dash :: b :: rest)
        ((rangeOf unicode a b).bind fun R => r.map (R ∪ ·))

/-- ClassContents: no atom at all, or NonemptyClassRanges. -/
def ClassContents (unicode : Bool) (atoms : List ClassAtom) (r : Except Problem (Set Nat)) :
    Prop :=
  (atoms = [] ∧ r = .ok ∅) ∨ ClassRanges unicode true atoms r

/-- One atom read from a class body after its first unit `c`, leaving `after`: the unit `-`, a
code point read as the scanner reads one, or a class escape and the set it stands for. -/
inductive AtomRead (m : Mode) : Nat → List Nat → ClassAtom → List Nat → Prop where
  | dash {input : List Nat} : AtomRead m (unit '-') input .dash input
  | char {c v : Nat} {input after : List Nat} : c ≠ unit '-' →
      classCodePoint m c input = .ok (.inl v, after) → AtomRead m c input (.char v) after
  | set {c e : Nat} {input mid after : List Nat} {s : CodePointSet} :
      classCodePoint m c input = .ok (.inr e, mid) → classEscape m e mid = .ok (s, after) →
      AtomRead m c input (.set s) after

/-- The atoms of a class body up to its closing `]`, and the input after the `]`. -/
inductive AtomsOf (m : Mode) : List Nat → List ClassAtom → List Nat → Prop where
  | close {rest : List Nat} : AtomsOf m (unit ']' :: rest) [] rest
  | cons {c : Nat} {input after rest : List Nat} {a : ClassAtom} {atoms : List ClassAtom} :
      c ≠ unit ']' → AtomRead m c input a after → AtomsOf m after atoms rest →
      AtomsOf m (c :: input) (a :: atoms) rest

/-- A class escape stands directly before a `-` and another atom, and that atom is a `-` too or
has a `-` and another atom after it.  These are the shapes the legacy scanner reads otherwise
than the grammar: it takes the escape alone and starts afresh at the `-`, which then opens a
range, or leaves the atom after it free to open one. -/
def EscapeBeforeRange (atoms : List ClassAtom) : Prop :=
  ∃ front s b back, atoms = front ++ .set s :: .dash :: b :: back ∧
    (b = .dash ∨ ∃ c tail, back = .dash :: c :: tail)

/-- A scan of a class body matches a result of the grammar: it fails with the grammar's early
error, or it reads the body up to `rest` and builds the class token of a set that holds the
code points of `acc` and those of the grammar's set. -/
def Agrees (m : Mode) (invert : Bool) (acc : CodePointSet) (rest : List Nat)
    (scan : Scanned Token) : Except Problem (Set Nat) → Prop
  | .ok S => ∃ s, scan = .ok (classToken m s invert, rest) ∧
      ∀ c, s.contains c = true ↔ acc.contains c = true ∨ c ∈ S
  | .error p => ∃ rest', scan = .error (p, rest')

/-! ## The scanner, one step at a time -/

section Steps

variable {m : Mode} {invert : Bool} {acc : CodePointSet}

theorem startsWith_dash_cons (c : Nat) (rest : List Nat) :
    startsWith (c :: rest) "-" = (c == unit '-') := by
  simp [startsWith, List.isPrefixOf, eq_comm]

theorem classCodePoint_dash (input : List Nat) :
    classCodePoint m (unit '-') input = .ok (.inl (unit '-'), input) := by
  simp [classCodePoint, Utf16.isHigh, unit]

/-- Only a backslash starts a class escape. -/
theorem eq_backslash_of_classCodePoint {c e : Nat} {input mid : List Nat}
    (h : classCodePoint m c input = .ok (.inr e, mid)) : c = unit '\\' := by
  simp only [classCodePoint] at h
  split at h
  · next hc => exact beq_iff_eq.mp hc
  · split at h <;> cases h

theorem classBody_close (rest : List Nat) :
    classBody m invert acc (unit ']' :: rest) = .ok (classToken m acc invert, rest) := by
  rw [classBody]
  simp

theorem classBody_atom {c : Nat} {input after : List Nat} {acc' : CodePointSet}
    (hc : c ≠ unit ']') (h : classAtom m acc c input = .ok (acc', after)) :
    classBody m invert acc (c :: input) = classBody m invert acc' after := by
  rw [classBody]
  simp only [beq_iff_eq, hc, if_false]
  split <;> simp_all

theorem classBody_atom_error {c : Nat} {input : List Nat} {err : Problem × List Nat}
    (hc : c ≠ unit ']') (h : classAtom m acc c input = .error err) :
    classBody m invert acc (c :: input) = .error err := by
  rw [classBody]
  simp only [beq_iff_eq, hc, if_false]
  split <;> simp_all

theorem classAtom_of_point {c v : Nat} {input after : List Nat}
    (h : classCodePoint m c input = .ok (.inl v, after)) :
    classAtom m acc c input = classRangeFrom m acc v after := by
  simp [classAtom, h]

theorem classAtom_of_escape {c e : Nat} {input mid after : List Nat} {s : CodePointSet}
    (h : classCodePoint m c input = .ok (.inr e, mid)) (hs : classEscape m e mid = .ok (s, after)) :
    classAtom m acc c input =
      if m.unicode && startsWith after "-" && !startsWith after "-]" then
        .error (.invalidClass, after)
      else .ok (acc.union s, after) := by
  simp [classAtom, h, hs]

theorem classRangeFrom_single {lo : Nat} {input : List Nat} (h : startsWith input "-" = false) :
    classRangeFrom m acc lo input = .ok (acc.addCodePoint lo, input) := by
  simp [classRangeFrom, h]

theorem classRangeFrom_dash_close (lo : Nat) (rest : List Nat) :
    classRangeFrom m acc lo (unit '-' :: unit ']' :: rest) =
      .ok ((acc.addCodePoint lo).addCodePoint (unit '-'), unit ']' :: rest) := by
  simp [classRangeFrom, startsWith]

theorem classRangeFrom_point {lo hi h : Nat} {rest after : List Nat} (hh : h ≠ unit ']')
    (hcp : classCodePoint m h rest = .ok (.inl hi, after)) :
    classRangeFrom m acc lo (unit '-' :: h :: rest) = addClassRange acc lo hi after := by
  simp [classRangeFrom, startsWith, hh, hcp]

theorem classRangeFrom_escape_unicode {lo h e : Nat} {rest mid : List Nat} (hh : h ≠ unit ']')
    (hu : m.unicode = true) (hcp : classCodePoint m h rest = .ok (.inr e, mid)) :
    classRangeFrom m acc lo (unit '-' :: h :: rest) = .error (.invalidClass, mid) := by
  simp [classRangeFrom, startsWith, hh, hcp, hu]

theorem classRangeFrom_escape_legacy {lo h e : Nat} {rest mid after : List Nat}
    {s : CodePointSet} (hh : h ≠ unit ']') (hu : m.unicode = false)
    (hcp : classCodePoint m h rest = .ok (.inr e, mid))
    (hs : classEscape m e mid = .ok (s, after)) :
    classRangeFrom m acc lo (unit '-' :: h :: rest) =
      .ok (((acc.addCodePoint lo).addCodePoint (unit '-')).union s, after) := by
  simp [classRangeFrom, startsWith, hh, hcp, hu, hs]

end Steps

/-! ## Atoms read from a body -/

section Atoms

variable {m : Mode} {acc : CodePointSet} {c v : Nat} {input after body out : List Nat}
  {a : ClassAtom} {atoms : List ClassAtom}

/-- An atom that stands for one code point is read as the scanner reads a code point. -/
theorem AtomRead.classCodePoint_eq (h : AtomRead m c input a after) (hv : a.value? = some v) :
    classCodePoint m c input = .ok (.inl v, after) := by
  cases h with
  | dash => cases hv; exact classCodePoint_dash input
  | char _ hcp => cases hv; exact hcp
  | set => cases hv

/-- The first unit of an atom is `-` only for the atom `-`. -/
theorem AtomRead.eq_dash_iff (h : AtomRead m c input a after) : c = unit '-' ↔ a = .dash := by
  cases h with
  | dash => simp
  | char hc => simp [hc]
  | set hcp =>
    have hne : unit '\\' ≠ unit '-' := by decide
    simp [eq_backslash_of_classCodePoint hcp, hne]

theorem AtomRead.classAtom_point (h : AtomRead m c input a after) (hv : a.value? = some v) :
    classAtom m acc c input = classRangeFrom m acc v after :=
  classAtom_of_point (h.classCodePoint_eq hv)

theorem AtomsOf.nil_eq (h : AtomsOf m body [] out) : body = unit ']' :: out := by
  cases h
  rfl

theorem AtomsOf.cons_inv (h : AtomsOf m body (a :: atoms) out) :
    ∃ c input after, body = c :: input ∧ c ≠ unit ']' ∧ AtomRead m c input a after ∧
      AtomsOf m after atoms out := by
  cases h with
  | cons hc hread hatoms => exact ⟨_, _, _, rfl, hc, hread, hatoms⟩

/-- The atom `-` is the unit `-` and nothing after it. -/
theorem AtomsOf.dash_cons (h : AtomsOf m body (.dash :: atoms) out) :
    ∃ tail, body = unit '-' :: tail ∧ AtomsOf m tail atoms out := by
  obtain ⟨c, input, after, rfl, -, hread, hatoms⟩ := h.cons_inv
  cases hread with
  | dash => exact ⟨_, rfl, hatoms⟩

theorem AtomsOf.dash_close (h : AtomsOf m body [.dash] out) :
    body = unit '-' :: unit ']' :: out := by
  obtain ⟨tail, rfl, htail⟩ := h.dash_cons
  rw [htail.nil_eq]

/-- The scanner's look-ahead for `-` sees whether the next atom is the atom `-`. -/
theorem AtomsOf.startsWith_dash (h : AtomsOf m body atoms out) :
    startsWith body "-" = true ↔ atoms.head? = some .dash := by
  cases h with
  | close =>
    have hne : unit ']' ≠ unit '-' := by decide
    simp [startsWith_dash_cons, hne]
  | cons _ hread _ => simp [startsWith_dash_cons, hread.eq_dash_iff]

end Atoms

/-! ## Atoms read by one call of the scanner -/

/-- Reading atoms from `body` adds the code points `R` to the set `acc`, keeping it separated,
and leaves the input `after` of the atoms `rest`, where the scan goes on. -/
def Reads (m : Mode) (invert : Bool) (acc : CodePointSet) (body : List Nat) (R : Set Nat)
    (rest : List ClassAtom) (out : List Nat) : Prop :=
  ∃ acc' after, acc'.Separated ∧ (∀ c, acc'.contains c = true ↔ acc.contains c = true ∨ c ∈ R) ∧
    classBody m invert acc body = classBody m invert acc' after ∧ AtomsOf m after rest out

/-- The scan of a body reads its first atoms as the grammar's result `r` for them says: it fails
with its early error, or it reads their code points and goes on at the atoms `rest`. -/
def ReadsAs (m : Mode) (invert : Bool) (acc : CodePointSet) (body : List Nat)
    (rest : List ClassAtom) (out : List Nat) : Except Problem (Set Nat) → Prop
  | .ok R => Reads m invert acc body R rest out
  | .error p => ∃ rest', classBody m invert acc body = .error (p, rest')

section Reads

variable {m : Mode} {invert : Bool} {acc : CodePointSet} {v : Nat} {body out : List Nat}
  {a b : ClassAtom} {rest : List ClassAtom} {R : Set Nat} {r : Except Problem (Set Nat)}

/-- What is read first is added to what the rest of the body stands for. -/
theorem Reads.agrees (h : Reads m invert acc body R rest out)
    (hrest : ∀ acc' after, acc'.Separated → AtomsOf m after rest out →
      Agrees m invert acc' out (classBody m invert acc' after) r) :
    Agrees m invert acc out (classBody m invert acc body) (r.map (R ∪ ·)) := by
  obtain ⟨acc', after, hsep, hmem, heq, hatoms⟩ := h
  have hr := hrest acc' after hsep hatoms
  rw [heq]
  cases r with
  | error p => exact hr
  | ok S =>
    obtain ⟨s, hs, hmem'⟩ := hr
    refine ⟨s, hs, fun c => ?_⟩
    rw [hmem', hmem]
    show _ ↔ _ ∨ c ∈ R ∪ S
    rw [Set.mem_union, or_assoc]

/-- No atoms before the `]`: the scan closes the class with the set built so far. -/
theorem AtomsOf.agrees_close (h : AtomsOf m body [] out) :
    Agrees m invert acc out (classBody m invert acc body) (.ok ∅) := by
  rw [h.nil_eq, classBody_close]
  exact ⟨acc, rfl, by simp⟩

theorem Reads.agrees_close (h : Reads m invert acc body R [] out) :
    Agrees m invert acc out (classBody m invert acc body) (.ok R) := by
  obtain ⟨acc', after, -, hmem, heq, hatoms⟩ := h
  rw [heq, hatoms.nil_eq, classBody_close]
  exact ⟨acc', rfl, hmem⟩

/-- A code point that no `-` follows is read alone. -/
theorem AtomsOf.reads_point (h : AtomsOf m body (a :: rest) out) (hv : a.value? = some v)
    (hrest : rest.head? ≠ some .dash) (hacc : acc.Separated) :
    Reads m invert acc body a.chars rest out := by
  obtain ⟨c, input, after, rfl, hc, hread, hatoms⟩ := h.cons_inv
  have hnd : startsWith after "-" = false := by
    simpa using hatoms.startsWith_dash.not.mpr hrest
  refine ⟨acc.addCodePoint v, after, hacc.addCodePoint v, fun d => ?_, ?_, hatoms⟩
  · simp [contains_addCodePoint hacc, ClassAtom.chars_of_value? hv]
  · rw [classBody_atom hc (by rw [hread.classAtom_point hv, classRangeFrom_single hnd])]

/-- A class escape is read alone; in the unicode grammar only a `-` that closes the class may
follow it. -/
theorem AtomsOf.reads_set {s : CodePointSet} (h : AtomsOf m body (.set s :: rest) out)
    (hrest : m.unicode = true → rest.head? = some .dash → rest = [.dash]) (hacc : acc.Separated) :
    Reads m invert acc body (ClassAtom.set s).chars rest out := by
  obtain ⟨c, input, after, rfl, hc, hread, hatoms⟩ := h.cons_inv
  cases hread with
  | set hcp hs =>
  -- the unicode grammar's check after a class escape passes: no `-`, or `-]`
  have hpass : (m.unicode && startsWith after "-" && !startsWith after "-]") = false := by
    cases hu : m.unicode
    · rfl
    · by_cases hd : rest.head? = some .dash
      · have hafter : after = unit '-' :: unit ']' :: out := by
          rw [hrest hu hd] at hatoms
          exact hatoms.dash_close
        simp [hafter, startsWith, List.isPrefixOf]
      · have hnd : startsWith after "-" = false := by
          simpa using hatoms.startsWith_dash.not.mpr hd
        simp [hnd]
  have hs' := (classEscape_normal hs).separated
  refine ⟨acc.union s, after, hacc.union hs', fun d => ?_, classBody_atom hc ?_, hatoms⟩
  · simp [contains_union hacc hs'.1, ClassAtom.chars]
  · rw [classAtom_of_escape hcp hs, hpass]
    rfl

theorem ReadsAs.agrees {r₁ : Except Problem (Set Nat)} (h : ReadsAs m invert acc body rest out r₁)
    (hrest : ∀ acc' after, acc'.Separated → AtomsOf m after rest out →
      Agrees m invert acc' out (classBody m invert acc' after) r) :
    Agrees m invert acc out (classBody m invert acc body) (r₁.bind fun R => r.map (R ∪ ·)) := by
  cases r₁ with
  | error p => exact h
  | ok R => exact Reads.agrees h hrest

theorem ReadsAs.agrees_close {r₁ : Except Problem (Set Nat)}
    (h : ReadsAs m invert acc body [] out r₁) :
    Agrees m invert acc out (classBody m invert acc body) r₁ := by
  cases r₁ with
  | error p => exact h
  | ok R => exact Reads.agrees_close h

/-- A code point before a `-` that closes the class is read with the `-`. -/
theorem AtomsOf.scan_point_dash_close (h : AtomsOf m body [a, .dash] out)
    (hv : a.value? = some v) :
    classBody m invert acc body =
      .ok (classToken m ((acc.addCodePoint v).addCodePoint (unit '-')) invert, out) := by
  obtain ⟨c, input, after, rfl, hc, hread, hatoms⟩ := h.cons_inv
  rw [hatoms.dash_close] at hread
  rw [classBody_atom hc (by rw [hread.classAtom_point hv, classRangeFrom_dash_close]),
    classBody_close]

theorem rangeOf_points {u : Bool} {w : Nat} (ha : a.value? = some v) (hb : b.value? = some w) :
    rangeOf u a b = if w < v then .error .rangeOutOfOrder else .ok (Set.Icc v w) := by
  simp [rangeOf, ha, hb]

theorem rangeOf_escape {u : Bool} (h : a.value? = none ∨ b.value? = none) :
    rangeOf u a b =
      if u then .error .invalidClass else .ok (a.chars ∪ b.chars ∪ {unit '-'}) := by
  unfold rangeOf
  split
  · next lo hi hlo hhi => rcases h with h | h <;> simp_all
  · rfl

/-- A range `a-b` is read as the grammar reads it, unless a class escape stands before its `-`
in the legacy grammar. -/
theorem AtomsOf.scan_range (h : AtomsOf m body (a :: .dash :: b :: rest) out)
    (ha : m.unicode = true ∨ a.value? ≠ none) (hacc : acc.Separated) :
    ReadsAs m invert acc body rest out (rangeOf m.unicode a b) := by
  obtain ⟨c, input, after, rfl, hc, hreadA, hatoms⟩ := h.cons_inv
  obtain ⟨tail, rfl, htail⟩ := hatoms.dash_cons
  obtain ⟨d, input', after', rfl, hd, hreadB, hrest⟩ := htail.cons_inv
  cases hva : a.value? with
  | some v =>
    have hscan : classAtom m acc c input = classRangeFrom m acc v (unit '-' :: d :: input') :=
      hreadA.classAtom_point hva
    cases hvb : b.value? with
    | some w =>
      rw [classRangeFrom_point hd (hreadB.classCodePoint_eq hvb)] at hscan
      rw [rangeOf_points hva hvb]
      by_cases hlt : w < v
      · rw [if_pos hlt]
        exact ⟨after', classBody_atom_error hc (by simp [hscan, addClassRange, hlt])⟩
      · rw [if_neg hlt]
        refine ⟨acc.addRange v w, after', hacc.addRange (Nat.not_lt.1 hlt), fun x => ?_,
          classBody_atom hc (by simp [hscan, addClassRange, hlt]), hrest⟩
        simp [contains_addRange hacc]
    | none =>
      obtain ⟨s, rfl⟩ := ClassAtom.value?_eq_none.1 hvb
      cases hreadB with
      | set hcp hs =>
      rw [rangeOf_escape (Or.inr hvb)]
      cases hu : m.unicode
      · -- the legacy grammar's union of both operands and `-`
        rw [classRangeFrom_escape_legacy hd hu hcp hs] at hscan
        have hdash := (hacc.addCodePoint v).addCodePoint (unit '-')
        have hs' := (classEscape_normal hs).separated
        refine ⟨_, after', hdash.union hs', fun x => ?_, classBody_atom hc hscan, hrest⟩
        rw [ClassAtom.chars_of_value? hva]
        simp only [contains_union hdash hs'.1, contains_addCodePoint (hacc.addCodePoint v),
          contains_addCodePoint hacc, Bool.or_eq_true, beq_iff_eq, ClassAtom.chars,
          Set.mem_union, Set.mem_singleton_iff, Set.mem_ofPred_eq]
        tauto
      · rw [classRangeFrom_escape_unicode hd hu hcp] at hscan
        exact ⟨_, classBody_atom_error hc hscan⟩
  | none =>
    have hu : m.unicode = true := ha.resolve_right (by simp [hva])
    rw [rangeOf_escape (Or.inl hva), hu, if_pos rfl]
    obtain ⟨s, rfl⟩ := ClassAtom.value?_eq_none.1 hva
    cases hreadA with
    | set hcp hs =>
    have hne : unit ']' ≠ d := hd.symm
    refine ⟨unit '-' :: d :: input', classBody_atom_error hc ?_⟩
    rw [classAtom_of_escape hcp hs]
    simp [hu, startsWith, List.isPrefixOf, hne]

/-- A body's atoms up to `]` are read one by one, whichever the grammar's parse, so a single
atom that no `-` follows is read alone. -/
theorem AtomsOf.reads_single (h : AtomsOf m body (a :: rest) out)
    (hrest : rest.head? ≠ some .dash) (hacc : acc.Separated) :
    Reads m invert acc body a.chars rest out := by
  cases hv : a.value? with
  | some v => exact h.reads_point hv hrest hacc
  | none =>
    obtain ⟨s, rfl⟩ := ClassAtom.value?_eq_none.1 hv
    exact h.reads_set (fun _ hd => absurd hd hrest) hacc

/-- An atom that opens no range is read alone and the atoms after it as the scan reads them, a
`-` after it being read with it when that `-` closes the class. -/
theorem AtomsOf.agrees_single (h : AtomsOf m body (a :: rest) out)
    (hd : rest.head? = some .dash → rest = [.dash] ∧ r = .ok ClassAtom.dash.chars)
    (hrest : ∀ acc' after, acc'.Separated → AtomsOf m after rest out →
      Agrees m invert acc' out (classBody m invert acc' after) r)
    (hacc : acc.Separated) :
    Agrees m invert acc out (classBody m invert acc body) (r.map (a.chars ∪ ·)) := by
  by_cases hdash : rest.head? = some .dash
  · -- the `-` closes the class
    obtain ⟨rfl, rfl⟩ := hd hdash
    cases hv : a.value? with
    | some v =>
      rw [h.scan_point_dash_close hv]
      refine ⟨_, rfl, fun x => ?_⟩
      show _ ↔ _ ∨ x ∈ a.chars ∪ ClassAtom.dash.chars
      rw [ClassAtom.chars_of_value? hv]
      simp only [contains_addCodePoint (hacc.addCodePoint v), contains_addCodePoint hacc,
        ClassAtom.chars, Bool.or_eq_true, beq_iff_eq, Set.mem_union, Set.mem_singleton_iff]
      tauto
    | none =>
      obtain ⟨s, rfl⟩ := ClassAtom.value?_eq_none.1 hv
      exact (h.reads_set (fun _ _ => rfl) hacc).agrees hrest
  · exact (h.reads_single hdash hacc).agrees hrest

/-- In the legacy grammar a class escape before a `-` is read alone, and so is the `-`.  When the
atom after the `-` is no `-` and opens no range, it is read alone too, and the scan builds the
union of both operands and `-` that the grammar reads. -/
theorem AtomsOf.agrees_escape_dash {s : CodePointSet}
    (h : AtomsOf m body (.set s :: .dash :: b :: rest) out) (hu : m.unicode = false)
    (hb : b ≠ .dash) (hd : rest.head? = some .dash → rest = [.dash] ∧ r = .ok ClassAtom.dash.chars)
    (hrest : ∀ acc' after, acc'.Separated → AtomsOf m after rest out →
      Agrees m invert acc' out (classBody m invert acc' after) r)
    (hacc : acc.Separated) :
    Agrees m invert acc out (classBody m invert acc body)
      (r.map ((ClassAtom.set s).chars ∪ b.chars ∪ {unit '-'} ∪ ·)) := by
  have hescape : Reads m invert acc body (ClassAtom.set s).chars (.dash :: b :: rest) out :=
    h.reads_set (fun h' => absurd h' (by simp [hu])) hacc
  have hscan := hescape.agrees fun _ _ hsep hdash =>
    (hdash.reads_point rfl (by simpa using hb) hsep).agrees fun _ _ hsep' hb' =>
      hb'.agrees_single hd hrest hsep'
  -- the scan's three reads add the same code points as the grammar's union
  cases r with
  | error p => exact hscan
  | ok S =>
    have hunion : (ClassAtom.set s).chars ∪ b.chars ∪ {unit '-'} ∪ S =
        (ClassAtom.set s).chars ∪ (ClassAtom.dash.chars ∪ (b.chars ∪ S)) := by
      show _ = _ ∪ ({unit '-'} ∪ _)
      ac_rfl
    show Agrees m invert acc out _ (.ok ((ClassAtom.set s).chars ∪ b.chars ∪ {unit '-'} ∪ S))
    rw [hunion]
    exact hscan

end Reads

/-! ## The scan follows the grammar -/

section Grammar

variable {m : Mode} {invert : Bool} {u d : Bool} {a b : ClassAtom}
  {atoms rest : List ClassAtom} {r : Except Problem (Set Nat)}

/-- NonemptyClassRangesNoDash starts with `-` only when the `-` is its one atom. -/
theorem ClassRanges.noDash_dash (h : ClassRanges u false (.dash :: rest) r) :
    rest = [] ∧ r = .ok ClassAtom.dash.chars := by
  cases h with
  | last => exact ⟨rfl, rfl⟩
  | more hd => simp at hd
  | rangeLast hd => simp at hd
  | rangeMore hd => simp at hd

/-- NonemptyClassRanges of one atom is that atom. -/
theorem ClassRanges.single (h : ClassRanges u d [a] r) : r = .ok a.chars := by
  cases h with
  | last => rfl
  | more _ hrest => cases hrest

theorem EscapeBeforeRange.cons (h : EscapeBeforeRange rest) (a : ClassAtom) :
    EscapeBeforeRange (a :: rest) := by
  obtain ⟨front, s, b, back, rfl, hshape⟩ := h
  exact ⟨a :: front, s, b, back, rfl, hshape⟩

/-- Where a class escape before a `-` is no `EscapeBeforeRange`, the atom after the `-` is no
`-`, and a `-` after that atom closes the class. -/
theorem EscapeBeforeRange.of_head {s : CodePointSet}
    (h : ¬ EscapeBeforeRange (.set s :: .dash :: b :: rest)) :
    b ≠ .dash ∧ (rest.head? = some .dash → rest = [.dash]) := by
  refine ⟨fun hb => h ⟨[], s, b, rest, rfl, Or.inl hb⟩, fun hd => ?_⟩
  obtain ⟨tail, rfl⟩ := List.head?_eq_some_iff.1 hd
  cases tail with
  | nil => rfl
  | cons c tail => exact absurd ⟨[], s, b, _, rfl, Or.inr ⟨c, tail, rfl⟩⟩ h

/-- The scan of a body follows every parse of its atoms.  The induction is on the parse; each
production is one call of the scanner's atom reader (`Reads`, `ReadsAs`), or two when a code
point comes before a `-` that closes the class.  The set built so far stays separated, so that
every atom adds exactly its code points. -/
theorem ClassRanges.agrees (h : ClassRanges m.unicode d atoms r) {body out : List Nat}
    {acc : CodePointSet} (hatoms : AtomsOf m body atoms out)
    (hslip : m.unicode = true ∨ ¬ EscapeBeforeRange atoms) (hacc : acc.Separated) :
    Agrees m invert acc out (classBody m invert acc body) r := by
  induction h generalizing body acc with
  | last a => exact (hatoms.reads_single (by simp) hacc).agrees_close
  | @more _ a rest r _ hrest ih =>
    have hslip' := hslip.imp_right fun h (h' : EscapeBeforeRange rest) => h (h'.cons a)
    -- NonemptyClassRangesNoDash starts with `-` only when the `-` closes the class
    have hd : rest.head? = some .dash → rest = [.dash] ∧ r = .ok ClassAtom.dash.chars := by
      intro hd
      obtain ⟨tail, rfl⟩ := List.head?_eq_some_iff.1 hd
      obtain ⟨rfl, rfl⟩ := hrest.noDash_dash
      exact ⟨rfl, rfl⟩
    exact hatoms.agrees_single hd (fun _ _ hsep h => ih h hslip' hsep) hacc
  | @rangeLast _ a b _ =>
    by_cases ha : m.unicode = true ∨ a.value? ≠ none
    · exact (hatoms.scan_range ha hacc).agrees_close
    · -- a class escape before the `-` in the legacy grammar, and nothing after the range
      obtain ⟨hu, hv⟩ : m.unicode = false ∧ a.value? = none := by simpa using ha
      obtain ⟨s, rfl⟩ := ClassAtom.value?_eq_none.1 hv
      have hb := (EscapeBeforeRange.of_head (hslip.resolve_left (by simp [hu]))).1
      have hclose : ∀ acc' after, acc'.Separated → AtomsOf m after [] out →
          Agrees m invert acc' out (classBody m invert acc' after) (.ok ∅) :=
        fun _ _ _ h => h.agrees_close
      have hscan := hatoms.agrees_escape_dash hu hb (by simp) hclose hacc
      rw [rangeOf_escape (Or.inl hv), hu, if_neg Bool.false_ne_true]
      simpa only [Except.map, Set.union_empty] using hscan
  | @rangeMore _ a b rest r _ hrest ih =>
    have hslip' :=
      hslip.imp_right fun h (h' : EscapeBeforeRange rest) => h (((h'.cons b).cons .dash).cons a)
    by_cases ha : m.unicode = true ∨ a.value? ≠ none
    · exact (hatoms.scan_range ha hacc).agrees fun _ _ hsep h => ih h hslip' hsep
    · -- a class escape before the `-` in the legacy grammar, read apart from the range
      obtain ⟨hu, hv⟩ : m.unicode = false ∧ a.value? = none := by simpa using ha
      obtain ⟨s, rfl⟩ := ClassAtom.value?_eq_none.1 hv
      obtain ⟨hb, hdash⟩ := EscapeBeforeRange.of_head (hslip.resolve_left (by simp [hu]))
      have hd : rest.head? = some .dash → rest = [.dash] ∧ r = .ok ClassAtom.dash.chars := by
        intro hd
        obtain rfl := hdash hd
        exact ⟨rfl, hrest.single⟩
      rw [rangeOf_escape (Or.inl hv), hu, if_neg Bool.false_ne_true]
      exact hatoms.agrees_escape_dash hu hb hd (fun _ _ hsep h => ih h hslip' hsep) hacc

theorem ClassContents.agrees (h : ClassContents m.unicode atoms r) {body out : List Nat}
    {acc : CodePointSet} (hatoms : AtomsOf m body atoms out)
    (hslip : m.unicode = true ∨ ¬ EscapeBeforeRange atoms) (hacc : acc.Separated) :
    Agrees m invert acc out (classBody m invert acc body) r := by
  rcases h with ⟨rfl, rfl⟩ | h
  · exact hatoms.agrees_close
  · exact h.agrees hatoms hslip hacc

/-- Every atom followed by more atoms has a parse by NonemptyClassRanges, and by
NonemptyClassRangesNoDash unless it is a `-` that other atoms follow. -/
theorem ClassRanges.exists (u d : Bool) (a : ClassAtom) (rest : List ClassAtom)
    (h : d = true ∨ a ≠ .dash ∨ rest = []) : ∃ r, ClassRanges u d (a :: rest) r := by
  obtain ⟨n, hn⟩ : ∃ n, rest.length = n := ⟨_, rfl⟩
  induction n using Nat.strong_induction_on generalizing d a rest with
  | _ n ih =>
  rcases rest with _ | ⟨c, rest⟩
  · exact ⟨_, .last a⟩
  have ha : d = true ∨ a ≠ .dash := h.imp_right fun h => h.resolve_right (List.cons_ne_nil _ _)
  simp only [List.length_cons] at hn
  by_cases hc : c = .dash ∧ rest ≠ []
  · -- a range `a-b`, and the contents after it
    obtain ⟨rfl, hne⟩ := hc
    rcases rest with _ | ⟨b, _ | ⟨x, xs⟩⟩
    · exact absurd rfl hne
    · exact ⟨_, .rangeLast ha⟩
    · simp only [List.length_cons] at hn
      obtain ⟨r, hr⟩ := ih xs.length (by omega) true x xs (Or.inl rfl) rfl
      exact ⟨_, .rangeMore ha hr⟩
  · obtain ⟨r, hr⟩ := ih rest.length (by omega) false c rest (Or.inr (by tauto)) rfl
    exact ⟨_, .more ha hr⟩

theorem ClassContents.exists (u : Bool) (atoms : List ClassAtom) :
    ∃ r, ClassContents u atoms r := by
  cases atoms with
  | nil => exact ⟨_, Or.inl ⟨rfl, rfl⟩⟩
  | cons a rest =>
    obtain ⟨r, hr⟩ := ClassRanges.exists u true a rest (Or.inl rfl)
    exact ⟨r, Or.inr hr⟩

end Grammar

/-! ## What the scan reads decodes to atoms -/

section Decode

variable {m : Mode} {invert : Bool} {acc acc' : CodePointSet} {c : Nat}
  {input after out : List Nat} {atoms : List ClassAtom}

/-- What the scanner reads as one code point is one atom. -/
theorem AtomRead.of_point {v : Nat} (h : classCodePoint m c input = .ok (.inl v, after)) :
    ∃ a, AtomRead m c input a after := by
  by_cases hc : c = unit '-'
  · subst hc
    rw [classCodePoint_dash] at h
    cases h
    exact ⟨_, .dash⟩
  · exact ⟨_, .char hc h⟩

/-- A code point, with the `-` and the code point or class escape after it when the scanner
reads a range, is one atom, or two, or three. -/
theorem AtomsOf.of_classRangeFrom {lo : Nat} {mid : List Nat} {a : ClassAtom}
    (hc : c ≠ unit ']') (hread : AtomRead m c input a mid)
    (h : classRangeFrom m acc lo mid = .ok (acc', after)) (hatoms : AtomsOf m after atoms out) :
    ∃ atoms', AtomsOf m (c :: input) atoms' out := by
  simp only [classRangeFrom] at h
  split at h
  · cases h
    exact ⟨_, .cons hc hread hatoms⟩
  · next hd =>
    obtain ⟨tail, rfl⟩ : ∃ tail, mid = unit '-' :: tail := by
      cases mid with
      | nil => simp [startsWith] at hd
      | cons x tail =>
        simp only [startsWith_dash_cons, beq_iff_eq, Bool.not_eq_true', Bool.not_eq_false] at hd
        exact ⟨tail, by rw [hd]⟩
    have hdash : unit '-' ≠ unit ']' := by decide
    simp only [List.drop_succ_cons, List.drop_zero] at h
    split at h
    · cases h
      cases hatoms
    · next d rest =>
      split at h
      · cases h
        exact ⟨_, .cons hc hread (.cons hdash .dash hatoms)⟩
      · next hne =>
        have hd : d ≠ unit ']' := by simpa using hne
        split at h
        · cases h
        · next hi after' hcp =>
          obtain ⟨b, hreadB⟩ := AtomRead.of_point hcp
          have hafter : after = after' := by
            simp only [addClassRange] at h
            split at h <;> cases h
            rfl
          subst hafter
          exact ⟨_, .cons hc hread (.cons hdash .dash (.cons hd hreadB hatoms))⟩
        · next e mid' hcp =>
          split at h
          · cases h
          · split at h
            · cases h
            · next s after' hs =>
              cases h
              exact ⟨_, .cons hc hread (.cons hdash .dash (.cons hd (.set hcp hs) hatoms))⟩

theorem AtomsOf.of_classAtom (hc : c ≠ unit ']') (h : classAtom m acc c input = .ok (acc', after))
    (hatoms : AtomsOf m after atoms out) : ∃ atoms', AtomsOf m (c :: input) atoms' out := by
  simp only [classAtom] at h
  split at h
  · cases h
  · next lo mid hcp =>
    obtain ⟨a, hread⟩ := AtomRead.of_point hcp
    exact of_classRangeFrom hc hread h hatoms
  · next e mid hcp =>
    split at h
    · cases h
    · next s after' hs =>
      split at h
      · cases h
      · cases h
        exact ⟨_, .cons hc (.set hcp hs) hatoms⟩

/-- The scan of a body succeeds only on a body that decodes to atoms up to a `]`. -/
theorem AtomsOf.of_classBody {body : List Nat} {t : Token}
    (h : classBody m invert acc body = .ok (t, out)) : ∃ atoms, AtomsOf m body atoms out := by
  fun_induction classBody m invert acc body with
  | case1 => cases h
  | case2 acc c input hc =>
    cases h
    rw [beq_iff_eq.mp hc]
    exact ⟨[], .close⟩
  | case3 => cases h
  | case4 acc c input hne acc' after heq _ ih =>
    obtain ⟨atoms, hatoms⟩ := ih h
    exact of_classAtom (by simpa using hne) heq hatoms

end Decode

/-- The scan of a class body follows the ClassContents grammar.  It succeeds only on a body that
decodes to atoms up to a `]`.  On such a body the atoms have a parse; the scan succeeds exactly
when the parse passes the early errors, then with the parse's set before case folding and
inversion, and otherwise fails with the parse's first early error.  In the legacy grammar this
needs that no class escape stands before a `-` whose next atom is a `-` or opens a range. -/
theorem class_scan_follows_grammar (m : Mode) (invert : Bool) (body : List Nat) :
    (∀ t out, classBody m invert .empty body = .ok (t, out) → ∃ atoms, AtomsOf m body atoms out) ∧
      ∀ atoms out, AtomsOf m body atoms out → (m.unicode = true ∨ ¬ EscapeBeforeRange atoms) →
        (∃ r, ClassContents m.unicode atoms r) ∧
        ((∃ t out', classBody m invert .empty body = .ok (t, out')) ↔
          ∃ S, ClassContents m.unicode atoms (.ok S)) ∧
        (∀ S, ClassContents m.unicode atoms (.ok S) →
          ∃ s, classBody m invert .empty body = .ok (classToken m s invert, out) ∧
            ∀ c, s.contains c = true ↔ c ∈ S) ∧
        (∀ p, ClassContents m.unicode atoms (.error p) →
          ∃ rest, classBody m invert .empty body = .error (p, rest)) := by
  refine ⟨fun t out h => AtomsOf.of_classBody h, fun atoms out hatoms hslip => ?_⟩
  have hagrees : ∀ r, ClassContents m.unicode atoms r →
      Agrees m invert .empty out (classBody m invert .empty body) r :=
    fun r hr => hr.agrees hatoms hslip separated_empty
  have hsets : ∀ S, ClassContents m.unicode atoms (.ok S) →
      ∃ s, classBody m invert .empty body = .ok (classToken m s invert, out) ∧
        ∀ c, s.contains c = true ↔ c ∈ S := by
    intro S hS
    obtain ⟨s, hs, hmem⟩ := hagrees _ hS
    exact ⟨s, hs, fun c => by simpa [CodePointSet.contains, CodePointSet.empty] using hmem c⟩
  refine ⟨ClassContents.exists _ atoms, ⟨?_, ?_⟩, hsets, fun p hp => hagrees _ hp⟩
  · -- the parse cannot end in an early error, for the scan would fail with it
    rintro ⟨t, out', ht⟩
    obtain ⟨r, hr⟩ := ClassContents.exists m.unicode atoms
    cases r with
    | ok S => exact ⟨S, hr⟩
    | error p =>
      obtain ⟨rest, he⟩ := hagrees _ hr
      rw [ht] at he
      cases he
  · rintro ⟨S, hS⟩
    obtain ⟨s, hs, -⟩ := hsets S hS
    exact ⟨_, _, hs⟩


/-- In the legacy grammar `[\d-a]` is a range with a class escape as its first operand: the union
of the digits, `-` and `a`.  The scan reads `\d`, `-` and `a` one by one and builds the same set. -/
theorem legacy_escape_to_char_union :
    let m : Mode := ⟨{}, {}, Unicode.tables⟩
    let body := [unit '\\', unit 'd', unit '-', unit 'a', unit ']']
    let atoms := [ClassAtom.set Predefined.digits, .dash, .char (unit 'a')]
    let S := {c | Predefined.digits.contains c = true} ∪ {unit 'a'} ∪ {unit '-'}
    AtomsOf m body atoms [] ∧ ¬ EscapeBeforeRange atoms ∧ ClassContents m.unicode atoms (.ok S) ∧
      ∃ s, classBody m false .empty body = .ok (classToken m s false, []) ∧
        ∀ c, s.contains c = true ↔ c ∈ S := by
  intro m body atoms S
  have hatoms : AtomsOf m body atoms [] :=
    .cons (by decide) (.set rfl rfl)
      (.cons (by decide) .dash (.cons (by decide) (.char (by decide) rfl) .close))
  -- the atom after the `-` is the last one
  have hno : ¬ EscapeBeforeRange atoms := by
    rintro ⟨front, s, b, back, h, hshape⟩
    rcases front with _ | ⟨x, _ | ⟨y, _ | ⟨z, front⟩⟩⟩ <;> simp [atoms] at h
    obtain ⟨-, rfl, rfl⟩ := h
    simp at hshape
  have hS : ClassContents m.unicode atoms (.ok S) := Or.inr (.rangeLast (Or.inl rfl))
  exact ⟨hatoms, hno, hS,
    ((class_scan_follows_grammar m false body).2 atoms [] hatoms (Or.inr hno)).2.2.1 S hS⟩

/-- In the legacy grammar the scanner reads a class escape before a `-` alone and starts afresh
at the `-`, so that `[\d-a-c]` holds `b`.  The grammar reads `\d-a` as the union of the digits,
`a` and `-`, then `-c`, and leaves `b` out. -/
theorem escape_before_range_reads_range :
    let m : Mode := ⟨{}, {}, Unicode.tables⟩
    let body := [unit '\\', unit 'd', unit '-', unit 'a', unit '-', unit 'c', unit ']']
    let atoms :=
      [ClassAtom.set Predefined.digits, .dash, .char (unit 'a'), .dash, .char (unit 'c')]
    AtomsOf m body atoms [] ∧ EscapeBeforeRange atoms ∧
      (∃ S, ClassContents m.unicode atoms (.ok S) ∧ unit 'b' ∉ S) ∧
      ∃ s, classBody m false .empty body = .ok (classToken m s false, []) ∧
        s.contains (unit 'b') = true := by
  intro m body atoms
  have hatoms : AtomsOf m body atoms [] :=
    .cons (by decide) (.set rfl rfl) (.cons (by decide) .dash (.cons (by decide)
      (.char (by decide) rfl) (.cons (by decide) .dash (.cons (by decide) (.char (by decide) rfl)
        .close))))
  -- the parse: `\d-a` by Annex B, then `-` and `c`
  let S := {c | Predefined.digits.contains c = true} ∪ {unit 'a'} ∪ {unit '-'} ∪
    ({unit '-'} ∪ {unit 'c'})
  have hS : ClassContents m.unicode atoms (.ok S) :=
    Or.inr (.rangeMore (Or.inl rfl) (.more (Or.inl rfl) (.last _)))
  have hb : unit 'b' ∉ S := by
    simp only [S, unit, Set.mem_union, Set.mem_singleton_iff, Set.mem_ofPred_eq, not_or]
    decide
  -- the scan: `\d` alone, then `-` alone, then the range `a-c`
  let s := ((CodePointSet.empty.union Predefined.digits).addCodePoint (unit '-')).addRange
    (unit 'a') (unit 'c')
  have hscan : classBody m false .empty body = .ok (classToken m s false, []) := by
    have h₁ : classAtom m .empty (unit '\\') [unit 'd', unit '-', unit 'a', unit '-', unit 'c',
        unit ']'] =
        .ok (CodePointSet.empty.union Predefined.digits,
          [unit '-', unit 'a', unit '-', unit 'c', unit ']']) := rfl
    have h₂ : classAtom m (CodePointSet.empty.union Predefined.digits) (unit '-')
        [unit 'a', unit '-', unit 'c', unit ']'] =
        .ok ((CodePointSet.empty.union Predefined.digits).addCodePoint (unit '-'),
          [unit 'a', unit '-', unit 'c', unit ']']) := rfl
    have h₃ : classAtom m ((CodePointSet.empty.union Predefined.digits).addCodePoint (unit '-'))
        (unit 'a') [unit '-', unit 'c', unit ']'] = .ok (s, [unit ']']) := rfl
    show classBody m false .empty
      [unit '\\', unit 'd', unit '-', unit 'a', unit '-', unit 'c', unit ']'] = _
    rw [classBody_atom (by decide) h₁, classBody_atom (by decide) h₂,
      classBody_atom (by decide) h₃, classBody_close]
  exact ⟨hatoms, ⟨[], _, _, _, rfl, Or.inr ⟨_, _, rfl⟩⟩, ⟨S, hS, hb⟩, s, hscan, by decide +kernel⟩

end Scan

end EcmaRegex
