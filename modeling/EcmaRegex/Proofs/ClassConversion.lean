import EcmaRegex.Proofs.EscapeSets
import EcmaRegex.Proofs.ByteRanges
/-!
# Handing sets to the Unicode library and back

A code point set goes to the Unicode library as a class of characters and comes back as a set.
The way there cuts every range around the surrogates (`classPieces`) and keeps a part when it is
not empty and both its ends are characters; for a range of a set in normal form every nonempty
part passes, so the parts are exactly the ranges of `CodePointSet.withoutSurrogates`
(`classPieces_codeRanges`).  Whatever order the library then puts them in, the class covers the
members of the set that are not surrogates (`covers_toClass`).  The way back reads the ranges of
any class into a set in normal form with the same members (`normal_fromClass`,
`contains_fromClass`, with the sets of the class escapes).

The round trip is therefore the set without its surrogates, as a range list
(`fromClass_toClass`), and the main statement is `class_conversion_drops_surrogates`.
-/

namespace EcmaRegex

open CodePointSet CodePointRange

/-! ## Pieces of a range -/

namespace CharRange

theorem codeRange_new {a b : Char} (h : a.toNat ≤ b.toNat) :
    (CharRange.new a b).codeRange = ⟨a.toNat, b.toNat⟩ := by
  rw [CharRange.new, dif_pos (Char.le_def.2 (UInt32.le_iff_toNat_le.2 h))]
  rfl

end CharRange

/-- A nonempty part whose ends are characters is kept, as the range of the same code points. -/
theorem classPiece?_of_valid {lo hi : Nat} (hlo : lo.isValidChar) (hhi : hi.isValidChar)
    (h : lo ≤ hi) : (classPiece? lo hi).map CharRange.codeRange = some ⟨lo, hi⟩ := by
  have hchar : ∀ {n : Nat}, n.isValidChar → charOfCode? n = some (Char.ofNat n) := fun hn => by
    simp [charOfCode?, hn]
  rw [classPiece?, if_neg (Nat.not_lt.2 h), hchar hlo, hchar hhi, Option.map_some,
    CharRange.codeRange_new (by rw [Utf16.toNat_ofNat hlo, Utf16.toNat_ofNat hhi]; exact h),
    Utf16.toNat_ofNat hlo, Utf16.toNat_ofNat hhi]

/-- A part is kept exactly when it is not empty, when its ends are characters as soon as it is
not empty. -/
theorem classPiece?_codeRange {lo hi : Nat}
    (hvalid : lo ≤ hi → lo.isValidChar ∧ hi.isValidChar) :
    (classPiece? lo hi).map CharRange.codeRange = if lo ≤ hi then some ⟨lo, hi⟩ else none := by
  split
  · next h => exact classPiece?_of_valid (hvalid h).1 (hvalid h).2 h
  · next h => rw [classPiece?, if_pos (Nat.lt_of_not_le h), Option.map_none]

/-- The parts of a valid range are its parts below and above the surrogates, as
`withoutSurrogates` cuts it: no part is lost to the test that its ends are characters. -/
theorem classPieces_codeRanges {r : CodePointRange} (hr : r.Valid) :
    (classPieces r).map CharRange.codeRange =
      (if r.lo ≤ min r.hi 0xD7FF then [(⟨r.lo, min r.hi 0xD7FF⟩ : CodePointRange)] else []) ++
        (if max r.lo 0xE000 ≤ r.hi then [(⟨max r.lo 0xE000, r.hi⟩ : CodePointRange)] else []) := by
  obtain ⟨hlohi, hmax⟩ := hr
  simp only [maxCodePoint] at hmax
  -- the part below ends before the surrogates and the part above starts after them
  have hbelow := @classPiece?_codeRange r.lo (min r.hi 0xD7FF) fun _ =>
    ⟨Or.inl (by omega), Or.inl (by omega)⟩
  have habove := @classPiece?_codeRange (max r.lo 0xE000) r.hi fun _ =>
    ⟨Or.inr ⟨by omega, by omega⟩, Or.inr ⟨by omega, by omega⟩⟩
  rw [classPieces, List.map_filterMap]
  simp only [surrogates, Nat.reduceSub, Nat.reduceAdd, List.filterMap_cons, List.filterMap_nil]
  rw [hbelow, habove]
  by_cases hb : r.lo ≤ min r.hi 0xD7FF <;> by_cases ha : max r.lo 0xE000 ≤ r.hi <;> simp [hb, ha]

/-- The parts of the ranges of a list of valid ranges are the ranges `withoutSurrogates` makes
of them. -/
theorem classPieces_flatMap {rs : List CodePointRange} (hrs : ∀ r ∈ rs, r.Valid) :
    (rs.flatMap classPieces).map CharRange.codeRange = (withoutSurrogates ⟨rs⟩).ranges := by
  induction rs with
  | nil => rfl
  | cons r rest ih =>
    simp only [withoutSurrogates] at ih ⊢
    rw [List.flatMap_cons, List.map_append, classPieces_codeRanges (hrs r List.mem_cons_self),
      ih fun r' hr' => hrs r' (List.mem_cons_of_mem r hr'), List.flatMap_cons]

/-! ## There and back -/

/-- The class of a set in normal form covers its members that are not surrogates, whatever
order the library puts the parts in. -/
theorem covers_toClass {build : List CharRange → UnicodeClass}
    (hbuild : UnicodeClass.KeepsCover build) {s : CodePointSet} (hs : s.Normal) (n : Nat) :
    (toClass build s).covers n = s.withoutSurrogates.contains n := by
  obtain ⟨rs⟩ := s
  rw [toClass, hbuild, contains_def, ← classPieces_flatMap hs.valid, List.any_map]
  rfl

/-- There and back, a set in normal form loses its surrogates and nothing else, and comes back
as the range list of `withoutSurrogates`. -/
theorem fromClass_toClass {build : List CharRange → UnicodeClass}
    (hbuild : UnicodeClass.KeepsCover build) {s : CodePointSet} (hs : s.Normal) :
    fromClass (toClass build s) = s.withoutSurrogates :=
  eq_of_contains (normal_fromClass _) hs.withoutSurrogates fun n => by
    rw [contains_fromClass, covers_toClass hbuild hs]

/-- A set in normal form goes to the Unicode library as a class covering exactly its members
that are not surrogates; any class comes back as a set in normal form with the members the
class covers; so the round trip is the set without the surrogates `0xD800` to `0xDFFF`. -/
theorem class_conversion_drops_surrogates {build : List CharRange → UnicodeClass}
    (hbuild : UnicodeClass.KeepsCover build) {s : CodePointSet} (hs : s.Normal)
    (c : UnicodeClass) :
    (∀ n, (toClass build s).covers n = true ↔ s.contains n = true ∧ ¬ (0xD800 ≤ n ∧ n ≤ 0xDFFF)) ∧
      ((fromClass c).Normal ∧ ∀ n, (fromClass c).contains n = c.covers n) ∧
      ∀ n, (fromClass (toClass build s)).contains n = true ↔
        s.contains n = true ∧ ¬ (0xD800 ≤ n ∧ n ≤ 0xDFFF) := by
  have hcut : ∀ n, s.withoutSurrogates.contains n = true ↔
      s.contains n = true ∧ ¬ (0xD800 ≤ n ∧ n ≤ 0xDFFF) := fun n => by
    rw [contains_withoutSurrogates]
    simp only [Bool.and_eq_true, Bool.not_eq_true', Bool.and_eq_false_iff, decide_eq_false_iff_not,
      not_and_or]
  refine ⟨fun n => ?_, ⟨normal_fromClass c, contains_fromClass c⟩, fun n => ?_⟩
  · rw [covers_toClass hbuild hs]
    exact hcut n
  · rw [fromClass_toClass hbuild hs]
    exact hcut n

/-- The set `0xD000` to `0xE0FF`, whose two parts the library keeps as they are: its class covers
`0xD7FF`, and the set read back holds `0xE000` but not `0xD800`. -/
theorem surrogate_block_dropped :
    (toClass UnicodeClass.mk (ofRange 0xD000 0xE0FF)).covers 0xD7FF = true ∧
      (fromClass (toClass UnicodeClass.mk (ofRange 0xD000 0xE0FF))).contains 0xD800 = false ∧
      (fromClass (toClass UnicodeClass.mk (ofRange 0xD000 0xE0FF))).contains 0xE000 = true := by
  obtain ⟨hcovers, -, hback⟩ := @class_conversion_drops_surrogates UnicodeClass.mk
    (fun _ _ => rfl) (ofRange 0xD000 0xE0FF) (by decide) ⟨[]⟩
  refine ⟨(hcovers 0xD7FF).2 ⟨by decide, by decide⟩, ?_, (hback 0xE000).2 ⟨by decide, by decide⟩⟩
  exact Bool.eq_false_iff.2 fun h => ((hback 0xD800).1 h).2 ⟨by decide, by decide⟩

end EcmaRegex
