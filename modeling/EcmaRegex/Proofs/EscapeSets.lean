import EcmaRegex.Lexer.Escape
import EcmaRegex.Proofs.NormalForm
/-!
# The sets of class escapes

A class escape stands for a set taken from one of two places: the tables of the predefined
classes `\d \s \w` and their complements, or the Unicode library, asked through a property
escape.  Every such set is built from valid ranges by the operations of `Reachable`, whatever the
library answers, and so is in normal form.  The library's answer is read back range by range with
`ofRanges`, from ranges of characters, which are valid; a literal comes back as one character;
and the surrogates are added with `addRange` (`Property.lookup_reachable`).

This is what the class scanners need of the sets they add: a set in normal form is separated, and
adding to a separated set adds exactly what it is given (`CodePointSet.contains_union`).
-/

namespace EcmaRegex

open CodePointSet CodePointRange

/-- A character is a code point. -/
theorem char_toNat_le (ch : Char) : ch.toNat ≤ maxCodePoint := by
  have h := ch.valid
  simp only [UInt32.isValidChar, Nat.isValidChar] at h
  simp only [maxCodePoint, Char.toNat]
  omega

namespace CharRange

/-- The range of two characters in order holds code points only. -/
theorem codeRange_valid (r : CharRange) : r.codeRange.Valid :=
  ⟨UInt32.le_iff_toNat_le.1 (Char.le_def.1 r.ordered), char_toNat_le r.stop⟩

end CharRange

/-- Reading a class back gives a set in normal form, whatever the class. -/
theorem normal_fromClass (c : UnicodeClass) : (fromClass c).Normal :=
  normal_ofRanges fun r hr => by
    obtain ⟨r', -, rfl⟩ := List.mem_map.1 hr
    exact r'.codeRange_valid

theorem contains_fromClass (c : UnicodeClass) (n : Nat) : (fromClass c).contains n = c.covers n := by
  have hvalid : ∀ r ∈ c.ranges.map CharRange.codeRange, r.lo ≤ r.hi := fun r hr => by
    obtain ⟨r', -, rfl⟩ := List.mem_map.1 hr
    exact r'.codeRange_valid.1
  rw [fromClass, contains_ofRanges hvalid, List.any_map]
  rfl

/-- A class read back is made of the ranges of its characters, which are valid. -/
theorem reachable_fromClass (c : UnicodeClass) : Reachable (fromClass c) :=
  .ofRanges fun r hr => by
    obtain ⟨r', -, rfl⟩ := List.mem_map.1 hr
    exact r'.codeRange_valid

/-- Whatever the library's parser gives back, the set read from it is built from valid ranges. -/
theorem reachable_fromHir {h : Hir} {s : CodePointSet} (hs : fromHir h = some s) : Reachable s := by
  cases h with
  | unicodeClass c =>
    cases hs
    exact reachable_fromClass c
  | bytesClass ranges =>
    simp only [fromHir] at hs
    split at hs
    · cases hs
      exact .empty
    · cases hs
  | literal bytes =>
    simp only [fromHir] at hs
    split at hs
    · split at hs
      · next ch _ =>
        cases hs
        exact .ofCodePoint (char_toNat_le ch)
      · cases hs
    · cases hs
  | other => cases hs

namespace Property

/-- The set of a query is built from valid ranges, for every library: the surrogates are one. -/
theorem reachable_build {lib : UnicodeLibrary} {q : String} {s : CodePointSet}
    (h : build lib q = some s) : Reachable s := by
  simp only [build] at h
  obtain ⟨base, hbase, rfl⟩ := Option.map_eq_some_iff.1 h
  have hn : Reachable base := by
    split at hbase
    · cases hbase
      exact .empty
    · obtain ⟨hir, -, hir_set⟩ := Option.bind_eq_some_iff.1 hbase
      exact reachable_fromHir hir_set
  split
  · exact hn.addRange (by decide) (by decide)
  · exact hn

/-- Every set a property name stands for is built from valid ranges, for every library. -/
theorem lookup_reachable {lib : UnicodeLibrary} {name : String} {s : CodePointSet}
    (h : lookup lib name = .ok s) : Reachable s := by
  simp only [lookup] at h
  split at h
  · cases h
  · split at h
    · next s' hs =>
      cases h
      exact reachable_build hs
    · cases h

end Property

namespace Predefined

theorem whiteSpace_reachable : Reachable whiteSpace := .ofRanges (by decide)

theorem legacyWhiteSpace_reachable : Reachable legacyWhiteSpace :=
  whiteSpace_reachable.addCodePoint (by decide)

theorem digits_reachable : Reachable digits := .ofRange (by decide) (by decide)

theorem wordChars_reachable : Reachable wordChars := .ofRanges (by decide)

theorem wordCharsIgnoreCase_reachable : Reachable wordCharsIgnoreCase :=
  (wordChars_reachable.addCodePoint (by decide)).addCodePoint (by decide)

end Predefined

namespace Scan

/-- The sets of the predefined class escapes are built from valid ranges. -/
theorem predefinedClass_reachable (m : Mode) (c : Nat) : Reachable (predefinedClass m c) := by
  simp only [predefinedClass]
  split
  · split
    · exact Predefined.legacyWhiteSpace_reachable
    · exact Predefined.whiteSpace_reachable
  split
  · split
    · exact Predefined.legacyWhiteSpace_reachable.complement
    · exact Predefined.whiteSpace_reachable.complement
  split
  · exact Predefined.digits_reachable
  split
  · exact Predefined.digits_reachable.complement
  split
  · split
    · exact Predefined.wordCharsIgnoreCase_reachable
    · exact Predefined.wordChars_reachable
  split
  · exact Predefined.wordCharsIgnoreCase_reachable.complement
  · exact Predefined.wordChars_reachable.complement

theorem property_reachable {lib : UnicodeLibrary} {invert : Bool} {input rest : List Nat}
    {s : CodePointSet} (h : property lib invert input = .ok (s, rest)) : Reachable s := by
  simp only [property] at h
  split at h
  · cases h
  · split at h
    · cases h
    · split at h
      · next set hset =>
        cases h
        have hs := Property.lookup_reachable hset
        split
        · exact hs.complement
        · exact hs
      · cases h
      · cases h

theorem classEscape_reachable {m : Mode} {e : Nat} {input rest : List Nat} {s : CodePointSet}
    (h : classEscape m e input = .ok (s, rest)) : Reachable s := by
  simp only [classEscape] at h
  split at h
  · cases h
    exact predefinedClass_reachable m e
  · exact property_reachable h

theorem classEscape_normal {m : Mode} {e : Nat} {input rest : List Nat} {s : CodePointSet}
    (h : classEscape m e input = .ok (s, rest)) : s.Normal :=
  (classEscape_reachable h).normal

end Scan

end EcmaRegex
