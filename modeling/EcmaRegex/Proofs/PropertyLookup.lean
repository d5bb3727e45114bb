import Mathlib.Data.List.TakeDrop
import Mathlib.Data.List.TakeWhile
import EcmaRegex.Property.Memo
import EcmaRegex.Proofs.EscapeSets
import EcmaRegex.Proofs.UnicodeData
import EcmaRegex.Proofs.TemplateFilling
import EcmaRegex.Proofs.RunReport
/-!
# Looking up property names

A name of a property escape is matched exactly against ECMAScript's tables and written as a
query (`Property.queryOf`); the set of the query is asked of the Unicode library
(`Property.build`), and kept in a process-wide cache keyed by query (`Property.getProperty`).
Everything here holds whatever the library answers.

* The tables refuse a name by the part that is wrong (`lookup_unknown_key`,
  `lookup_unknown_value`, `lookup_unknown_name`); an accepted name stands for what the library
  builds for its query, or is refused by its parts when the library has no set for it, and every
  error names parts of the name (`lookup_error_partOf`).
* A value of General_Category has one query, bare or after either spelling of the property, so
  it stands for one set (`lookup_category_aliases`).
* The surrogates, which the library's classes cannot hold, are added to the set of a query
  exactly when the query is `Any`, `Assigned`, `gc=Other` or `gc=Surrogate`
  (`build_contains`), which are the queries of `Any`, `Assigned` and the values `Other`, `C`,
  `Surrogate` and `Cs` of General_Category, however written (`mem_withSurrogates_iff`); the set of
  `gc=Surrogate` is the surrogates alone, without asking the library (`build_gcSurrogate`).
* Every cached set is the one its query builds, and a lookup keeps it so, so a lookup through
  the cache answers as one without it; a failed lookup caches nothing (`CacheSound`).
* The lexer reports the lookup's errors as its problems 1522 and 1523
  (`Scan.property_unknownName`, `Scan.property_unknownValue`).
-/

namespace EcmaRegex

open CodePointSet

namespace Property

/-! ## Splitting at the first `=` -/

theorem splitAtEquals_eq_some_iff {name key value : String} :
    splitAtEquals name = some (key, value) ↔
      name.toList = key.toList ++ '=' :: value.toList ∧ '=' ∉ key.toList := by
  unfold splitAtEquals
  rw [List.span_eq_takeWhile_dropWhile]
  constructor
  · intro h
    split at h
    · next k v hspan =>
      simp only [Prod.mk.injEq] at hspan
      simp only [Option.some.injEq, Prod.mk.injEq] at h
      obtain ⟨rfl, rfl⟩ := h
      obtain ⟨hk, hv⟩ := hspan
      have hhead := List.head_dropWhile_not (· != '=') (l := name.toList) (by simp [hv])
      simp only [hv, List.head_cons, bne_eq_false_iff_eq] at hhead
      subst hhead
      refine ⟨?_, fun hm => ?_⟩
      · rw [String.toList_ofList, String.toList_ofList, ← hk, ← hv,
          List.takeWhile_append_dropWhile]
      · rw [String.toList_ofList, ← hk] at hm
        simpa using List.mem_takeWhile_imp hm
    · cases h
  · rintro ⟨hname, hkey⟩
    have hne : ∀ c ∈ key.toList, (c != '=') = true :=
      fun c hc => by simpa using fun h : c = '=' => hkey (h ▸ hc)
    have htake : name.toList.takeWhile (· != '=') = key.toList := by
      rw [hname, List.takeWhile_append_of_pos hne]
      simp
    have hdrop : name.toList.dropWhile (· != '=') = '=' :: value.toList := by
      rw [hname, List.dropWhile_append_of_pos hne]
      simp
    rw [htake, hdrop]
    simp

theorem splitAtEquals_eq_none_iff {name : String} :
    splitAtEquals name = none ↔ '=' ∉ name.toList := by
  unfold splitAtEquals
  rw [List.span_eq_takeWhile_dropWhile]
  constructor
  · intro h hm
    split at h
    · cases h
    · next k hspan =>
      simp only [Prod.mk.injEq] at hspan
      have hall := List.dropWhile_eq_nil_iff.1 hspan.2
      simpa using hall '=' hm
  · intro h
    have hdrop : name.toList.dropWhile (· != '=') = [] :=
      List.dropWhile_eq_nil_iff.2 fun c hc => by simpa using fun e : c = '=' => h (e ▸ hc)
    rw [hdrop]

theorem splitAtEquals_append {key : String} (hkey : '=' ∉ key.toList) (value : String) :
    splitAtEquals (key ++ "=" ++ value) = some (key, value) :=
  splitAtEquals_eq_some_iff.2 ⟨by simp, hkey⟩

/-- The split of a key and a value where the key and its `=` are one literal, as `"gc="`. -/
theorem splitAtEquals_short (short key : String) (hshort : short = key ++ "=")
    (hkey : '=' ∉ key.toList) (value : String) :
    splitAtEquals (short ++ value) = some (key, value) := by
  rw [hshort]
  exact splitAtEquals_append hkey value

/-! ## The tables of names -/

/-- The values of General_Category hold no `=` and name no binary property. -/
theorem categoryValues_checked :
    (categoryValues.all fun v =>
      !v.toList.contains '=' && !binaryProperties.contains v) = true := by
  decide +kernel

theorem not_equals_of_category {value : String} (h : value ∈ categoryValues) :
    '=' ∉ value.toList := by
  have hv := List.all_eq_true.1 categoryValues_checked value h
  simp only [Bool.and_eq_true, Bool.not_eq_true'] at hv
  exact fun hm => Bool.false_ne_true (hv.1.symm.trans (List.contains_iff_mem.2 hm))

theorem not_binary_of_category {value : String} (h : value ∈ categoryValues) :
    value ∉ binaryProperties := by
  have hv := List.all_eq_true.1 categoryValues_checked value h
  simp only [Bool.and_eq_true, Bool.not_eq_true'] at hv
  exact fun hm => Bool.false_ne_true (hv.2.symm.trans (List.contains_iff_mem.2 hm))

theorem shortKey?_eq_some {key short : String} (h : shortKey? key = some short) :
    (short = "gc" ∧ (key = "General_Category" ∨ key = "gc")) ∨
      (short = "sc" ∧ (key = "Script" ∨ key = "sc")) ∨
      (short = "scx" ∧ (key = "Script_Extensions" ∨ key = "scx")) := by
  unfold shortKey? at h
  split_ifs at h with hgc hsc hscx <;> cases h
  · exact .inl ⟨rfl, hgc⟩
  · exact .inr (.inl ⟨rfl, hsc⟩)
  · exact .inr (.inr ⟨rfl, hscx⟩)

/-- The spellings of the properties that take a value. -/
def propertyKeys : List String :=
  ["General_Category", "gc", "Script", "sc", "Script_Extensions", "scx"]

/-- The spellings of the values of the property `key`, one of `propertyKeys`. -/
def valueSpellings (key : String) : List String :=
  if key = "General_Category" ∨ key = "gc" then categoryValues else scriptValues

theorem shortKey?_eq_none_iff {key : String} : shortKey? key = none ↔ key ∉ propertyKeys := by
  unfold shortKey? propertyKeys
  split_ifs with hgc hsc hscx
  · rcases hgc with rfl | rfl <;> decide
  · rcases hsc with rfl | rfl <;> decide
  · rcases hscx with rfl | rfl <;> decide
  · simp only [not_or] at hgc hsc hscx
    simp [hgc, hsc, hscx]

theorem hasValue_iff {key short : String} (h : shortKey? key = some short) (value : String) :
    hasValue short value = true ↔ value ∈ valueSpellings key := by
  rcases shortKey?_eq_some h with ⟨rfl, hkey⟩ | ⟨rfl, hkey⟩ | ⟨rfl, hkey⟩
  · simp [hasValue, valueSpellings, hkey]
  -- the keys of Script and Script_Extensions read the same table of values
  all_goals
    have hgc : ¬ (key = "General_Category" ∨ key = "gc") := by
      rcases hkey with rfl | rfl <;> decide
    simp [hasValue, valueSpellings, hgc]

/-! ## Names the tables refuse -/

/-- A name with `=` whose part before the first `=` is no property is refused by that part. -/
theorem lookup_unknown_key (lib : UnicodeLibrary) {name key value : String}
    (hname : name.toList = key.toList ++ '=' :: value.toList) (hkey : '=' ∉ key.toList)
    (hunknown : key ∉ propertyKeys) : lookup lib name = .error (.unknownName key) := by
  have hq : queryOf name = .error (.unknownName key) := by
    rw [queryOf, splitAtEquals_eq_some_iff.2 ⟨hname, hkey⟩]
    dsimp only
    rw [shortKey?_eq_none_iff.2 hunknown]
  rw [lookup, hq]

/-- A name with `=` whose value is not spelled as the property's values are is refused by the
property and the value. -/
theorem lookup_unknown_value (lib : UnicodeLibrary) {name key value : String}
    (hname : name.toList = key.toList ++ '=' :: value.toList) (hkey : '=' ∉ key.toList)
    (hknown : key ∈ propertyKeys) (hvalue : value ∉ valueSpellings key) :
    lookup lib name = .error (.unknownValue key value) := by
  obtain ⟨short, hshort⟩ :=
    Option.ne_none_iff_exists'.1 fun h => shortKey?_eq_none_iff.1 h hknown
  have hno : hasValue short value = false :=
    Bool.eq_false_iff.2 fun h => hvalue ((hasValue_iff hshort value).1 h)
  have hq : queryOf name = .error (.unknownValue key value) := by
    rw [queryOf, splitAtEquals_eq_some_iff.2 ⟨hname, hkey⟩]
    dsimp only
    rw [hshort]
    simp [hno]
  rw [lookup, hq]

/-- A name without `=` that is neither a binary property nor a value of General_Category is
refused by name. -/
theorem lookup_unknown_name (lib : UnicodeLibrary) {name : String} (hname : '=' ∉ name.toList)
    (hbinary : name ∉ binaryProperties) (hcategory : name ∉ categoryValues) :
    lookup lib name = .error (.unknownName name) := by
  have hq : queryOf name = .error (.unknownName name) := by
    rw [queryOf, splitAtEquals_eq_none_iff.2 hname]
    simp [hbinary, hcategory]
  rw [lookup, hq]

/-! ## Accepted names -/

theorem lookup_of_build_some {lib : UnicodeLibrary} {name q : String} {s : CodePointSet}
    (hq : queryOf name = .ok q) (hb : build lib q = some s) : lookup lib name = .ok s := by
  rw [lookup, hq]
  dsimp only
  rw [hb]

theorem lookup_of_build_none {lib : UnicodeLibrary} {name q : String} (hq : queryOf name = .ok q)
    (hb : build lib q = none) : lookup lib name = .error (unresolved name) := by
  rw [lookup, hq]
  dsimp only
  rw [hb]

/-- An accepted name stands for the set the library builds for its query, when there is one. -/
theorem toOption_lookup {lib : UnicodeLibrary} {name q : String} (hq : queryOf name = .ok q) :
    (lookup lib name).toOption = build lib q := by
  cases hb : build lib q with
  | some s => rw [lookup_of_build_some hq hb]; rfl
  | none => rw [lookup_of_build_none hq hb]; rfl

/-- The query of an accepted name: after `gc=`, a value of General_Category with `C` and `Cs`
written out; after `sc=` or `scx=`, a value of Script; or, without `=`, a binary property or
`gc=` and a value of General_Category. -/
theorem queryOf_eq_ok {name q : String} (h : queryOf name = .ok q) :
    (∃ key value, splitAtEquals name = some (key, value) ∧
      ((key = "General_Category" ∨ key = "gc") ∧ q = "gc=" ++ canonicalValue "gc" value ∨
        ¬ (key = "General_Category" ∨ key = "gc") ∧ q.toList.head? = some 's')) ∨
    (splitAtEquals name = none ∧ (name ∈ binaryProperties ∧ q = name ∨
      name ∉ binaryProperties ∧ q = "gc=" ++ canonicalValue "gc" name)) := by
  unfold queryOf at h
  cases hsplit : splitAtEquals name with
  | some kv =>
    obtain ⟨key, value⟩ := kv
    rw [hsplit] at h
    dsimp only at h
    cases hs : shortKey? key with
    | none =>
      rw [hs] at h
      cases h
    | some short =>
      rw [hs] at h
      dsimp only at h
      split_ifs at h
      cases h
      refine .inl ⟨key, value, rfl, ?_⟩
      rcases shortKey?_eq_some hs with ⟨rfl, hkey⟩ | ⟨rfl, hkey⟩ | ⟨rfl, hkey⟩
      · exact .inl ⟨hkey, by simp⟩
      -- a key of Script or Script_Extensions: the query starts with `s`
      all_goals
        refine .inr ⟨?_, by simp⟩
        rcases hkey with rfl | rfl <;> decide
  | none =>
    rw [hsplit] at h
    dsimp only at h
    split_ifs at h with hb
    · cases h
      exact .inr ⟨rfl, .inl ⟨List.contains_iff_mem.1 hb, rfl⟩⟩
    · cases h
      exact .inr ⟨rfl, .inr ⟨fun hm => hb (List.contains_iff_mem.2 hm), rfl⟩⟩

/-- A value of General_Category has one query whether it is written bare, after `gc=` or after
`General_Category=`. -/
theorem queryOf_category_aliases {value : String} (h : value ∈ categoryValues) :
    queryOf value = .ok ("gc=" ++ canonicalValue "gc" value) ∧
      queryOf ("gc=" ++ value) = .ok ("gc=" ++ canonicalValue "gc" value) ∧
      queryOf ("General_Category=" ++ value) = .ok ("gc=" ++ canonicalValue "gc" value) := by
  refine ⟨?_, ?_, ?_⟩
  · rw [queryOf, splitAtEquals_eq_none_iff.2 (not_equals_of_category h)]
    simp [not_binary_of_category h, h]
  · rw [queryOf, splitAtEquals_short "gc=" "gc" rfl (by decide)]
    simp [shortKey?, hasValue, h]
  · rw [queryOf, splitAtEquals_short "General_Category=" "General_Category" rfl (by decide)]
    simp [shortKey?, hasValue, h]

/-- A value of General_Category stands for one set however it is written, whatever the library:
the set built for its one query, or none. -/
theorem lookup_category_aliases (lib : UnicodeLibrary) {value : String}
    (h : value ∈ categoryValues) :
    (lookup lib value).toOption = (lookup lib ("gc=" ++ value)).toOption ∧
      (lookup lib ("General_Category=" ++ value)).toOption =
        (lookup lib ("gc=" ++ value)).toOption := by
  obtain ⟨hbare, hgc, hlong⟩ := queryOf_category_aliases h
  rw [toOption_lookup hbare, toOption_lookup hgc, toOption_lookup hlong]
  exact ⟨rfl, rfl⟩

/-! ## The surrogates -/

theorem gc_mem_withSurrogates (value : String) :
    "gc=" ++ value ∈ withSurrogates ↔ value ∈ ["Other", "Surrogate"] := by
  simp only [withSurrogates, List.mem_cons, List.not_mem_nil, or_false]
  rw [show "gc=Other" = "gc=" ++ "Other" from rfl,
    show "gc=Surrogate" = "gc=" ++ "Surrogate" from rfl, String.append_right_inj,
    String.append_right_inj]
  constructor
  · rintro (h | h | h | h)
    · simpa using congrArg String.toList h
    · simpa using congrArg String.toList h
    · exact .inl h
    · exact .inr h
  · rintro (h | h)
    · exact .inr (.inr (.inl h))
    · exact .inr (.inr (.inr h))

/-- No query of a script starts like one of `withSurrogates`. -/
theorem not_mem_withSurrogates_of_head {q : String} (h : q.toList.head? = some 's') :
    q ∉ withSurrogates := by
  simp only [withSurrogates, List.mem_cons, List.not_mem_nil, or_false]
  rintro (rfl | rfl | rfl | rfl) <;> simp at h

theorem mem_withSurrogates_of_no_equals {q : String} (h : '=' ∉ q.toList) :
    q ∈ withSurrogates ↔ q = "Any" ∨ q = "Assigned" := by
  simp only [withSurrogates, List.mem_cons, List.not_mem_nil, or_false]
  constructor
  · rintro (h' | h' | rfl | rfl)
    · exact .inl h'
    · exact .inr h'
    · simp at h
    · simp at h
  · rintro (h' | h')
    · exact .inl h'
    · exact .inr (.inl h')

theorem canonicalValue_mem_iff (value : String) :
    canonicalValue "gc" value ∈ ["Other", "Surrogate"] ↔
      value ∈ ["Other", "C", "Surrogate", "Cs"] := by
  unfold canonicalValue
  split_ifs with hC hCs
  · simp [hC.2]
  · simp [hCs.2]
  · simp only [true_and] at hC hCs
    simp [hC, hCs]

/-- `Any` and `Assigned` are binary properties, and the values that hold the surrogates are
none. -/
theorem surrogateSpellings_binary :
    "Any" ∈ binaryProperties ∧ "Assigned" ∈ binaryProperties ∧
      ∀ v ∈ ["Other", "C", "Surrogate", "Cs"], v ∉ binaryProperties := by
  decide

/-- The names that stand for a query holding the surrogates are `Any` and `Assigned` and the
values `Other`, `C`, `Surrogate` and `Cs` of General_Category, bare or after either spelling of
the property. -/
theorem mem_withSurrogates_iff {name q : String} (h : queryOf name = .ok q) :
    q ∈ withSurrogates ↔
      (splitAtEquals name = none ∧ name ∈ ["Any", "Assigned", "Other", "C", "Surrogate", "Cs"]) ∨
        ∃ key value, splitAtEquals name = some (key, value) ∧
          (key = "General_Category" ∨ key = "gc") ∧ value ∈ ["Other", "C", "Surrogate", "Cs"] := by
  rcases queryOf_eq_ok h with ⟨key, value, hsplit, ⟨hkey, rfl⟩ | ⟨hkey, hhead⟩⟩ |
    ⟨hsplit, ⟨hb, rfl⟩ | ⟨hb, rfl⟩⟩
  · -- a value given to General_Category
    rw [gc_mem_withSurrogates, canonicalValue_mem_iff]
    constructor
    · exact fun hv => .inr ⟨key, value, hsplit, hkey, hv⟩
    · rintro (⟨hnone, -⟩ | ⟨k, v, hkv, -, hv⟩)
      · rw [hsplit] at hnone
        cases hnone
      · rw [hsplit, Option.some.injEq, Prod.mk.injEq] at hkv
        exact hkv.2 ▸ hv
  · -- a value given to Script or Script_Extensions
    refine iff_of_false (not_mem_withSurrogates_of_head hhead) ?_
    rintro (⟨hnone, -⟩ | ⟨k, v, hkv, hk, -⟩)
    · rw [hsplit] at hnone
      cases hnone
    · rw [hsplit, Option.some.injEq, Prod.mk.injEq] at hkv
      exact hkey (hkv.1 ▸ hk)
  · -- a binary property, its own query
    rw [mem_withSurrogates_of_no_equals (splitAtEquals_eq_none_iff.1 hsplit)]
    obtain ⟨hany, hassigned, hvalues⟩ := surrogateSpellings_binary
    constructor
    · rintro (rfl | rfl) <;> exact .inl ⟨hsplit, by decide⟩
    · rintro (⟨-, hmem⟩ | ⟨k, v, hkv, -⟩)
      · rcases List.mem_cons.1 hmem with rfl | hmem
        · exact .inl rfl
        rcases List.mem_cons.1 hmem with rfl | hmem
        · exact .inr rfl
        exact absurd hb (hvalues _ hmem)
      · rw [hsplit] at hkv
        cases hkv
  · -- a bare value of General_Category, which is no binary property
    rw [gc_mem_withSurrogates, canonicalValue_mem_iff]
    obtain ⟨hany, hassigned, -⟩ := surrogateSpellings_binary
    constructor
    · exact fun hv => .inl ⟨hsplit, List.mem_cons_of_mem _ (List.mem_cons_of_mem _ hv)⟩
    · rintro (⟨-, hmem⟩ | ⟨k, v, hkv, -⟩)
      · rcases List.mem_cons.1 hmem with rfl | hmem
        · exact absurd hany hb
        rcases List.mem_cons.1 hmem with rfl | hmem
        · exact absurd hassigned hb
        exact hmem
      · rw [hsplit] at hkv
        cases hkv

/-- The surrogates' own category is the surrogates, without asking the library. -/
theorem build_gcSurrogate (lib : UnicodeLibrary) :
    build lib "gc=Surrogate" = some (ofRange 0xD800 0xDFFF) := by
  rw [build, if_pos rfl, Option.map_some, if_pos (by decide)]
  decide +kernel

/-- The set of any other query is the library's set, with the surrogates added exactly for the
queries of `withSurrogates`. -/
theorem build_contains {lib : UnicodeLibrary} {q : String} {s : CodePointSet}
    (hq : q ≠ "gc=Surrogate") (h : build lib q = some s) :
    ∃ base, (lib.parse (propertyPattern q)).bind fromHir = some base ∧
      ∀ c, s.contains c = true ↔
        base.contains c = true ∨ (q ∈ withSurrogates ∧ 0xD800 ≤ c ∧ c ≤ 0xDFFF) := by
  rw [build, if_neg hq] at h
  obtain ⟨base, hbase, rfl⟩ := Option.map_eq_some_iff.1 h
  refine ⟨base, hbase, fun c => ?_⟩
  obtain ⟨hir, -, hhir⟩ := Option.bind_eq_some_iff.1 hbase
  -- the library's set is read back in normal form, so adding the block adds exactly it
  have hsep := (reachable_fromHir hhir).normal.separated
  split
  · next hmem =>
    rw [contains_addRange hsep]
    simp [List.contains_iff_mem.1 hmem]
  · next hmem =>
    have hnot : q ∉ withSurrogates := fun hm => hmem (List.contains_iff_mem.2 hm)
    simp [hnot]

/-! ## What an error names -/

/-- The error names what was written: the part of the name before its first `=`, with the part
after it for an unknown value, or the whole name when it has no `=`. -/
def LookupError.PartOf (name : String) : LookupError → Prop
  | .unknownName key =>
    (splitAtEquals name = none ∧ key = name) ∨ ∃ value, splitAtEquals name = some (key, value)
  | .unknownValue key value => splitAtEquals name = some (key, value)

theorem unresolved_partOf (name : String) : (unresolved name).PartOf name := by
  unfold unresolved
  cases h : splitAtEquals name with
  | none => exact .inl ⟨h, rfl⟩
  | some kv => exact h

theorem queryOf_error_partOf {name : String} {e : LookupError} (h : queryOf name = .error e) :
    e.PartOf name := by
  unfold queryOf at h
  cases hsplit : splitAtEquals name with
  | some kv =>
    obtain ⟨key, value⟩ := kv
    rw [hsplit] at h
    dsimp only at h
    cases hs : shortKey? key with
    | none =>
      rw [hs] at h
      cases h
      exact .inr ⟨value, hsplit⟩
    | some short =>
      rw [hs] at h
      dsimp only at h
      split_ifs at h
      cases h
      exact hsplit
  | none =>
    rw [hsplit] at h
    dsimp only at h
    split_ifs at h
    cases h
    exact .inl ⟨hsplit, rfl⟩

/-- Every error of a lookup names parts of the name looked up, whatever the library. -/
theorem lookup_error_partOf {lib : UnicodeLibrary} {name : String} {e : LookupError}
    (h : lookup lib name = .error e) : e.PartOf name := by
  cases hq : queryOf name with
  | error e' =>
    rw [lookup, hq] at h
    cases h
    exact queryOf_error_partOf hq
  | ok q =>
    cases hb : build lib q with
    | some s =>
      rw [lookup_of_build_some hq hb] at h
      cases h
    | none =>
      rw [lookup_of_build_none hq hb] at h
      cases h
      exact unresolved_partOf name

theorem LookupError.PartOf.not_mem {name : String} {e : LookupError} (h : e.PartOf name) {c : Char}
    (hc : c ∉ name.toList) :
    match e with
    | .unknownName key => c ∉ key.toList
    | .unknownValue key value => c ∉ key.toList ∧ c ∉ value.toList := by
  cases e with
  | unknownName key =>
    rcases h with ⟨-, rfl⟩ | ⟨value, hsplit⟩
    · exact hc
    · rw [(splitAtEquals_eq_some_iff.1 hsplit).1] at hc
      exact fun hk => hc (List.mem_append_left _ hk)
  | unknownValue key value =>
    rw [LookupError.PartOf, splitAtEquals_eq_some_iff] at h
    rw [h.1] at hc
    exact ⟨fun hk => hc (List.mem_append_left _ hk),
      fun hv => hc (List.mem_append_right _ (List.mem_cons_of_mem _ hv))⟩

/-! ## The cache -/

/-- Every set in the cache is the set its query builds through the library. -/
def CacheSound (lib : UnicodeLibrary) (cache : List (String × CodePointSet)) : Prop :=
  ∀ q s, (q, s) ∈ cache → build lib q = some s

theorem cacheSound_nil (lib : UnicodeLibrary) : CacheSound lib [] :=
  fun _ _ h => absurd h List.not_mem_nil

/-- Through a sound cache a lookup answers as one without a cache. -/
theorem CacheSound.getProperty_fst {lib : UnicodeLibrary} {cache : List (String × CodePointSet)}
    (h : CacheSound lib cache) (name : String) :
    (getProperty lib cache name).1 = lookup lib name := by
  rw [lookup, getProperty]
  cases queryOf name with
  | error e => rfl
  | ok q =>
    dsimp only
    cases hc : cache.lookup q with
    | some s =>
      dsimp only
      rw [h q s (mem_of_lookup hc)]
    | none => cases build lib q <;> rfl

/-- A lookup keeps the cache sound: it adds a set only under the query that built it. -/
theorem CacheSound.getProperty {lib : UnicodeLibrary} {cache : List (String × CodePointSet)}
    (h : CacheSound lib cache) (name : String) : CacheSound lib (getProperty lib cache name).2 := by
  unfold Property.getProperty
  cases queryOf name with
  | error e => exact h
  | ok q =>
    dsimp only
    cases cache.lookup q with
    | some s => exact h
    | none =>
      dsimp only
      cases hb : build lib q with
      | none => exact h
      | some s =>
        intro q' s' hmem
        rcases List.mem_cons.1 hmem with heq | hmem
        · simp only [Prod.mk.injEq] at heq
          obtain ⟨rfl, rfl⟩ := heq
          exact hb
        · exact h q' s' hmem

/-- The cache stays sound over any run of lookups. -/
theorem CacheSound.cacheAfter {lib : UnicodeLibrary} {cache : List (String × CodePointSet)}
    (h : CacheSound lib cache) (names : List String) :
    CacheSound lib (cacheAfter lib cache names) := by
  induction names generalizing cache with
  | nil => exact h
  | cons name rest ih => exact ih (h.getProperty name)

/-- A lookup leaves the cache as it was, or puts in front the set it answers with, under the
name's query, which builds that set. -/
theorem getProperty_snd (lib : UnicodeLibrary) (cache : List (String × CodePointSet))
    (name : String) :
    (getProperty lib cache name).2 = cache ∨
      ∃ q s, queryOf name = .ok q ∧ build lib q = some s ∧
        (getProperty lib cache name).1 = .ok s ∧
        (getProperty lib cache name).2 = (q, s) :: cache := by
  unfold getProperty
  cases queryOf name with
  | error e => exact .inl rfl
  | ok q =>
    dsimp only
    cases cache.lookup q with
    | some s => exact .inl rfl
    | none =>
      dsimp only
      cases hb : build lib q with
      | some s => exact .inr ⟨q, s, rfl, hb, rfl, rfl⟩
      | none => exact .inl rfl

/-- A failed lookup caches nothing. -/
theorem getProperty_snd_of_error {lib : UnicodeLibrary} {cache : List (String × CodePointSet)}
    {name : String} {e : LookupError} (h : (getProperty lib cache name).1 = .error e) :
    (getProperty lib cache name).2 = cache := by
  rcases getProperty_snd lib cache name with hsame | ⟨q, s, -, -, hok, -⟩
  · exact hsame
  · rw [hok] at h
    cases h

end Property

/-! ## Messages of refused names -/

namespace Problem

open Template

theorem text_unknownPropertyName {key : String} (hkey : '}' ∉ key.toList) :
    (unknownPropertyName key).text = "Invalid Unicode property name '" ++ key ++ "'." := by
  rw [text_fills_once _ (by simpa [args] using hkey)]
  show String.ofList (fillOnce [key] ("Invalid Unicode property name '{0}'." : String).toList) = _
  rw [unknownPropertyName_template, fillOnce_text _ (by decide) (by decide),
    fillOnce_placeholder (by simp), ← List.append_nil "'.".toList, fillOnce_text _ (by decide) rfl, fillOnce_nil]
  apply String.toList_injective
  simp only [String.toList_ofList, String.toList_append, List.append_assoc, List.append_nil,
    List.getD_cons_zero]

theorem text_unknownPropertyValue {key value : String} (hkey : '}' ∉ key.toList)
    (hvalue : '}' ∉ value.toList) :
    (unknownPropertyValue key value).text =
      "Invalid value '" ++ value ++ "' for Unicode property '" ++ key ++ "'." := by
  rw [text_fills_once _ (by simp [args, hkey, hvalue])]
  show String.ofList (fillOnce [key, value]
    ("Invalid value '{1}' for Unicode property '{0}'." : String).toList) = _
  rw [unknownPropertyValue_template, fillOnce_text _ (by decide) (by decide),
    fillOnce_placeholder (by simp), fillOnce_text _ (by decide) (by decide),
    fillOnce_placeholder (by simp),
    ← List.append_nil "'.".toList, fillOnce_text _ (by decide) rfl, fillOnce_nil]
  apply String.toList_injective
  simp only [String.toList_ofList, String.toList_append, List.append_assoc, List.append_nil,
    List.getD_cons_zero, List.getD_cons_succ]

end Problem

namespace Scan

open Utf16

theorem encodeChar_ne_close {c : Char} (hc : c ≠ '}') :
    ∀ u ∈ encodeChar c, u ≠ unit '}' := by
  intro u hu
  unfold encodeChar at hu
  split at hu
  · rw [List.mem_singleton.1 hu]
    exact fun h => hc (Char.toNat_inj.1 h)
  · simp only [List.mem_cons, List.not_mem_nil, or_false] at hu
    show u ≠ 125
    omega

/-- In a property escape `{name}` whose name holds no `}`, the whole name is read and the scan
stops at the `}`. -/
theorem property_braced_reads {name : String} (hname : '}' ∉ name.toList) (rest : List Nat) :
    startsWith (unit '{' :: (encode name ++ unit '}' :: rest)) "\x7b" = true ∧
      (encode name ++ unit '}' :: rest).takeWhile (· != unit '}') = encode name ∧
      (encode name ++ unit '}' :: rest).dropWhile (· != unit '}') = unit '}' :: rest ∧
      startsWith (unit '}' :: rest) "\x7d" = true := by
  have hunits : ∀ u ∈ encode name, (u != unit '}') = true := by
    intro u hu
    obtain ⟨c, hc, hcu⟩ := List.mem_flatMap.1 hu
    exact bne_iff_ne.2 (encodeChar_ne_close (fun h : c = '}' => hname (h ▸ hc)) u hcu)
  refine ⟨startsWith_iff.2 ⟨_, rfl⟩, ?_, ?_, startsWith_iff.2 ⟨_, rfl⟩⟩
  · rw [List.takeWhile_append_of_pos hunits]
    simp
  · rw [List.dropWhile_append_of_pos hunits]
    simp

/-- A property escape `\p{name}` or `\P{name}` whose name holds no `}` and names a set stands
for the set, or its complement, and the scan goes on after the `}`. -/
theorem property_found (lib : UnicodeLibrary) (invert : Bool) {name : String}
    (hname : '}' ∉ name.toList) (rest : List Nat) {set : CodePointSet}
    (he : Property.lookup lib name = .ok set) :
    property lib invert (unit '{' :: (encode name ++ unit '}' :: rest)) =
      .ok (if invert then set.complement else set, rest) := by
  obtain ⟨hopen, htake, hdrop, hclose⟩ := property_braced_reads hname rest
  rw [property]
  simp only [hopen, hclose, List.drop_one, List.tail_cons, htake, hdrop, decodeLossy_encode, he,
    Bool.not_true, Bool.false_eq_true, if_false]

/-- A name the tables or the library refuse as no property is reported with code 1522 and
the name, and the scan goes on after the `}`. -/
theorem property_unknownName (lib : UnicodeLibrary) (invert : Bool) {name key : String}
    (hname : '}' ∉ name.toList) (rest : List Nat)
    (he : Property.lookup lib name = .error (.unknownName key)) :
    property lib invert (unit '{' :: (encode name ++ unit '}' :: rest)) =
        .error (.unknownPropertyName key, rest) ∧
      (Problem.unknownPropertyName key).code = 1522 ∧
      (Problem.unknownPropertyName key).text =
        "Invalid Unicode property name '" ++ key ++ "'." := by
  have hkey := Property.LookupError.PartOf.not_mem (Property.lookup_error_partOf he) hname
  obtain ⟨hopen, htake, hdrop, hclose⟩ := property_braced_reads hname rest
  refine ⟨?_, rfl, Problem.text_unknownPropertyName hkey⟩
  rw [property]
  simp only [hopen, hclose, List.drop_one, List.tail_cons, htake, hdrop, decodeLossy_encode, he,
    Bool.not_true, Bool.false_eq_true, if_false]

/-- A name whose value the tables or the library refuse is reported with code 1523, the
property and the value, and the scan goes on after the `}`. -/
theorem property_unknownValue (lib : UnicodeLibrary) (invert : Bool) {name key value : String}
    (hname : '}' ∉ name.toList) (rest : List Nat)
    (he : Property.lookup lib name = .error (.unknownValue key value)) :
    property lib invert (unit '{' :: (encode name ++ unit '}' :: rest)) =
        .error (.unknownPropertyValue key value, rest) ∧
      (Problem.unknownPropertyValue key value).code = 1523 ∧
      (Problem.unknownPropertyValue key value).text =
        "Invalid value '" ++ value ++ "' for Unicode property '" ++ key ++ "'." := by
  have hparts := Property.LookupError.PartOf.not_mem (Property.lookup_error_partOf he) hname
  obtain ⟨hopen, htake, hdrop, hclose⟩ := property_braced_reads hname rest
  refine ⟨?_, rfl, Problem.text_unknownPropertyValue hparts.1 hparts.2⟩
  rw [property]
  simp only [hopen, hclose, List.drop_one, List.tail_cons, htake, hdrop, decodeLossy_encode, he,
    Bool.not_true, Bool.false_eq_true, if_false]

end Scan

namespace Property

/-- Property names are matched exactly, and the cache never changes an answer, whatever the
Unicode library.

* Through the cache left by any run of lookups a lookup answers as through an empty cache,
  which answers as `lookup`; a failed lookup leaves the cache as it was, and any other adds at
  most the set it answers with, under its query.
* A name with `=` is split at its first `=`: a part before it that is no property is refused by
  that part, and a value not spelled as the property's values is refused with the property.
* A name without `=` that is neither a binary property nor a value of General_Category is
  refused by name.
* An accepted name stands for the set the library builds for its query; when there is none it
  is refused by its property and value, or by name when it has no `=`; and every error names
  parts of the name looked up.
* A value of General_Category, bare or after `gc=` or `General_Category=`, has one query, with
  `C` and `Cs` written as `Other` and `Surrogate`, and so stands for one set.
* The query is `Any`, `Assigned`, `gc=Other` or `gc=Surrogate` exactly for the names `Any` and
  `Assigned` and the values `Other`, `C`, `Surrogate` and `Cs` of General_Category, however
  written; the set of `gc=Surrogate` is the surrogates, and the set of any other query is the
  library's, with the surrogates added exactly for those queries.
* A property escape reports a refused name with code 1522 and the name, or 1523 with the
  property and the value. -/
theorem property_names_resolve_exactly (lib : UnicodeLibrary) :
    (∀ history name, (getProperty lib (cacheAfter lib [] history) name).1 =
        (getProperty lib [] name).1 ∧ (getProperty lib [] name).1 = lookup lib name) ∧
      (∀ cache name e, (getProperty lib cache name).1 = .error e →
        (getProperty lib cache name).2 = cache) ∧
      (∀ cache name, (getProperty lib cache name).2 = cache ∨
        ∃ q s, queryOf name = .ok q ∧ build lib q = some s ∧
          (getProperty lib cache name).1 = .ok s ∧ (getProperty lib cache name).2 = (q, s) :: cache) ∧
      (∀ name key value, name.toList = key.toList ++ '=' :: value.toList →
        '=' ∉ key.toList →
        (key ∉ propertyKeys → lookup lib name = .error (.unknownName key)) ∧
        (key ∈ propertyKeys → value ∉ valueSpellings key →
          lookup lib name = .error (.unknownValue key value))) ∧
      (∀ name, '=' ∉ name.toList → name ∉ binaryProperties → name ∉ categoryValues →
        lookup lib name = .error (.unknownName name)) ∧
      (∀ name q, queryOf name = .ok q → (lookup lib name).toOption = build lib q ∧
        (build lib q = none →
          (∀ key value, splitAtEquals name = some (key, value) →
            lookup lib name = .error (.unknownValue key value)) ∧
          (splitAtEquals name = none → lookup lib name = .error (.unknownName name)))) ∧
      (∀ name e, lookup lib name = .error e → e.PartOf name) ∧
      (∀ value ∈ categoryValues,
        queryOf value = .ok ("gc=" ++ canonicalValue "gc" value) ∧
        queryOf ("gc=" ++ value) = .ok ("gc=" ++ canonicalValue "gc" value) ∧
        queryOf ("General_Category=" ++ value) = .ok ("gc=" ++ canonicalValue "gc" value) ∧
        (lookup lib value).toOption = (lookup lib ("gc=" ++ value)).toOption ∧
        (lookup lib ("General_Category=" ++ value)).toOption =
          (lookup lib ("gc=" ++ value)).toOption) ∧
      (∀ name q, queryOf name = .ok q → (q ∈ withSurrogates ↔
        (splitAtEquals name = none ∧ name ∈ ["Any", "Assigned", "Other", "C", "Surrogate", "Cs"]) ∨
          ∃ key value, splitAtEquals name = some (key, value) ∧
            (key = "General_Category" ∨ key = "gc") ∧ value ∈ ["Other", "C", "Surrogate", "Cs"])) ∧
      build lib "gc=Surrogate" = some (ofRange 0xD800 0xDFFF) ∧
      (∀ q s, q ≠ "gc=Surrogate" → build lib q = some s →
        ∃ base, (lib.parse (propertyPattern q)).bind fromHir = some base ∧
          ∀ c, s.contains c = true ↔
            base.contains c = true ∨ (q ∈ withSurrogates ∧ 0xD800 ≤ c ∧ c ≤ 0xDFFF)) ∧
      (∀ invert name key value rest, '}' ∉ name.toList →
        (lookup lib name = .error (.unknownName key) →
          Scan.property lib invert
              (Scan.unit '{' :: (Utf16.encode name ++ Scan.unit '}' :: rest)) =
            .error (.unknownPropertyName key, rest) ∧
          (Problem.unknownPropertyName key).code = 1522 ∧
          (Problem.unknownPropertyName key).text =
            "Invalid Unicode property name '" ++ key ++ "'.") ∧
        (lookup lib name = .error (.unknownValue key value) →
          Scan.property lib invert
              (Scan.unit '{' :: (Utf16.encode name ++ Scan.unit '}' :: rest)) =
            .error (.unknownPropertyValue key value, rest) ∧
          (Problem.unknownPropertyValue key value).code = 1523 ∧
          (Problem.unknownPropertyValue key value).text =
            "Invalid value '" ++ value ++ "' for Unicode property '" ++ key ++ "'.")) := by
  refine ⟨fun history name => ?_, fun _ _ _ => getProperty_snd_of_error, getProperty_snd lib,
    fun _ _ _ hname hkey =>
      ⟨lookup_unknown_key lib hname hkey, lookup_unknown_value lib hname hkey⟩,
    fun _ => lookup_unknown_name lib, fun name q hq => ⟨toOption_lookup hq, fun hb => ?_⟩,
    fun _ _ => lookup_error_partOf, fun _ hvalue => ?_, fun _ _ => mem_withSurrogates_iff,
    build_gcSurrogate lib, fun _ _ => build_contains,
    fun invert _ _ _ rest hname => ⟨Scan.property_unknownName lib invert hname rest,
      Scan.property_unknownValue lib invert hname rest⟩⟩
  · -- the cache after any history is sound, and so is the empty one
    rw [((cacheSound_nil lib).cacheAfter history).getProperty_fst,
      (cacheSound_nil lib).getProperty_fst]
    exact ⟨rfl, rfl⟩
  · -- the library has no set: the error is the name's parts
    rw [lookup_of_build_none hq hb, unresolved]
    exact ⟨fun key value hsplit => by rw [hsplit], fun hsplit => by rw [hsplit]⟩
  · obtain ⟨hbare, hgc, hlong⟩ := queryOf_category_aliases hvalue
    exact ⟨hbare, hgc, hlong, lookup_category_aliases lib hvalue⟩

end Property

end EcmaRegex
