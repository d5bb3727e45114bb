import EcmaRegex.Flags
/-!
# Reading flag strings

`Flags.parse` accepts exactly the strings whose characters are flag letters, each given once
(`Flags.Distinct`).  The set it then gives holds the flags those letters name, its bits add up
their values, and its text lists the same letters in the canonical order `g i m s u y`.  Any other
string is refused at its first offending character (`Flags.Offence`): one that is no flag letter,
or a letter already given before it.  Printing a set and reading the text back gives the set.

The proofs follow the loop `parseFrom`, whose accumulator is always the set of the letters read
so far (`Flags.ofLetters`): a stretch of fresh letters only adds its flags (`parseFrom_append`), an
offending character ends the loop with its error (`parseFrom_offence`), and every string either
is well formed or has a first offence (`distinct_or_offence`).
-/

namespace EcmaRegex

namespace Flag

/-- The six flag letters in canonical order. -/
def letters : List Char := all.map letter

theorem mem_all (a : Flag) : a ∈ all := by
  cases a <;> decide

theorem letter_inj {a b : Flag} : a.letter = b.letter ↔ a = b := by
  constructor
  · cases a <;> cases b <;> decide
  · intro h
    rw [h]

theorem ofLetter?_letter (a : Flag) : ofLetter? a.letter = some a := by
  cases a <;> rfl

theorem ofLetter?_eq_none {c : Char} : ofLetter? c = none ↔ c ∉ letters := by
  simp only [ofLetter?, List.find?_eq_none, beq_iff_eq, letters, List.mem_map, not_exists,
    not_and]

theorem letter_mem_map {a : Flag} {l : List Flag} : a.letter ∈ l.map letter ↔ a ∈ l := by
  simp only [List.mem_map, letter_inj, exists_eq_right]

theorem exists_letter {c : Char} (h : c ∈ letters) : ∃ a : Flag, a.letter = c := by
  obtain ⟨a, -, ha⟩ := List.mem_map.1 h
  exact ⟨a, ha⟩

theorem letters_nodup : letters.Nodup := by
  decide

end Flag

namespace Flags

/-! ## The set of the letters read so far -/

/-- The flags whose letters occur in `cs`. -/
def ofLetters (cs : List Char) : Flags :=
  ⟨'g' ∈ cs, 'i' ∈ cs, 'm' ∈ cs, 's' ∈ cs, 'u' ∈ cs, 'y' ∈ cs⟩

@[simp] theorem has_ofLetters (cs : List Char) (a : Flag) :
    (ofLetters cs).has a = decide (a.letter ∈ cs) := by
  cases a <;> rfl

@[simp] theorem has_insert (f : Flags) (a b : Flag) :
    (f.insert a).has b = (a == b || f.has b) := by
  cases a <;> cases b <;> simp [insert, has]

theorem ext_has {f g : Flags} (h : ∀ a, f.has a = g.has a) : f = g := by
  cases f
  cases g
  simp only [Flags.mk.injEq]
  exact ⟨h .global, h .ignoreCase, h .multiline, h .dotAll, h .unicode, h .sticky⟩

theorem none_eq_ofLetters : none = ofLetters [] := by
  decide

theorem insert_ofLetters (cs : List Char) (a : Flag) :
    (ofLetters cs).insert a = ofLetters (cs ++ [a.letter]) := by
  refine ext_has fun b => ?_
  simp only [has_insert, has_ofLetters, List.mem_append, List.mem_singleton, Flag.letter_inj]
  by_cases hab : a = b
  · simp [hab]
  · simp [hab, Ne.symm hab]

/-- A set is the set of the letters of its flags. -/
theorem ofLetters_has (f : Flags) : ofLetters ((Flag.all.filter f.has).map Flag.letter) = f := by
  refine ext_has fun a => ?_
  simp only [has_ofLetters, Flag.letter_mem_map, List.mem_filter]
  simp [Flag.mem_all]

/-! ## Well-formed strings and offences -/

/-- A flag string is well formed when its characters are flag letters, each given once. -/
def Distinct (cs : List Char) : Prop :=
  cs.Nodup ∧ ∀ c ∈ cs, c ∈ Flag.letters

/-- The error that the character `c` raises after the well-formed characters `pre`: it is no
flag letter, or it repeats a letter of `pre`. -/
def Offence (pre : List Char) (c : Char) (e : FlagsError) : Prop :=
  (c ∉ Flag.letters ∧ e = .invalid c) ∨ (c ∈ Flag.letters ∧ c ∈ pre ∧ e = .duplicate c)

theorem Distinct.snoc {pre : List Char} {c : Char} (h : Distinct pre) (hc : c ∈ Flag.letters)
    (hfresh : c ∉ pre) : Distinct (pre ++ [c]) := by
  refine ⟨List.nodup_append.2 ⟨h.1, List.nodup_cons.2 ⟨List.not_mem_nil, List.nodup_nil⟩, ?_⟩, ?_⟩
  · intro x hx y hy
    rw [List.mem_singleton.1 hy]
    exact fun hxc => hfresh (hxc ▸ hx)
  · intro x hx
    rcases List.mem_append.1 hx with hx | hx
    · exact h.2 x hx
    · exact List.mem_singleton.1 hx ▸ hc

/-- Every character list is well formed or has a first offence: a well-formed stretch, followed
by a character that raises an error after it. -/
theorem distinct_or_offence (cs : List Char) :
    Distinct cs ∨ ∃ pre c post e, cs = pre ++ c :: post ∧ Distinct pre ∧ Offence pre c e := by
  -- the induction carries the well-formed characters already passed
  suffices h : ∀ pre, Distinct pre → Distinct (pre ++ cs) ∨
      ∃ mid c post e, cs = mid ++ c :: post ∧ Distinct (pre ++ mid) ∧ Offence (pre ++ mid) c e by
    simpa using h [] ⟨List.nodup_nil, fun c hc => absurd hc List.not_mem_nil⟩
  induction cs with
  | nil =>
    intro pre hpre
    exact .inl (by simpa using hpre)
  | cons c cs ih =>
    intro pre hpre
    by_cases hc : c ∈ Flag.letters
    · by_cases hrep : c ∈ pre
      · exact .inr ⟨[], c, cs, .duplicate c, rfl, by simpa using hpre,
          .inr ⟨hc, by simpa using hrep, rfl⟩⟩
      · rcases ih (pre ++ [c]) (hpre.snoc hc hrep) with hall | ⟨mid, d, post, e, hcs, hgood, hoff⟩
        · exact .inl (by simpa using hall)
        · exact .inr ⟨c :: mid, d, post, e, by rw [hcs, List.cons_append],
            by simpa using hgood, by simpa using hoff⟩
    · exact .inr ⟨[], c, cs, .invalid c, rfl, by simpa using hpre, .inl ⟨hc, rfl⟩⟩

/-! ## The loop -/

/-- Reading fresh flag letters only adds their flags. -/
theorem parseFrom_append (pre mid rest : List Char) (h : Distinct (pre ++ mid)) :
    parseFrom (ofLetters pre) (mid ++ rest) = parseFrom (ofLetters (pre ++ mid)) rest := by
  induction mid generalizing pre with
  | nil => simp
  | cons c mid ih =>
    obtain ⟨a, rfl⟩ := Flag.exists_letter (h.2 c (by simp))
    have hfresh : (ofLetters pre).has a = false := by
      have hnodup := (List.nodup_append.1 h.1).2.2
      simpa using fun hmem => hnodup a.letter hmem a.letter List.mem_cons_self rfl
    rw [List.cons_append, parseFrom, Flag.ofLetter?_letter]
    simp only [hfresh, Bool.false_eq_true, if_false, insert_ofLetters]
    rw [ih (pre ++ [a.letter]) (by simpa using h)]
    simp

/-- An offending character ends the loop with its error. -/
theorem parseFrom_offence {pre post : List Char} {c : Char} {e : FlagsError}
    (h : Offence pre c e) : parseFrom (ofLetters pre) (c :: post) = .error e := by
  rcases h with ⟨hc, rfl⟩ | ⟨hc, hrep, rfl⟩
  · rw [parseFrom, Flag.ofLetter?_eq_none.2 hc]
  · obtain ⟨a, rfl⟩ := Flag.exists_letter hc
    have hhas : (ofLetters pre).has a = true := by simpa using hrep
    rw [parseFrom, Flag.ofLetter?_letter]
    simp only [hhas, if_true]

/-- A well-formed string reads as the set of its letters. -/
theorem parse_of_distinct {s : String} (h : Distinct s.toList) :
    parse s = .ok (ofLetters s.toList) := by
  have hrun := parseFrom_append [] s.toList [] (by simpa using h)
  simp only [List.append_nil, List.nil_append] at hrun
  rw [parse, none_eq_ofLetters, hrun, parseFrom]

/-- A string with an offence is refused with the error of its first one. -/
theorem parse_of_offence {s : String} {pre post : List Char} {c : Char} {e : FlagsError}
    (hs : s.toList = pre ++ c :: post) (hpre : Distinct pre) (hoff : Offence pre c e) :
    parse s = .error e := by
  rw [parse, none_eq_ofLetters, hs, parseFrom_append [] pre (c :: post) (by simpa using hpre)]
  exact parseFrom_offence (by simpa using hoff)

theorem parse_eq_ok_iff (s : String) (f : Flags) :
    parse s = .ok f ↔ Distinct s.toList ∧ f = ofLetters s.toList := by
  rcases distinct_or_offence s.toList with hd | ⟨pre, c, post, e, hs, hpre, hoff⟩
  · rw [parse_of_distinct hd, Except.ok.injEq]
    exact ⟨fun h => ⟨hd, h.symm⟩, fun h => h.2.symm⟩
  · rw [parse_of_offence hs hpre hoff]
    constructor
    · intro h
      cases h
    · rintro ⟨hd, -⟩
      cases (parse_of_offence hs hpre hoff).symm.trans (parse_of_distinct hd)

theorem parse_eq_error_iff (s : String) (e : FlagsError) :
    parse s = .error e ↔
      ∃ pre c post, s.toList = pre ++ c :: post ∧ Distinct pre ∧ Offence pre c e := by
  refine ⟨fun h => ?_, fun ⟨pre, c, post, hs, hpre, hoff⟩ => parse_of_offence hs hpre hoff⟩
  rcases distinct_or_offence s.toList with hd | ⟨pre, c, post, e', hs, hpre, hoff⟩
  · rw [parse_of_distinct hd] at h
    cases h
  · rw [parse_of_offence hs hpre hoff, Except.error.injEq] at h
    exact ⟨pre, c, post, hs, hpre, h ▸ hoff⟩

/-! ## What a read set holds -/

/-- The letters of the flags of a well-formed string, in canonical order, are its characters
rearranged. -/
theorem letters_perm {cs : List Char} (h : Distinct cs) :
    ((Flag.all.filter (ofLetters cs).has).map Flag.letter).Perm cs := by
  have hnodup : ((Flag.all.filter (ofLetters cs).has).map Flag.letter).Nodup :=
    (Flag.letters_nodup.sublist ((List.filter_sublist).map Flag.letter))
  refine (List.perm_ext_iff_of_nodup hnodup h.1).2 fun c => ?_
  simp only [List.mem_map, List.mem_filter, has_ofLetters, decide_eq_true_eq]
  constructor
  · rintro ⟨a, ⟨-, ha⟩, rfl⟩
    exact ha
  · intro hc
    obtain ⟨a, rfl⟩ := Flag.exists_letter (h.2 c hc)
    exact ⟨a, ⟨Flag.mem_all a, hc⟩, rfl⟩

/-- The flags of a well-formed string, in canonical order, are its letters read as flags,
rearranged. -/
theorem filter_has_perm {cs : List Char} (h : Distinct cs) :
    (Flag.all.filter (ofLetters cs).has).Perm (cs.filterMap Flag.ofLetter?) := by
  have hperm := (letters_perm h).filterMap Flag.ofLetter?
  rwa [List.filterMap_map, show Flag.ofLetter? ∘ Flag.letter = some from
    funext Flag.ofLetter?_letter, List.filterMap_some] at hperm

theorem bits_ofLetters {cs : List Char} (h : Distinct cs) :
    (ofLetters cs).bits = ((cs.filterMap Flag.ofLetter?).map Flag.bit).foldl (· + ·) 0 := by
  unfold bits
  refine ((filter_has_perm h).map Flag.bit).foldl_eq' (fun _ _ _ _ z => ?_) 0
  omega

theorem text_ofLetters {cs : List Char} (h : Distinct cs) :
    (ofLetters cs).text.toList.Perm cs ∧ (ofLetters cs).text.toList.Sublist Flag.letters := by
  rw [text, String.toList_ofList]
  exact ⟨letters_perm h, (List.filter_sublist).map Flag.letter⟩

/-- The text of a set reads back as the set. -/
theorem parse_text (f : Flags) : parse f.text = .ok f := by
  have hsub : f.text.toList.Sublist Flag.letters := by
    rw [text, String.toList_ofList]
    exact (List.filter_sublist).map Flag.letter
  have hd : Distinct f.text.toList :=
    ⟨Flag.letters_nodup.sublist hsub, fun c hc => hsub.subset hc⟩
  rw [parse_of_distinct hd, text, String.toList_ofList, ofLetters_has]

/-- A flag string is read exactly when its characters are flag letters, each given once; the set
read then holds the flags of those letters, its bits add up their values and its text is its
letters in canonical order.  Any other string is refused at its first offending character: a
character that is no flag letter, or a letter given before it.  The text of every set reads back
as the set. -/
theorem parse_accepts_distinct_letters (s : String) :
    (∀ f, parse s = .ok f ↔ Distinct s.toList ∧ ∀ a, f.has a = true ↔ a.letter ∈ s.toList) ∧
    (∀ e, parse s = .error e ↔
      ∃ pre c post, s.toList = pre ++ c :: post ∧ Distinct pre ∧ Offence pre c e) ∧
    (∀ f, parse s = .ok f →
      f.bits = ((s.toList.filterMap Flag.ofLetter?).map Flag.bit).foldl (· + ·) 0 ∧
        f.text.toList.Perm s.toList ∧ f.text.toList.Sublist Flag.letters) ∧
    ∀ f : Flags, parse f.text = .ok f := by
  have hhas : ∀ f, (∀ a, f.has a = true ↔ a.letter ∈ s.toList) ↔ f = ofLetters s.toList := by
    intro f
    constructor
    · intro h
      refine ext_has fun a => ?_
      rw [has_ofLetters]
      exact Bool.eq_iff_iff.2 ((h a).trans decide_eq_true_iff.symm)
    · rintro rfl a
      simp
  refine ⟨fun f => by rw [parse_eq_ok_iff, hhas], parse_eq_error_iff s, fun f h => ?_, parse_text⟩
  obtain ⟨hd, rfl⟩ := (parse_eq_ok_iff s f).1 h
  exact ⟨bits_ofLetters hd, text_ofLetters hd⟩

example : parse "gix" = .error (.invalid 'x') ∧ parse "gig" = .error (.duplicate 'g') :=
  ⟨rfl, rfl⟩

end Flags

end EcmaRegex
