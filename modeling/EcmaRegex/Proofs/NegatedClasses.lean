import EcmaRegex.Proofs.ClassGrammar
import EcmaRegex.Proofs.ModeDependence
import EcmaRegex.Proofs.FlagIndependence
/-!
# Negated classes

A class `[^B]` is the class `[B]` with its set complemented.  The body `B` is read the same way
in both, atom for atom, to the same set or to the same failure; the set is folded under the `i`
flag and, for `[^`, complemented after that (`Scan.classBody_negation`).

So the patterns `[^` ++ B and `[` ++ B, for units `B` that do not start with `^`, are read alike
(`negated_class_complements`): either both fail with the same problem, or both give tokens of
which the first are the two classes, one the complement of the other, and the rest are equal.
After the class the two lexers stand at the same place of the text that follows it, in the
same state (`Lexer.Aligned`), and every read keeps them so (`Lexer.Aligned.nextToken`): a read
looks at the units left and at the state, never at the position itself, so the unit of
difference before that place is never seen again.  That holds of the look-ahead for a `(` that
decides a backreference too, which searches the units left.
-/

namespace EcmaRegex

namespace Scan

variable {m : Mode}

/-- A class body is read to the same set, or fails the same way, whether the class is negated
or not; negation only decides how the token is built from the set. -/
theorem classBody_negation (set : CodePointSet) (input : List Nat) :
    ∃ r : Scanned CodePointSet, ∀ invert,
      classBody m invert set input = r.erase (classToken m · invert) := by
  fun_induction classBody m false set input with
  | case1 =>
    exact ⟨.error (.unterminatedClass, []), fun invert => by rw [classBody.eq_1]; rfl⟩
  | case2 set c tail hc =>
    -- the `]` closes the class
    rw [beq_iff_eq] at hc
    subst hc
    exact ⟨.ok (set, tail), fun invert => classBody_close tail⟩
  | case3 set c tail hc err heq =>
    exact ⟨.error err, fun invert => classBody_atom_error (by simpa using hc) heq⟩
  | case4 set c tail hc set' after heq _ ih =>
    obtain ⟨r, hr⟩ := ih
    exact ⟨r, fun invert => (classBody_atom (by simpa using hc) heq).trans (hr invert)⟩

/-- At `[` the token is the class that starts there. -/
theorem token_bracket (groups : Nat) (last : Option TokenKind) (input : List Nat) :
    token m groups last (unit '[' :: input) = charClass m input := by
  simp [token.eq_2, unit]

theorem charClass_negated (body : List Nat) :
    charClass m (unit '^' :: body) = classBody m true CodePointSet.empty body := by
  have hcaret : startsWith (unit '^' :: body) "^" = true := startsWith_iff.2 ⟨body, rfl⟩
  rw [charClass, if_pos hcaret]
  rfl

theorem charClass_plain {body : List Nat} (hb : body.head? ≠ some (unit '^')) :
    charClass m body = classBody m false CodePointSet.empty body := by
  have hcaret : startsWith body "^" = false := by
    cases hs : startsWith body "^"
    · rfl
    · obtain ⟨rest, rfl⟩ := startsWith_iff.1 hs
      exact absurd rfl hb
  rw [charClass, if_neg (by rw [hcaret]; exact Bool.false_ne_true)]

/-- Whatever its outcome, a token read leaves at most the input it was given. -/
theorem token_rest_le (groups : Nat) (last : Option TokenKind) (input : List Nat) :
    (token m groups last input).rest.length ≤ input.length := by
  cases input with
  | nil => exact Nat.le_refl 0
  | cons c input =>
    have := token_rest_length m groups last c input
    simp only [List.length_cons]
    omega

end Scan

namespace Lexer

/-- Two lexers in the same state at the same place of a common tail of their patterns: the
patterns are `pre ++ tail` and `pre' ++ tail`, and each lexer has read its own prefix and the
same number of units of the tail. -/
structure Aligned (pre pre' tail : List Nat) (l l' : Lexer) : Prop where
  units : l.source.units = pre ++ tail
  units' : l'.source.units = pre' ++ tail
  read : ∃ k, k ≤ tail.length ∧ l.index = pre.length + k ∧ l'.index = pre'.length + k
  mode : l.mode = l'.mode
  groupCount : l.groupCount = l'.groupCount
  lastToken : l.lastToken = l'.lastToken

namespace Aligned

variable {pre pre' tail : List Nat} {l l' : Lexer} (h : Aligned pre pre' tail l l')
include h

theorem rest : l.rest = l'.rest := by
  obtain ⟨k, -, hi, hi'⟩ := h.read
  simp only [Lexer.rest, h.units, h.units', hi, hi', List.drop_append, Nat.add_sub_cancel_left,
    List.drop_eq_nil_of_le (Nat.le_add_right _ k), List.nil_append]

theorem hasNext : l.hasNext = l'.hasNext := by
  obtain ⟨k, -, hi, hi'⟩ := h.read
  simp only [Lexer.hasNext, Lexer.size, h.units, h.units', hi, hi', List.length_append,
    Nat.add_lt_add_iff_left]

/-- A read stopping where the scan left `after`, a part of the units left, leaves both lexers at
the same place of the tail. -/
theorem read_after {after : List Nat} (hafter : after.length ≤ l.rest.length) :
    ∃ k, k ≤ tail.length ∧ l.size - after.length = pre.length + k ∧
      l'.size - after.length = pre'.length + k := by
  obtain ⟨k, hk, hi, hi'⟩ := h.read
  have hlen := rest_length l
  simp only [Lexer.size, h.units, List.length_append, hi] at hlen
  refine ⟨tail.length - after.length, Nat.sub_le _ _, ?_, ?_⟩
  · simp only [Lexer.size, h.units, List.length_append]
    omega
  · simp only [Lexer.size, h.units', List.length_append]
    omega

/-- One read from aligned lexers returns the same token, or fails with the same problem, and
leaves them aligned. -/
theorem nextToken : l.nextToken.1.toOption = l'.nextToken.1.toOption ∧
    (∀ e e', l.nextToken.1 = .error e → l'.nextToken.1 = .error e' → e.problem = e'.problem) ∧
    Aligned pre pre' tail l.nextToken.2 l'.nextToken.2 := by
  have hscan : Scan.token l'.mode l'.groupCount l'.lastToken l'.rest =
      Scan.token l.mode l.groupCount l.lastToken l.rest := by
    rw [h.mode, h.groupCount, h.lastToken, h.rest]
  have hle := Scan.token_rest_le (m := l.mode) l.groupCount l.lastToken l.rest
  cases hs : Scan.token l.mode l.groupCount l.lastToken l.rest with
  | ok r =>
    obtain ⟨t, after⟩ := r
    rw [hs] at hscan hle
    rw [nextToken_ok hs, nextToken_ok hscan]
    refine ⟨rfl, fun e e' he => (by cases he), ⟨h.units, h.units', h.read_after hle, h.mode, ?_,
      rfl⟩⟩
    simp only [h.groupCount]
  | error e =>
    obtain ⟨p, after⟩ := e
    rw [hs] at hscan hle
    rw [nextToken_error hs, nextToken_error hscan]
    refine ⟨rfl, fun e e' he he' => ?_, ⟨h.units, h.units', h.read_after hle, h.mode, h.groupCount,
      h.lastToken⟩⟩
    cases he
    cases he'
    rfl

/-- Reading on from aligned lexers gives the same tokens after what each has read, and stops
at an error with the same problem, or at none. -/
theorem tokenizeFrom (acc acc' : Array Lexeme) :
    ∃ ts, (l.tokenizeFrom acc).1.toList.map (·.token) = acc.toList.map (·.token) ++ ts ∧
      (l'.tokenizeFrom acc').1.toList.map (·.token) = acc'.toList.map (·.token) ++ ts ∧
      (l.tokenizeFrom acc).2.map (·.problem) = (l'.tokenizeFrom acc').2.map (·.problem) := by
  fun_induction l.tokenizeFrom acc generalizing l' acc' with
  | case1 l acc hn t l₁ heq _ ih =>
    have hn' : l'.hasNext = true := h.hasNext ▸ hn
    obtain ⟨htok, -, hnext⟩ := h.nextToken
    rw [heq] at htok hnext
    rw [Lexer.tokenizeFrom.eq_1 l' acc', dif_pos hn']
    split
    · next t' l₁' heq' =>
      rw [heq'] at htok hnext
      cases htok
      obtain ⟨ts, h1, h2, herr⟩ := ih hnext (acc'.push ⟨t, l₁'.tokenSpan⟩)
      refine ⟨t :: ts, ?_, ?_, herr⟩
      · simp only [h1, Array.toList_push, List.map_append, List.map_cons, List.map_nil,
          List.append_assoc, List.singleton_append]
      · simp only [h2, Array.toList_push, List.map_append, List.map_cons, List.map_nil,
          List.append_assoc, List.singleton_append]
    · next e' _ heq' =>
      rw [heq'] at htok
      cases htok
  | case2 l acc hn e l₁ heq =>
    have hn' : l'.hasNext = true := h.hasNext ▸ hn
    obtain ⟨htok, hprob, -⟩ := h.nextToken
    rw [heq] at htok hprob
    rw [Lexer.tokenizeFrom.eq_1 l' acc', dif_pos hn']
    split
    · next t' l₁' heq' =>
      rw [heq'] at htok
      cases htok
    · next e' _ heq' =>
      rw [heq'] at hprob
      exact ⟨[], by simp, by simp, by simp [hprob e e' rfl rfl]⟩
  | case3 l acc hn =>
    have hn' : ¬ l'.hasNext = true := h.hasNext ▸ hn
    rw [Lexer.tokenizeFrom.eq_1 l' acc', dif_neg hn']
    exact ⟨[], by simp, by simp, rfl⟩

end Aligned

/-- A read that returns a token is followed by the reading of the rest. -/
theorem tokenizeFrom_of_ok {l l₁ : Lexer} {t : Token} (hn : l.hasNext = true)
    (h : l.nextToken = (.ok t, l₁)) (acc : Array Lexeme) :
    l.tokenizeFrom acc = l₁.tokenizeFrom (acc.push ⟨t, l₁.tokenSpan⟩) := by
  rw [tokenizeFrom.eq_1, dif_pos hn]
  split
  · next t' l' heq =>
    rw [h] at heq
    cases heq
    rfl
  · next e _ heq =>
    rw [h] at heq
    cases heq

/-- A read that fails ends the reading with its error. -/
theorem tokenizeFrom_of_error {l : Lexer} {e : SyntaxError} (hn : l.hasNext = true)
    (h : l.nextToken.1 = .error e) (acc : Array Lexeme) :
    l.tokenizeFrom acc = (acc, some e) := by
  rw [tokenizeFrom.eq_1, dif_pos hn]
  split
  · next t' l' heq =>
    rw [heq] at h
    cases h
  · next e' _ heq =>
    rw [heq] at h
    cases h
    rfl

/-- The lexers of `[^` ++ B and of `[` ++ B, for units `B` that do not start with `^`, read on
alike: they end at an error with the same problem or at none, and when the first has read to
the end, their tokens are the two classes of the body, one the complement of the other, and
the same tokens after them. -/
theorem negated_reads (lib : UnicodeLibrary) (units : List Nat) (flags : Flags)
    (options : Options) (hb : units.head? ≠ some (Scan.unit '^')) :
    let run := (new lib ⟨Scan.unit '[' :: Scan.unit '^' :: units, flags, options⟩).tokenizeFrom #[]
    let run' := (new lib ⟨Scan.unit '[' :: units, flags, options⟩).tokenizeFrom #[]
    run.2.map (·.problem) = run'.2.map (·.problem) ∧
    (run.2 = none → ∃ s ts, run.1.toList.map (·.token) = .charClass s.complement :: ts ∧
      run'.1.toList.map (·.token) = .charClass s :: ts) := by
  intro run run'
  let l := new lib ⟨Scan.unit '[' :: Scan.unit '^' :: units, flags, options⟩
  let l' := new lib ⟨Scan.unit '[' :: units, flags, options⟩
  have hn : l.hasNext = true := by simp [l, hasNext, size, new]
  have hn' : l'.hasNext = true := by simp [l', hasNext, size, new]
  -- both first reads are the class, over the same body
  have hscan : Scan.token l.mode l.groupCount l.lastToken l.rest =
      Scan.classBody l.mode true CodePointSet.empty units :=
    (Scan.token_bracket _ _ _).trans (Scan.charClass_negated units)
  have hscan' : Scan.token l'.mode l'.groupCount l'.lastToken l'.rest =
      Scan.classBody l.mode false CodePointSet.empty units :=
    (Scan.token_bracket _ _ _).trans (Scan.charClass_plain hb)
  obtain ⟨r, hr⟩ := Scan.classBody_negation (m := l.mode) CodePointSet.empty units
  cases r with
  | error e =>
    -- the body fails: both runs end at once, with the body's problem
    rw [hr, Scanned.erase_error] at hscan hscan'
    have h1 := tokenizeFrom_of_error hn (by rw [nextToken_error hscan]) #[]
    have h2 := tokenizeFrom_of_error hn' (by rw [nextToken_error hscan']) #[]
    refine ⟨by simp only [run, run', l, l'] at h1 h2 ⊢; rw [h1, h2]; rfl, fun hnone => ?_⟩
    simp only [run, l] at h1 hnone
    rw [h1] at hnone
    cases hnone
  | ok v =>
    obtain ⟨s0, after⟩ := v
    have hafter : after.length ≤ units.length :=
      Scan.classBody_length (by rw [hr false, Scanned.erase_ok])
    rw [hr, Scanned.erase_ok] at hscan hscan'
    have h1 := tokenizeFrom_of_ok hn (nextToken_ok hscan) #[]
    have h2 := tokenizeFrom_of_ok hn' (nextToken_ok hscan') #[]
    -- after the class the two lexers stand at the same place of the units after the `[` or `[^`
    have haligned : Aligned [Scan.unit '[', Scan.unit '^'] [Scan.unit '['] units
        (l.nextToken).2 (l'.nextToken).2 := by
      rw [nextToken_ok hscan, nextToken_ok hscan']
      refine ⟨rfl, rfl, ⟨units.length - after.length, Nat.sub_le _ _, ?_, ?_⟩, rfl, rfl, rfl⟩
      · show (units.length + 2) - after.length = 2 + (units.length - after.length)
        omega
      · show (units.length + 1) - after.length = 1 + (units.length - after.length)
        omega
    rw [nextToken_ok hscan, nextToken_ok hscan'] at haligned
    obtain ⟨ts, hts, hts', herr⟩ := haligned.tokenizeFrom _ _
    refine ⟨by simp only [run, run', l, l'] at h1 h2 ⊢; rw [h1, h2]; exact herr, fun _ => ?_⟩
    refine ⟨if flags.ignoreCase then CaseFold.apply lib s0 flags.unicode else s0, ts, ?_, ?_⟩
    · simp only [run, l] at h1 ⊢
      rw [h1, hts]
      rfl
    · simp only [run', l'] at h2 ⊢
      rw [h2, hts']
      rfl

theorem tokenize_fst (lib : UnicodeLibrary) (source : Source) :
    (tokenize lib source).1 = ((new lib source).tokenizeFrom #[]).1.toList := rfl

theorem tokenize_snd (lib : UnicodeLibrary) (source : Source) :
    (tokenize lib source).2 = ((new lib source).tokenizeFrom #[]).2 := rfl

end Lexer

theorem tokenize_eq_error_iff {lib : UnicodeLibrary} {source : Source} {e : SyntaxError} :
    tokenize lib source = .error e ↔ (Lexer.tokenize lib source).2 = some e := by
  unfold tokenize
  split
  · next lexemes heq => simp only [heq, reduceCtorEq]
  · next lexemes e' heq => simp only [heq, Except.error.injEq, Option.some.injEq]

/-- For units `B` that do not start with `^`, under any flags and options, the patterns `[^` ++ B
and `[` ++ B are refused together, with the same problem, or read together: to as many tokens,
equal from the second on, and the first a class in each, the one of `[^` holding the complement
of the set of the one of `[`, which under the `i` flag is already folded. -/
theorem negated_class_complements (lib : UnicodeLibrary) (units : List Nat) (flags : Flags)
    (options : Options) (hb : units.head? ≠ some (Scan.unit '^')) :
    let negated := tokenize lib ⟨Scan.unit '[' :: Scan.unit '^' :: units, flags, options⟩
    let plain := tokenize lib ⟨Scan.unit '[' :: units, flags, options⟩
    negated.toBool = plain.toBool ∧
    (∀ e e', negated = .error e → plain = .error e' → e.problem = e'.problem) ∧
    (∀ ts ts', negated = .ok ts → plain = .ok ts' →
      ts.length = ts'.length ∧ ts.tail = ts'.tail ∧
      ∃ s, ts'.head? = some (.charClass s) ∧ ts.head? = some (.charClass s.complement)) := by
  intro negated plain
  obtain ⟨herr, hreads⟩ := Lexer.negated_reads lib units flags options hb
  refine ⟨?_, fun e e' he he' => ?_, fun ts ts' hts hts' => ?_⟩
  · -- each is refused exactly when its run ends at an error
    have hnone := congrArg Option.isNone herr
    rw [Option.isNone_map, Option.isNone_map] at hnone
    rw [tokenize_toBool, tokenize_toBool]
    exact hnone
  · -- the errors the runs end at have the same problem
    have h1 := tokenize_eq_error_iff.1 he
    have h2 := tokenize_eq_error_iff.1 he'
    rw [Lexer.tokenize_snd] at h1 h2
    rw [h1, h2, Option.map_some, Option.map_some] at herr
    exact Option.some.inj herr
  · -- both read to the end: the two classes, then the same tokens
    obtain ⟨hnone, rfl⟩ := tokenize_eq_ok_iff.1 hts
    obtain ⟨-, rfl⟩ := tokenize_eq_ok_iff.1 hts'
    rw [Lexer.tokenize_snd] at hnone
    obtain ⟨s, rest, h1, h2⟩ := hreads hnone
    rw [Lexer.tokenize_fst, Lexer.tokenize_fst, h1, h2]
    exact ⟨rfl, rfl, s, rfl, rfl⟩

/-- Under `i`, `[^a]` and `[a]` are refused or read together. -/
theorem folded_negation_reads_alike :
    ([0x61, 0x5D] : List Nat).head? ≠ some (Scan.unit '^') ∧
    (tokenize Unicode.tables ⟨[0x5B, 0x5E, 0x61, 0x5D], { ignoreCase := true }, {}⟩).toBool =
      (tokenize Unicode.tables ⟨[0x5B, 0x61, 0x5D], { ignoreCase := true }, {}⟩).toBool :=
  ⟨by decide, (negated_class_complements Unicode.tables [0x61, 0x5D] { ignoreCase := true } {}
    (by decide)).1⟩

end EcmaRegex
