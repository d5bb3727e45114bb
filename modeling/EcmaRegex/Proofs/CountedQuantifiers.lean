import Mathlib.Algebra.Group.Nat.Defs
import Mathlib.Data.List.TakeWhile
import EcmaRegex.Proofs.QuantifierPlacement
import EcmaRegex.Unicode.Tables
import EcmaRegex.Proofs.Backreferences
/-!
# Counted quantifiers

A `{` starts a counted quantifier when its bounds follow in one of three shapes: `n}` for
exactly `n` repetitions, `n,}` for at least `n`, and `n,m}` for `n` to `m`, each number a
nonempty run of decimal digits whose value saturates at `2 ^ 32 - 1`.  The grammar of the
bounds is the relation `Scan.CountedBounds`.  The scanner tries the three shapes with
look-aheads, in the order `n,}`, `n}`, `n,m}`, and `Scan.countedBounds_eq_some_iff` says that it
accepts exactly the inputs of the grammar, with the grammar's values.

A read of the lexer at `{` is then one of two things (`counted_quantifier_read`).  With bounds,
it is the quantifier with those bounds checked against the last token, exactly as for `*`, `+`
and `?` (`Lexer.nextToken_quantifierAfter`): the lower bound is never compared with the upper
one.  Without bounds, the unicode grammar fails with an incomplete quantifier whose span is
the `{` alone, and the legacy grammar reads the `{` as a literal; in both the read stops right
after the `{`, and nothing the scan of the bounds looked at is kept.
-/

namespace EcmaRegex

namespace Scan

/-! ## The grammar of the bounds -/

/-- A number of a counted quantifier: a nonempty run of decimal digits. -/
structure DecimalRun (ds : List Nat) : Prop where
  ne_nil : ds ≠ []
  decimal : ∀ x ∈ ds, isDecimal x = true

/-- The value of a run of decimal digits, saturated at `2 ^ 32 - 1`. -/
def saturatedValue (ds : List Nat) : Nat := min (decimalValue ds) u32Max

/-- The bounds after the `{` of a counted quantifier as the grammar writes them, `n}`, `n,}` or
`n,m}`, with the saturated values of the numbers and the input after the `}`. -/
inductive CountedBounds : List Nat → Nat → Option Nat → List Nat → Prop
  | exactly {ds : List Nat} (rest : List Nat) (h : DecimalRun ds) :
      CountedBounds (ds ++ unit '}' :: rest) (saturatedValue ds) (some (saturatedValue ds)) rest
  | atLeast {ds : List Nat} (rest : List Nat) (h : DecimalRun ds) :
      CountedBounds (ds ++ unit ',' :: unit '}' :: rest) (saturatedValue ds) none rest
  | between {ds es : List Nat} (rest : List Nat) (h : DecimalRun ds) (h' : DecimalRun es) :
      CountedBounds (ds ++ unit ',' :: (es ++ unit '}' :: rest)) (saturatedValue ds)
        (some (saturatedValue es)) rest

/-! ## Reading a number -/

theorem DecimalRun.startsWithSuch {ds : List Nat} (h : DecimalRun ds) (after : List Nat) :
    startsWithSuch (ds ++ after) isDecimal = true := by
  obtain ⟨d, ds', rfl⟩ := List.exists_cons_of_ne_nil h.ne_nil
  simp [Scan.startsWithSuch, h.decimal d List.mem_cons_self]

/-- A unit that is a digit is none of the units that end or split a number. -/
theorem DecimalRun.head_ne {ds : List Nat} (h : DecimalRun ds) {c : Nat}
    (hc : c = unit '}' ∨ c = unit ',') : ∃ d ds', ds = d :: ds' ∧ c ≠ d := by
  obtain ⟨d, ds', rfl⟩ := List.exists_cons_of_ne_nil h.ne_nil
  have hd := h.decimal d List.mem_cons_self
  simp only [isDecimal, unit, Char.reduceToNat, Bool.and_eq_true, decide_eq_true_eq] at hd
  refine ⟨d, ds', rfl, ?_⟩
  rcases hc with rfl | rfl <;> simp only [unit, Char.reduceToNat] <;> omega

/-- An input that starts with a digit is a run of digits followed by input that does not. -/
theorem exists_decimalRun {input : List Nat} (h : startsWithSuch input isDecimal = true) :
    ∃ ds after, input = ds ++ after ∧ DecimalRun ds ∧ startsWithSuch after isDecimal = false := by
  refine ⟨input.takeWhile isDecimal, input.dropWhile isDecimal,
    List.takeWhile_append_dropWhile.symm, ⟨?_, fun x hx => List.mem_takeWhile_imp hx⟩, ?_⟩
  · -- the first unit is a digit, so the run holds it
    cases input with
    | nil => cases h
    | cons c rest =>
      simp only [Scan.startsWithSuch, List.head?_cons, Option.any_some] at h
      simp [h]
  · -- the run stops at a unit that is no digit
    cases hd : input.dropWhile isDecimal with
    | nil => rfl
    | cons c r =>
      have hc := List.head_dropWhile_not isDecimal (l := input) (by simp [hd])
      simp only [hd, List.head_cons] at hc
      simp [Scan.startsWithSuch, hc]

/-- A run of digits followed by no digit is read whole, to its saturated value. -/
theorem decimalFrom_run {ds after : List Nat} (h : DecimalRun ds)
    (hafter : startsWithSuch after isDecimal = false) :
    decimalFrom 0 (ds ++ after) = (saturatedValue ds, after) := by
  have hsat := foldl_pushDecimal ds 0
  rw [Nat.zero_min] at hsat
  rw [decimalFrom_append h.decimal hafter, hsat]
  rfl

/-- Digits read onto a start value shift it one decimal place per digit. -/
theorem foldl_decimal_shift (ds : List Nat) (v : Nat) :
    ds.foldl (fun v x => v * 10 + (x - unit '0')) v = v * 10 ^ ds.length + decimalValue ds := by
  induction ds generalizing v with
  | nil => simp [decimalValue]
  | cons x ds ih =>
    -- the value of the run is its first digit shifted by the rest, read by the same fold
    have hvalue : decimalValue (x :: ds) =
        (0 * 10 + (x - unit '0')) * 10 ^ ds.length + decimalValue ds :=
      ih (0 * 10 + (x - unit '0'))
    rw [List.foldl_cons, ih, hvalue, List.length_cons]
    grind

/-- Reading digits onto a start value within the bound consumes exactly the maximal run of
digits in front of the input, and gives the start shifted by the run plus the run's value,
saturated once at `2 ^ 32 - 1`.  The scanner saturates after every digit; that comes to the
same because a value that reaches the bound stays there. -/
theorem decimalFrom_saturates {v : Nat} (hv : v ≤ u32Max) {ds after : List Nat}
    (hds : ∀ x ∈ ds, isDecimal x = true) (hafter : startsWithSuch after isDecimal = false) :
    decimalFrom v (ds ++ after) = (min (v * 10 ^ ds.length + decimalValue ds) u32Max, after) := by
  have hsat := foldl_pushDecimal ds v
  rw [Nat.min_eq_left hv, foldl_decimal_shift] at hsat
  rw [decimalFrom_append hds hafter, hsat]

/-- Fourteen nines read from zero, as in `a{99999999999999}`, saturate at `2 ^ 32 - 1` and stop
at the closing brace. -/
theorem fourteen_nines_saturate :
    decimalFrom 0 (List.replicate 14 (unit '9') ++ [unit '}']) = (u32Max, [unit '}']) := by
  rw [decimalFrom_saturates (Nat.zero_le _) (by decide) (by decide)]
  decide

/-! ## The scanner follows the grammar -/

theorem countedBounds_of_grammar {input rest : List Nat} {lo : Nat} {hi : Option Nat}
    (h : CountedBounds input lo hi rest) : countedBounds input = some (lo, hi, rest) := by
  cases h with
  | exactly rest hds =>
    -- `}` after the number: the look-ahead for `,}` fails and the one for `}` succeeds
    simp only [countedBounds, hds.startsWithSuch, decimalFrom_run hds (rfl : startsWithSuch
      (unit '}' :: rest) isDecimal = false)]
    simp [startsWith, List.isPrefixOf, unit]
  | atLeast rest hds =>
    simp only [countedBounds, hds.startsWithSuch, decimalFrom_run hds (rfl : startsWithSuch
      (unit ',' :: unit '}' :: rest) isDecimal = false)]
    simp [startsWith, List.isPrefixOf, unit]
  | between rest hds hes =>
    -- `,` and a second number: neither `,}` nor `}` follows the first number
    obtain ⟨e, es', rfl, hne⟩ := hes.head_ne (Or.inl rfl)
    simp only [unit, Char.reduceToNat] at hne
    simp only [countedBounds, hds.startsWithSuch, decimalFrom_run hds (rfl : startsWithSuch
      (unit ',' :: (e :: es' ++ unit '}' :: rest)) isDecimal = false)]
    have hsecond : decimalFrom 0 (e :: (es' ++ unit '}' :: rest)) =
        (saturatedValue (e :: es'), unit '}' :: rest) :=
      decimalFrom_run hes rfl
    have hdigit : startsWithSuch (e :: (es' ++ unit '}' :: rest)) isDecimal = true :=
      hes.startsWithSuch _
    simp only [unit, Char.reduceToNat] at hsecond hdigit
    simp [startsWith, List.isPrefixOf, unit, hne, hsecond, hdigit]

theorem grammar_of_countedBounds {input rest : List Nat} {lo : Nat} {hi : Option Nat}
    (h : countedBounds input = some (lo, hi, rest)) : CountedBounds input lo hi rest := by
  have hstart : startsWithSuch input isDecimal = true := by
    cases hs : startsWithSuch input isDecimal
    · simp [countedBounds, hs] at h
    · rfl
  obtain ⟨ds, after, rfl, hds, hafter⟩ := exists_decimalRun hstart
  simp only [countedBounds, hds.startsWithSuch, decimalFrom_run hds hafter, Bool.not_true,
    Bool.false_eq_true, if_false] at h
  split at h
  · -- `n,}`
    next hc =>
    obtain ⟨r, rfl⟩ : ∃ r, after = unit ',' :: unit '}' :: r := startsWith_iff.1 hc
    cases h
    exact .atLeast r hds
  split at h
  · -- `n}`
    next hc =>
    obtain ⟨r, rfl⟩ : ∃ r, after = unit '}' :: r := startsWith_iff.1 hc
    cases h
    exact .exactly r hds
  split at h
  · cases h
  -- `n,` and the second number
  next hcomma =>
  obtain ⟨mid, rfl⟩ : ∃ mid, after = unit ',' :: mid := startsWith_iff.1 (by simpa using hcomma)
  simp only [List.drop_succ_cons, List.drop_zero] at h
  split at h
  · cases h
  next hsecond =>
  obtain ⟨es, after', rfl, hes, hafter'⟩ := exists_decimalRun (by simpa using hsecond)
  rw [decimalFrom_run hes hafter'] at h
  split at h
  · next hc =>
    obtain ⟨r, rfl⟩ : ∃ r, after' = unit '}' :: r := startsWith_iff.1 hc
    cases h
    exact .between r hds hes
  · cases h

/-- The scanner reads bounds exactly where the grammar has them, with the grammar's values. -/
theorem countedBounds_eq_some_iff {input rest : List Nat} {lo : Nat} {hi : Option Nat} :
    countedBounds input = some (lo, hi, rest) ↔ CountedBounds input lo hi rest :=
  ⟨grammar_of_countedBounds, countedBounds_of_grammar⟩

theorem countedBounds_eq_none {input : List Nat}
    (h : ¬ ∃ lo hi rest, CountedBounds input lo hi rest) : countedBounds input = none := by
  cases hb : countedBounds input with
  | none => rfl
  | some b =>
    obtain ⟨lo, hi, rest⟩ := b
    exact absurd ⟨lo, hi, rest, grammar_of_countedBounds hb⟩ h

theorem CountedBounds.suffix {input rest : List Nat} {lo : Nat} {hi : Option Nat}
    (h : CountedBounds input lo hi rest) : rest <:+ input := by
  cases h with
  | exactly rest _ => exact (List.suffix_cons _ rest).trans (List.suffix_append _ _)
  | atLeast rest _ =>
    exact ((List.suffix_cons _ rest).trans (List.suffix_cons _ _)).trans (List.suffix_append _ _)
  | between rest _ _ =>
    exact (((List.suffix_cons _ rest).trans (List.suffix_append _ _)).trans
      (List.suffix_cons _ _)).trans (List.suffix_append _ _)

/-! ## The scan at `{` -/

variable {m : Mode} {groups : Nat} {last : Option TokenKind}

/-- At `{` the token is the scan of a quantifier. -/
theorem token_brace (input : List Nat) :
    token m groups last (unit '{' :: input) = quantifier m last (unit '{') input := by
  rw [token.eq_2, if_neg (by decide), if_neg (by decide), if_neg (by decide), if_pos (by decide)]

theorem token_counted {input rest : List Nat} {lo : Nat} {hi : Option Nat}
    (h : CountedBounds input lo hi rest) :
    token m groups last (unit '{' :: input) = quantifierAfter last lo hi rest := by
  rw [token_brace, quantifier, if_pos (by decide), countedBounds_of_grammar h]

theorem token_uncounted {input : List Nat} (h : ¬ ∃ lo hi rest, CountedBounds input lo hi rest) :
    token m groups last (unit '{' :: input) =
      if m.unicode then .error (.incompleteQuantifier, input) else .ok (single m (unit '{'), input) := by
  rw [token_brace, quantifier, if_pos (by decide), countedBounds_eq_none h]

/-- Whatever the last token, the check of a quantifier leaves the input after its `?`. -/
theorem quantifierAfter_rest (last : Option TokenKind) (min : Nat) (max : Option Nat)
    (input : List Nat) : (quantifierAfter last min max input).rest = afterLazy input := by
  unfold quantifierAfter
  split
  · rfl
  · split <;> rfl
  · rfl

theorem afterLazy_suffix (input : List Nat) : afterLazy input <:+ input := by
  unfold afterLazy
  split
  · exact List.drop_suffix 1 input
  · exact List.suffix_refl input

end Scan

namespace Lexer

variable {l : Lexer} {input : List Nat}

/-- A read at `{` followed by bounds goes on after the `}` and the `?` if any. -/
theorem nextToken_counted_rest {rest : List Nat} {lo : Nat} {hi : Option Nat}
    (hrest : l.rest = Scan.unit '{' :: input) (h : Scan.CountedBounds input lo hi rest) :
    l.nextToken.2.rest = Scan.afterLazy rest := by
  obtain ⟨pre, hpre⟩ := (Scan.afterLazy_suffix rest).trans h.suffix
  refine rest_eq_of_read (show l.rest = (Scan.unit '{' :: pre) ++ Scan.afterLazy rest by
    rw [hrest, ← hpre]; rfl) (nextToken_source l) ?_
  rw [nextToken_index_eq, hrest, Scan.token_counted h, Scan.quantifierAfter_rest]

/-- A read at `{` with no bounds after it: the unicode grammar fails with an incomplete
quantifier on the `{` alone, the legacy grammar reads the `{` as a literal; either way the read
stops after the `{` and keeps the group count, and the legacy read records a class. -/
theorem nextToken_uncounted (hrest : l.rest = Scan.unit '{' :: input)
    (h : ¬ ∃ lo hi rest, Scan.CountedBounds input lo hi rest) :
    (l.source.flags.unicode = true →
      ∃ e, l.nextToken = (.error e, { l with tokenStart := l.index, index := l.index + 1 }) ∧
        e.code = 1562 ∧ e.span = TextSpan.between (position l.index) (position (l.index + 1))) ∧
    (l.source.flags.unicode = false →
      l.nextToken = (.ok (Scan.single l.mode (Scan.unit '{')),
        { l with tokenStart := l.index, index := l.index + 1, lastToken := some .charClass })) := by
  have hscan := @Scan.token_uncounted l.mode l.groupCount l.lastToken input h
  rw [← hrest] at hscan
  -- the read stops right after the `{`
  have hone : l.size - input.length = l.index + 1 :=
    size_sub_of_rest (show l.rest = [Scan.unit '{'] ++ input from hrest) (List.cons_ne_nil _ _)
  refine ⟨fun hu => ?_, fun hu => ?_⟩
  · rw [show l.mode.unicode = true from hu, if_pos rfl] at hscan
    rw [nextToken_error hscan, hone]
    exact ⟨_, rfl, rfl, rfl⟩
  · rw [show l.mode.unicode = false from hu, if_neg Bool.false_ne_true] at hscan
    rw [nextToken_ok hscan, hone]
    rfl

end Lexer

/-- A read at `{` followed by `R`.  When `R` starts with bounds `n}`, `n,}` or `n,m}`, the read
is the quantifier with the saturated values of the numbers, in whatever order they stand,
greedy unless a `?` follows the `}`, checked against the last token: it is returned after a
token that can be repeated, refused with code 1561 after a quantifier and with code 1560 after
any other token or none, and reading goes on after the `}` and the `?`.  For any other `R`, the
unicode grammar fails with code 1562 on the span of the `{` alone, and the legacy grammar returns
the class of `{`, folded under the `i` flag; both stop right after the `{`, keep the group
count, and the memory of the last token changes only by the class the legacy grammar returns. -/
theorem counted_quantifier_read (l : Lexer) (input : List Nat)
    (hrest : l.rest = Scan.unit '{' :: input) :
    (∀ lo hi rest, Scan.CountedBounds input lo hi rest →
      ((∃ k, l.lastToken = some k ∧ k.isQuantifiable = true) →
        l.nextToken.1 = .ok (.quantifier ⟨lo, hi, !Scan.startsWith rest "?"⟩)) ∧
      (l.lastToken = some .quantifier → ∃ e, l.nextToken.1 = .error e ∧ e.code = 1561) ∧
      ((∀ k, l.lastToken = some k → k ≠ .quantifier ∧ k.isQuantifiable = false) →
        ∃ e, l.nextToken.1 = .error e ∧ e.code = 1560) ∧
      l.nextToken.2.rest = Scan.afterLazy rest) ∧
    ((¬ ∃ lo hi rest, Scan.CountedBounds input lo hi rest) →
      (l.source.flags.unicode = true →
        ∃ e, l.nextToken = (.error e, { l with tokenStart := l.index, index := l.index + 1 }) ∧
          e.code = 1562 ∧
          e.span = TextSpan.between (Lexer.position l.index) (Lexer.position (l.index + 1))) ∧
      (l.source.flags.unicode = false →
        l.nextToken = (.ok (Scan.single l.mode (Scan.unit '{')),
          { l with tokenStart := l.index, index := l.index + 1, lastToken := some .charClass }))) := by
  refine ⟨fun lo hi rest h => ?_, Lexer.nextToken_uncounted hrest⟩
  have hscan : Scan.token l.mode l.groupCount l.lastToken l.rest =
      Scan.quantifierAfter l.lastToken lo hi rest := by
    rw [hrest, Scan.token_counted h]
  obtain ⟨hok, hon, hnothing⟩ := Lexer.nextToken_quantifierAfter hscan
  exact ⟨fun ⟨k, hk, hq⟩ => hok k hk hq, hon, hnothing, Lexer.nextToken_counted_rest hrest h⟩

/-- After a literal, `{3,2}` is read as the quantifier from three to two: the bounds are
taken in the order they stand. -/
theorem reversed_bounds_repeat :
    let l := (Lexer.new Unicode.tables ⟨[0x61, 0x7B, 0x33, 0x2C, 0x32, 0x7D], {}, {}⟩).nextToken.2
    l.rest = Scan.unit '{' :: [0x33, 0x2C, 0x32, 0x7D] ∧
      l.nextToken.1 = .ok (.quantifier ⟨3, some 2, true⟩) := by
  intro l
  have hrest : l.rest = Scan.unit '{' :: [0x33, 0x2C, 0x32, 0x7D] := by decide
  have hb : Scan.CountedBounds ([0x33] ++ Scan.unit ',' :: ([0x32] ++ Scan.unit '}' :: []))
      (Scan.saturatedValue [0x33]) (some (Scan.saturatedValue [0x32])) [] :=
    .between [] ⟨List.cons_ne_nil _ _, by decide⟩ ⟨List.cons_ne_nil _ _, by decide⟩
  have hread := ((counted_quantifier_read l _ hrest).1 _ _ _ hb).1 ⟨.charClass, rfl, rfl⟩
  exact ⟨hrest, hread.trans rfl⟩

end EcmaRegex
