import EcmaRegex.Proofs.LiteralText
import EcmaRegex.Proofs.ByteRanges
/-!
# Backreferences and the groups opened

After a backslash, a decimal number `N` (its first digit `1` to `9`) is a backreference when a
group with that number is open by then, that is when `N` is below the count of groups opened so
far, the whole pattern counting as group one, or when a `(` stands anywhere after the number.
Otherwise the digits are read again from the first one as an ordinary escape: the unicode
grammar refuses it, and the legacy grammar reads the octal escape of Annex B that starts there,
or the digit itself for `8` and `9`.

The number saturates at `2 ^ 32 - 1` as it is read, digit by digit; saturating after every digit
gives the saturated value of the whole run (`Scan.foldl_pushDecimal`).  An octal escape of Annex
B takes up to three digits when the first is at most `3` and up to two otherwise, so that its
value is a byte; the scanner instead takes a digit while the value times eight stays a byte,
which comes to the same (`Scan.octalFrom_octalTail`).

The count of groups in the state of a lexer is that of the capture groups it has returned
(`Lexer.Remembers`), so the decision is stated over every session on a fresh lexer.
-/

namespace EcmaRegex

namespace Scan

/-! ### Numbers -/

/-- The value of a run of decimal digits. -/
def decimalValue (digits : List Nat) : Nat :=
  digits.foldl (fun v x => v * 10 + (x - unit '0')) 0

/-- The value of a run of octal digits. -/
def octalValue (digits : List Nat) : Nat :=
  digits.foldl (fun v x => v * 8 + (x - unit '0')) 0

/-- The octal digits that follow the first digit `d` of an octal escape of Annex B: as many as
stand there, at most two after a first digit up to `3` and at most one after `4` to `7`. -/
def octalTail (d : Nat) (rest : List Nat) : List Nat :=
  (rest.takeWhile isOctal).take (if d ≤ unit '3' then 2 else 1)

/-- A run of digits followed by no digit is read whole, pushing digit after digit. -/
theorem decimalFrom_append {v : Nat} {ds after : List Nat} (hds : ∀ x ∈ ds, isDecimal x = true)
    (hafter : startsWithSuch after isDecimal = false) :
    decimalFrom v (ds ++ after) = (ds.foldl (fun v x => pushDecimal v (x - unit '0')) v, after) := by
  induction ds generalizing v with
  | nil =>
    cases after with
    | nil => rfl
    | cons x rest =>
      have hx : isDecimal x = false := by simpa [startsWithSuch] using hafter
      simp only [List.nil_append, decimalFrom, hx, Bool.false_eq_true, if_false, List.foldl_nil]
  | cons x ds ih =>
    have hx : isDecimal x = true := hds x (List.mem_cons_self ..)
    rw [List.cons_append, decimalFrom, if_pos hx, ih (fun y hy => hds y (List.mem_cons_of_mem _ hy)),
      List.foldl_cons]

/-- Saturating after every digit gives the saturated value of the whole number: once the value
reaches the bound it stays there, and so does the value of any longer number. -/
theorem foldl_pushDecimal (ds : List Nat) (v : Nat) :
    ds.foldl (fun v x => pushDecimal v (x - unit '0')) (min v u32Max) =
      min (ds.foldl (fun v x => v * 10 + (x - unit '0')) v) u32Max := by
  induction ds generalizing v with
  | nil => rfl
  | cons x ds ih =>
    have hstep : pushDecimal (min v u32Max) (x - unit '0') = min (v * 10 + (x - unit '0')) u32Max := by
      simp only [pushDecimal, u32Max]
      omega
    rw [List.foldl_cons, List.foldl_cons, hstep, ih]

/-- The number after a backslash is the saturated value of its digits. -/
theorem decimalFrom_digits {d : Nat} {ds after : List Nat} (hd : d ≤ unit '9')
    (hds : ∀ x ∈ ds, isDecimal x = true) (hafter : startsWithSuch after isDecimal = false) :
    decimalFrom (d - unit '0') (ds ++ after) = (min (decimalValue (d :: ds)) u32Max, after) := by
  have hfirst : min (d - unit '0') u32Max = d - unit '0' := by
    simp only [unit, Char.reduceToNat, u32Max] at hd ⊢
    omega
  rw [decimalFrom_append hds hafter, ← hfirst, foldl_pushDecimal, decimalValue, List.foldl_cons,
    Nat.zero_mul, Nat.zero_add]

/-- The octal scanner stops at a unit that it may not take. -/
theorem octalFrom_stop {v n : Nat} {rest : List Nat}
    (h : ∀ x, rest.head? = some x → (isOctal x && decide (v * 8 ≤ 255)) = false) :
    octalFrom v n rest = (v, rest) := by
  match n, rest with
  | 0, _ => rfl
  | _ + 1, [] => rfl
  | _ + 1, x :: rest => rw [octalFrom, if_neg (by rw [h x rfl]; exact Bool.false_ne_true)]

theorem octalFrom_not_octal {v n x : Nat} {rest : List Nat} (hx : isOctal x = false) :
    octalFrom v n (x :: rest) = (v, x :: rest) :=
  octalFrom_stop fun _ hy => by cases hy; rw [hx, Bool.false_and]

/-- The scanner's octal digits are those of Annex B: a second digit is always taken, and a third
exactly when the first is at most `3`, since then the value times eight stays a byte. -/
theorem octalFrom_octalTail {d : Nat} (hd : isOctal d = true) (rest : List Nat) :
    octalFrom (d - unit '0') 2 rest =
      (octalValue (d :: octalTail d rest), rest.drop (octalTail d rest).length) := by
  simp only [isOctal, unit, Char.reduceToNat, Bool.and_eq_true, decide_eq_true_eq] at hd
  have hfirst : octalValue [d] = d - unit '0' := by simp [octalValue]
  cases rest with
  | nil => simp only [octalFrom, octalTail, List.takeWhile_nil, List.take_nil, hfirst,
      List.length_nil, List.drop_zero]
  | cons x rest =>
    cases hx : isOctal x
    · -- no second digit
      rw [octalFrom_not_octal hx]
      simp only [octalTail, List.takeWhile_cons, hx, Bool.false_eq_true, if_false, List.take_nil,
        hfirst, List.length_nil, List.drop_zero]
    · have hv : (d - unit '0') * 8 ≤ 255 := by
        simp only [unit, Char.reduceToNat]
        omega
      rw [octalFrom, if_pos (by simp only [hx, hv, decide_true, Bool.and_self])]
      have hx' : unit '0' ≤ x ∧ x ≤ unit '7' := by
        simpa only [isOctal, Bool.and_eq_true, decide_eq_true_eq] using hx
      by_cases h3 : d ≤ unit '3'
      · -- a first digit up to `3` leaves room for a third
        have hw : ((d - unit '0') * 8 + (x - unit '0')) * 8 ≤ 255 := by
          simp only [unit, Char.reduceToNat] at h3 hx' ⊢
          omega
        cases rest with
        | nil => simp [octalFrom, octalTail, octalValue, hx, h3]
        | cons y rest =>
          cases hy : isOctal y
          · rw [octalFrom_not_octal hy]
            simp [octalTail, octalValue, hx, hy, h3]
          · rw [octalFrom, if_pos (by simp only [hy, hw, decide_true, Bool.and_self])]
            simp [octalFrom, octalTail, octalValue, hx, hy, h3]
      · -- a first digit from `4` leaves none
        have hw : ¬ ((d - unit '0') * 8 + (x - unit '0')) * 8 ≤ 255 := by
          simp only [unit, Char.reduceToNat] at h3 hx' ⊢
          omega
        rw [octalFrom_stop (fun z _ => by simp only [hw, decide_false, Bool.and_false])]
        simp [octalTail, octalValue, hx, h3]

/-! ### The escape after a backslash -/

/-- A digit from `1` to `9` names no escape of its own: no class, no syntax character, no
control letter. -/
theorem digit_escapes_plain : ∀ j < 9,
    isPredefinedClass (49 + j) = false ∧ isSyntaxChar (49 + j) = false ∧
      controlLetter? (49 + j) = none := by
  decide

section Digit

variable {m : Mode} {groups d : Nat}

theorem digit_plain (hd : unit '1' ≤ d ∧ d ≤ unit '9') :
    isPredefinedClass d = false ∧ isSyntaxChar d = false ∧ controlLetter? d = none := by
  simp only [unit, Char.reduceToNat] at hd
  have h := digit_escapes_plain (d - 49) (by omega)
  rwa [Nat.add_sub_cancel' hd.1] at h

/-- A digit from `1` to `9` differs from every unit outside that range. -/
theorem digit_beq {c : Nat} (hd : unit '1' ≤ d ∧ d ≤ unit '9') (hc : c < unit '1' ∨ unit '9' < c) :
    (d == c) = false :=
  beq_false_of_ne (by simp only [unit, Char.reduceToNat] at hd hc ⊢; omega)

/-- A number that refers to an open group, or to a group opened later, is a backreference. -/
theorem escape_reference {number : Nat} {rest after : List Nat}
    (hd : unit '1' ≤ d ∧ d ≤ unit '9') (hdec : decimalFrom (d - unit '0') rest = (number, after))
    (href : number < groups ∨ unit '(' ∈ after) :
    escape m groups (d :: rest) = .ok (.backReference number, after) := by
  have hdigit : (decide (unit '1' ≤ d) && decide (d ≤ unit '9')) = true := by
    simp only [hd.1, hd.2, decide_true, Bool.and_self]
  have hcond : (decide (number < groups) || after.contains (unit '(')) = true := by
    simpa only [Bool.or_eq_true, decide_eq_true_eq, List.contains_iff_mem] using href
  simp only [escape, hdigit, if_true, hdec, hcond]

/-- A digit from `1` to `9` read as an ordinary escape: an octal escape of the legacy grammar,
or an escape that cannot be read. -/
theorem escapeChar_digit {rest : List Nat} (hd : unit '1' ≤ d ∧ d ≤ unit '9') :
    escapeChar m false (d :: rest) =
      if !m.unicode && isOctal d then .ok (octalFrom (d - unit '0') 2 rest)
      else unreadable m d .invalidEscape rest := by
  obtain ⟨-, hsyntax, hcontrol⟩ := digit_plain hd
  simp only [escapeChar, Bool.false_and, Bool.false_eq_true, if_false, hcontrol, hsyntax,
    digit_beq (c := unit '0') hd (by decide), digit_beq (c := unit 'c') hd (by decide),
    digit_beq (c := unit 'u') hd (by decide), digit_beq (c := unit 'x') hd (by decide)]

/-- Otherwise the digits are read again from the first as an ordinary escape: the legacy grammar
reads an octal escape or the digit itself, and the unicode grammar refuses the escape. -/
theorem escape_no_reference {number : Nat} {rest after : List Nat}
    (hd : unit '1' ≤ d ∧ d ≤ unit '9') (hdec : decimalFrom (d - unit '0') rest = (number, after))
    (href : ¬ (number < groups ∨ unit '(' ∈ after)) :
    escape m groups (d :: rest) =
      if !m.unicode && isOctal d then
        .ok (single m (octalFrom (d - unit '0') 2 rest).1, (octalFrom (d - unit '0') 2 rest).2)
      else if m.unicode then .error (.invalidEscape, rest) else .ok (single m d, rest) := by
  have hdigit : (decide (unit '1' ≤ d) && decide (d ≤ unit '9')) = true := by
    simp only [hd.1, hd.2, decide_true, Bool.and_self]
  have hcond : (decide (number < groups) || after.contains (unit '(')) = false := by
    rw [not_or] at href
    rw [Bool.or_eq_false_iff, decide_eq_false_iff_not, Bool.eq_false_iff, ne_eq,
      List.contains_iff_mem]
    exact href
  obtain ⟨hclass, -, -⟩ := digit_plain hd
  simp only [escape, hdigit, if_true, hdec, hcond, Bool.false_eq_true, if_false, hclass,
    digit_beq (c := unit 'b') hd (by decide), digit_beq (c := unit 'B') hd (by decide),
    digit_beq (c := unit 'p') hd (by decide), digit_beq (c := unit 'P') hd (by decide),
    Bool.or_false, Bool.and_false, escapeChar_digit hd]
  by_cases hoct : (!m.unicode && isOctal d) = true
  · simp only [hoct, if_true]
  · simp only [hoct, Bool.false_eq_true, if_false, unreadable]
    cases m.unicode <;> rfl

theorem token_backslash (lastToken : Option TokenKind) (rest : List Nat) :
    token m groups lastToken (unit '\\' :: rest) = escape m groups rest := rfl

end Digit

/-! ### A token at a backslash and a number -/

/-- The units after a backslash that start a number: a digit `d` from `1` to `9`, the digits
`ds` after it, and the rest of the input, which does not start with a digit. -/
structure DigitEscape (d : Nat) (ds after : List Nat) : Prop where
  first : unit '1' ≤ d ∧ d ≤ unit '9'
  digits : ∀ x ∈ ds, isDecimal x = true
  stop : startsWithSuch after isDecimal = false

section Number

variable {m : Mode} {groups : Nat} {lastToken : Option TokenKind} {d : Nat} {ds after : List Nat}

theorem token_reference (h : DigitEscape d ds after)
    (href : min (decimalValue (d :: ds)) u32Max < groups ∨ unit '(' ∈ after) :
    token m groups lastToken (unit '\\' :: d :: (ds ++ after)) =
      .ok (.backReference (min (decimalValue (d :: ds)) u32Max), after) := by
  rw [token_backslash]
  exact escape_reference h.first (decimalFrom_digits h.first.2 h.digits h.stop) href

theorem token_no_reference (h : DigitEscape d ds after)
    (href : ¬ (min (decimalValue (d :: ds)) u32Max < groups ∨ unit '(' ∈ after)) :
    token m groups lastToken (unit '\\' :: d :: (ds ++ after)) =
      if !m.unicode && isOctal d then
        .ok (single m (octalValue (d :: octalTail d (ds ++ after))),
          (ds ++ after).drop (octalTail d (ds ++ after)).length)
      else if m.unicode then .error (.invalidEscape, ds ++ after)
      else .ok (single m d, ds ++ after) := by
  rw [token_backslash, escape_no_reference h.first (decimalFrom_digits h.first.2 h.digits h.stop)
    href]
  by_cases hoct : (!m.unicode && isOctal d) = true
  · rw [if_pos hoct, if_pos hoct, octalFrom_octalTail (Bool.and_eq_true_iff.1 hoct).2]
  · rw [if_neg hoct, if_neg hoct]

end Number

/-- In the legacy grammar the class of one code point is folded by `Canonicalize` under the `i`
flag. -/
theorem single_legacy {m : Mode} (hu : m.unicode = false) (c : Nat) :
    single m c = .charClass (if m.flags.ignoreCase then
      CaseFold.apply m.library (CodePointSet.ofCodePoint c) false else CodePointSet.ofCodePoint c) := by
  simp only [single, classToken, Bool.false_eq_true, if_false]
  rw [show m.unicode = false from hu]

end Scan

namespace Lexer

/-- A read that leaves `post` of `l.rest = pre ++ post`, with `pre` not empty, moves the
position past `pre`. -/
theorem size_sub_of_rest {l : Lexer} {pre post : List Nat} (h : l.rest = pre ++ post)
    (hpre : pre ≠ []) : l.size - post.length = l.index + pre.length := by
  have hlen := rest_length l
  rw [h, List.length_append] at hlen
  have := List.length_pos_iff.2 hpre
  omega

section Number

variable {l : Lexer} {d : Nat} {ds after : List Nat}

/-- At a backslash and a number that refers to a group, the read returns the backreference and
stops after the number. -/
theorem nextToken_reference (hrest : l.rest = Scan.unit '\\' :: d :: (ds ++ after))
    (h : Scan.DigitEscape d ds after)
    (href : min (Scan.decimalValue (d :: ds)) Scan.u32Max < l.groupCount ∨ Scan.unit '(' ∈ after) :
    ∃ l', l.nextToken = (.ok (.backReference (min (Scan.decimalValue (d :: ds)) Scan.u32Max)), l') ∧
      l'.index = l.index + 2 + ds.length := by
  have hscan := @Scan.token_reference l.mode l.groupCount l.lastToken d ds after h href
  rw [← hrest] at hscan
  refine ⟨_, nextToken_ok hscan, ?_⟩
  show l.size - after.length = l.index + 2 + ds.length
  rw [size_sub_of_rest (show l.rest = (Scan.unit '\\' :: d :: ds) ++ after by rw [hrest]; rfl)
    (List.cons_ne_nil _ _), List.length_cons, List.length_cons]
  omega

/-- At a backslash and a number that refers to no group, the read returns no backreference: the
unicode grammar refuses the escape after its first digit, and the legacy grammar reads the octal
escape starting at the first digit, or that digit alone when it is `8` or `9`. -/
theorem nextToken_no_reference (hrest : l.rest = Scan.unit '\\' :: d :: (ds ++ after))
    (h : Scan.DigitEscape d ds after)
    (href : ¬ (min (Scan.decimalValue (d :: ds)) Scan.u32Max < l.groupCount ∨
      Scan.unit '(' ∈ after)) :
    (∀ k, l.nextToken.1 ≠ .ok (.backReference k)) ∧
      (l.source.flags.unicode = true →
        ∃ e, l.nextToken.1 = .error e ∧ e.code = 1501 ∧ l.nextToken.2.index = l.index + 2) ∧
      (l.source.flags.unicode = false → d ≤ Scan.unit '7' →
        l.nextToken.1 = .ok (Scan.single l.mode (Scan.octalValue (d :: Scan.octalTail d (ds ++ after)))) ∧
          l.nextToken.2.index = l.index + 2 + (Scan.octalTail d (ds ++ after)).length) ∧
      (l.source.flags.unicode = false → Scan.unit '8' ≤ d →
        l.nextToken.1 = .ok (Scan.single l.mode d) ∧ l.nextToken.2.index = l.index + 2) := by
  have hscan := @Scan.token_no_reference l.mode l.groupCount l.lastToken d ds after h href
  rw [← hrest] at hscan
  have hone : l.size - (ds ++ after).length = l.index + 2 := by
    rw [size_sub_of_rest (show l.rest = [Scan.unit '\\', d] ++ (ds ++ after) from hrest)
      (List.cons_ne_nil _ _)]
    rfl
  have hclass : ∀ v k, Scan.single l.mode v ≠ .backReference k := by
    intro v k hv
    simp only [Scan.single, Scan.classToken] at hv
    cases hv
  have hfirst := h.first
  simp only [Scan.unit, Char.reduceToNat] at hfirst
  cases hu : l.source.flags.unicode with
  | true =>
    -- the unicode grammar refuses the escape, stopping after the first digit
    have hm : l.mode.unicode = true := hu
    rw [hm, Bool.not_true, Bool.false_and, if_neg Bool.false_ne_true, if_pos rfl] at hscan
    rw [nextToken_error hscan]
    refine ⟨fun k hk => ?_, fun _ => ⟨_, rfl, rfl, hone⟩, fun h => absurd h (by decide),
      fun h => absurd h (by decide)⟩
    dsimp only at hk
    cases hk
  | false =>
    have hm : l.mode.unicode = false := hu
    rw [hm, Bool.not_false, Bool.true_and, if_neg Bool.false_ne_true] at hscan
    cases hoct : Scan.isOctal d
    · -- `8` and `9` are read as themselves
      rw [hoct, if_neg Bool.false_ne_true] at hscan
      have h8 : Scan.unit '8' ≤ d := by
        simp only [Scan.isOctal, Scan.unit, Char.reduceToNat, Bool.and_eq_false_iff,
          decide_eq_false_iff_not] at hoct
        simp only [Scan.unit, Char.reduceToNat]
        omega
      rw [nextToken_ok hscan]
      refine ⟨fun k hk => hclass d k (Except.ok.inj hk), fun h => absurd h Bool.false_ne_true,
        fun _ h7 => absurd h8 (by simp only [Scan.unit, Char.reduceToNat] at h7 ⊢; omega),
        fun _ _ => ⟨rfl, hone⟩⟩
    · -- the octal escape of Annex B starting at the first digit
      rw [hoct, if_pos rfl] at hscan
      have hpre : Scan.octalTail d (ds ++ after) <+: ds ++ after :=
        (List.take_prefix _ _).trans (List.takeWhile_prefix _)
      have hoctal : l.size - ((ds ++ after).drop (Scan.octalTail d (ds ++ after)).length).length =
          l.index + 2 + (Scan.octalTail d (ds ++ after)).length := by
        have hsplit := List.prefix_iff_eq_append.1 hpre
        rw [size_sub_of_rest (show l.rest = ([Scan.unit '\\', d] ++ Scan.octalTail d (ds ++ after)) ++
          (ds ++ after).drop (Scan.octalTail d (ds ++ after)).length by
            rw [List.append_assoc, hsplit, hrest]; rfl) (List.cons_ne_nil _ _)]
        simp only [List.length_append, List.length_cons, List.length_nil]
        omega
      rw [nextToken_ok hscan]
      refine ⟨fun k hk => hclass _ k (Except.ok.inj hk), fun h => absurd h Bool.false_ne_true,
        fun _ _ => ⟨rfl, hoctal⟩, fun _ h8 => ?_⟩
      simp only [Scan.isOctal, Scan.unit, Char.reduceToNat, Bool.and_eq_true,
        decide_eq_true_eq] at hoct
      simp only [Scan.unit, Char.reduceToNat] at h8
      omega

end Number

end Lexer

/-- In every session on a fresh lexer, a read at a backslash followed by a number whose first
digit is `1` to `9` returns the backreference to the number, saturated at `2 ^ 32 - 1`, and stops
after its digits exactly when the number is below the count of groups opened so far (one more
than the capture groups returned, saturating) or a `(` stands anywhere after it.  Otherwise it
returns no backreference: the unicode grammar fails with code 1501 after the first digit, and
the legacy grammar reads from the first digit the octal escape of Annex B, or the digit itself
for `8` and `9`, as a class of one code point folded under the `i` flag. -/
theorem backreference_needs_group (lib : UnicodeLibrary) (source : Source)
    (calls : List Lexer.Call) :
    let l := ((Lexer.new lib source).session calls).2
    let opened := (((Lexer.new lib source).session calls).1.filterMap Lexer.Reply.token?).countP
      (·.kind == .captureGroupBegin)
    let folded : CodePointSet → CodePointSet := fun s =>
      if source.flags.ignoreCase then CaseFold.apply lib s false else s
    ∀ d ds after, l.rest = Scan.unit '\\' :: d :: (ds ++ after) →
      Scan.unit '1' ≤ d → d ≤ Scan.unit '9' → (∀ x ∈ ds, Scan.isDecimal x = true) →
      Scan.startsWithSuch after Scan.isDecimal = false →
      let number := min (Scan.decimalValue (d :: ds)) Scan.u32Max
      let refers := number < min (1 + opened) Scan.u32Max ∨ Scan.unit '(' ∈ after
      ((∃ l', l.nextToken = (.ok (.backReference number), l') ∧
          l'.index = l.index + 2 + ds.length) ↔ refers) ∧
      (¬ refers →
        (∀ k, l.nextToken.1 ≠ .ok (.backReference k)) ∧
        (source.flags.unicode = true →
          ∃ e, l.nextToken.1 = .error e ∧ e.code = 1501 ∧ l.nextToken.2.index = l.index + 2) ∧
        (source.flags.unicode = false → d ≤ Scan.unit '7' →
          l.nextToken.1 = .ok (.charClass (folded (CodePointSet.ofCodePoint
            (Scan.octalValue (d :: Scan.octalTail d (ds ++ after)))))) ∧
          l.nextToken.2.index = l.index + 2 + (Scan.octalTail d (ds ++ after)).length) ∧
        (source.flags.unicode = false → Scan.unit '8' ≤ d →
          l.nextToken.1 = .ok (.charClass (folded (CodePointSet.ofCodePoint d))) ∧
          l.nextToken.2.index = l.index + 2)) := by
  intro l opened folded d ds after hrest h1 h9 hds hafter number refers
  have h : Scan.DigitEscape d ds after := ⟨⟨h1, h9⟩, hds, hafter⟩
  -- the state counts the capture groups the session returned
  have hgroups : l.groupCount = min (1 + opened) Scan.u32Max := by
    have hr := (Lexer.remembers_new lib source).session calls
    simpa using hr.groups
  have hsrc : l.source = source := Lexer.session_source _ calls
  have hlib : l.library = lib := Lexer.session_library _ calls
  have hsingle : source.flags.unicode = false → ∀ v,
      Scan.single l.mode v = .charClass (folded (CodePointSet.ofCodePoint v)) := by
    intro hu v
    have hm : l.mode.unicode = false := by
      show l.source.flags.unicode = false
      rw [hsrc]
      exact hu
    rw [Scan.single_legacy hm]
    show Token.charClass
      (if l.source.flags.ignoreCase = true then CaseFold.apply l.library _ false else _) = _
    rw [hsrc, hlib]
  constructor
  · constructor
    · rintro ⟨l', hl', -⟩
      refine Classical.byContradiction fun hnot => ?_
      have hno := (Lexer.nextToken_no_reference hrest h (hgroups ▸ hnot)).1 number
      rw [hl'] at hno
      exact hno rfl
    · intro href
      exact Lexer.nextToken_reference hrest h (hgroups ▸ href)
  · intro hnot
    obtain ⟨hno, huni, hoct, hlit⟩ := Lexer.nextToken_no_reference hrest h (hgroups ▸ hnot)
    refine ⟨hno, fun hu => huni (hsrc ▸ hu), fun hu h7 => ?_, fun hu h8 => ?_⟩
    · rw [← hsingle hu]
      exact hoct (hsrc ▸ hu) h7
    · rw [← hsingle hu]
      exact hlit (hsrc ▸ hu) h8

/-- `\12` at the start of a legacy pattern: no group is open and none follows, so it is the octal
escape `\12`, the code point 10. -/
theorem leading_digit_escape_is_octal :
    let source : Source := ⟨[0x5C, 0x31, 0x32], {}, {}⟩
    let l := ((Lexer.new Unicode.tables source).session []).2
    l.rest = Scan.unit '\\' :: 0x31 :: ([0x32] ++ []) ∧
      ¬ (min (Scan.decimalValue [0x31, 0x32]) Scan.u32Max < min (1 + 0) Scan.u32Max ∨
        Scan.unit '(' ∈ ([] : List Nat)) ∧
      l.nextToken.1 = .ok (.charClass (CodePointSet.ofCodePoint 10)) ∧
      l.nextToken.2.index = 3 := by
  intro source l
  have hrest : l.rest = Scan.unit '\\' :: 0x31 :: ([0x32] ++ []) := rfl
  have hnot : ¬ (min (Scan.decimalValue [0x31, 0x32]) Scan.u32Max < min (1 + 0) Scan.u32Max ∨
      Scan.unit '(' ∈ ([] : List Nat)) := by decide
  have hread := ((backreference_needs_group Unicode.tables source [] 0x31 [0x32] [] hrest (by decide) (by decide)
    (by decide) rfl).2 hnot).2.2.1 rfl (by decide)
  exact ⟨hrest, hnot, hread.1.trans rfl, hread.2.trans rfl⟩

end EcmaRegex
