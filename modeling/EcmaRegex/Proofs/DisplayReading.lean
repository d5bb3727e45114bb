import EcmaRegex.Token
import EcmaRegex.Unicode.TableText
/-!
# Reading displays back

Every token prints to a text from which it can be read back, so no two tokens print alike.
`Token.read` is that reading: it takes the kind's name up to the first space, then what follows
it, a code point set, a quantifier or a group number.  `Token.read_display` says that it gives
back every token from its display, and `displays_injective` draws the consequence for tokens,
code point sets and quantifiers.

A set prints its ranges between brackets, separated by spaces, each range one code point
`U+XXXX` or two joined by `-`.  A printed code point holds neither a space nor a `-`, so
splitting at the spaces and then at the dashes gives the ranges back, and the hexadecimal digits
are read whatever zeros pad them on the left.  Nothing here uses the normal form of a set: the
display of any range list determines it, with ranges out of order or with `lo > hi` too.  A
quantifier prints `{m}` only when its maximum equals its minimum, so a form without a comma is
read as that, and a form with a comma and nothing after it as unbounded.
-/

namespace EcmaRegex

/-! ## Hexadecimal code points -/

/-- The value of hexadecimal digits, most significant first, each read as table text reads it. -/
def hexValue (digits : List Char) : Nat :=
  digits.foldl (fun n c => n * 16 + TableText.digitValue c) 0

/-- A hexadecimal digit is read back as its value, and it is a letter or a decimal digit. -/
theorem hexDigit_read {d : Nat} (h : d < 16) :
    TableText.digitValue (hexDigit d) = d ∧ (hexDigit d).isAlphanum = true := by
  have table : ∀ d : Fin 16,
      TableText.digitValue (hexDigit d) = d ∧ (hexDigit d).isAlphanum = true := by decide
  exact table ⟨d, h⟩

theorem hexValue_concat (digits : List Char) (c : Char) :
    hexValue (digits ++ [c]) = hexValue digits * 16 + TableText.digitValue c := by
  simp [hexValue, List.foldl_append]

theorem hexValue_hexDigits (n : Nat) : hexValue (hexDigits n) = n := by
  fun_induction hexDigits n with
  | case1 n hn =>
    simp [hexValue, (hexDigit_read hn).1]
  | case2 n hn ih =>
    rw [hexValue_concat, ih, (hexDigit_read (Nat.mod_lt n (by decide))).1]
    omega

/-- Zeros on the left add nothing to the value. -/
theorem hexValue_zeros (k : Nat) (digits : List Char) :
    hexValue (List.replicate k '0' ++ digits) = hexValue digits := by
  have hzeros :
      ∀ k, (List.replicate k '0').foldl (fun n c => n * 16 + TableText.digitValue c) 0 = 0 := by
    intro k
    induction k with
    | zero => rfl
    | succ k ih => rw [List.replicate_succ', List.foldl_append, ih]; rfl
  rw [hexValue, List.foldl_append, hzeros, ← hexValue]

theorem hexValue_hexPadded (width n : Nat) : hexValue (hexPadded width n).toList = n := by
  rw [hexPadded, String.toList_ofList, hexValue_zeros, hexValue_hexDigits]

theorem isAlphanum_of_mem_hexDigits {c : Char} {n : Nat} (h : c ∈ hexDigits n) :
    c.isAlphanum = true := by
  fun_induction hexDigits n with
  | case1 n hn =>
    rw [List.mem_singleton.1 h]
    exact (hexDigit_read hn).2
  | case2 n hn ih =>
    rcases List.mem_append.1 h with h | h
    · exact ih h
    · rw [List.mem_singleton.1 h]
      exact (hexDigit_read (Nat.mod_lt n (by decide))).2

theorem isAlphanum_of_mem_hexPadded {c : Char} {width n : Nat}
    (h : c ∈ (hexPadded width n).toList) : c.isAlphanum = true := by
  rw [hexPadded, String.toList_ofList] at h
  rcases List.mem_append.1 h with h | h
  · rw [List.eq_of_mem_replicate h]
    rfl
  · exact isAlphanum_of_mem_hexDigits h

/-- Read a code point written `U+` and its hexadecimal digits. -/
def readCodePoint : List Char → Option Nat
  | 'U' :: '+' :: digits => some (hexValue digits)
  | _ => none

theorem codePointText_toList (n : Nat) :
    (codePointText n).toList = 'U' :: '+' :: (hexPadded 4 n).toList := by
  rw [codePointText, String.toList_append]
  rfl

theorem readCodePoint_text (n : Nat) : readCodePoint (codePointText n).toList = some n := by
  rw [codePointText_toList, readCodePoint, hexValue_hexPadded]

/-- A printed code point is `U`, `+` and then letters and digits. -/
theorem printable_of_mem_codePointText {c : Char} {n : Nat} (h : c ∈ (codePointText n).toList) :
    c.isAlphanum = true ∨ c = '+' := by
  rw [codePointText_toList] at h
  rcases List.mem_cons.1 h with rfl | h
  · exact .inl rfl
  rcases List.mem_cons.1 h with rfl | h
  · exact .inr rfl
  exact .inl (isAlphanum_of_mem_hexPadded h)

/-- A printed code point holds no space and no dash. -/
theorem separator_not_mem_codePointText {c : Char} (hc : c = ' ' ∨ c = '-') (n : Nat) :
    c ∉ (codePointText n).toList := fun h => by
  rcases hc with rfl | rfl <;> rcases printable_of_mem_codePointText h with h | h <;> cases h

/-! ## Ranges and sets -/

/-- Read a range written as one code point, or as two joined by `-`. -/
def readRange (text : List Char) : Option CodePointRange :=
  match text.splitOn '-' with
  | [point] => (readCodePoint point).map fun c => ⟨c, c⟩
  | [lo, hi] => (readCodePoint lo).bind fun lo => (readCodePoint hi).map fun hi => ⟨lo, hi⟩
  | _ => none

theorem readRange_text (r : CodePointRange) : readRange r.text.toList = some r := by
  have hdash := separator_not_mem_codePointText (Or.inr rfl)
  cases r with
  | mk lo hi =>
  by_cases h : lo = hi
  · subst h
    simp only [CodePointRange.text, if_pos, readRange, List.splitOn_eq_singleton (hdash lo),
      readCodePoint_text, Option.map_some]
  · have htext : (CodePointRange.text ⟨lo, hi⟩).toList =
        (codePointText lo).toList ++ '-' :: (codePointText hi).toList := by
      simp only [CodePointRange.text, if_neg h, String.toList_append, List.append_assoc]
      rfl
    rw [htext, readRange, List.splitOn_append_cons_self_of_not_mem (hdash lo),
      List.splitOn_eq_singleton (hdash hi)]
    simp only [readCodePoint_text, Option.bind_some, Option.map_some]

theorem text_ne_nil (r : CodePointRange) : r.text.toList ≠ [] := by
  unfold CodePointRange.text
  split <;> simp [String.toList_append, codePointText_toList]

theorem space_not_mem_text (r : CodePointRange) : ' ' ∉ r.text.toList := by
  have hspace := separator_not_mem_codePointText (Or.inl rfl)
  unfold CodePointRange.text
  split
  · exact hspace _
  · simp only [String.toList_append, List.mem_append, not_or]
    exact ⟨⟨hspace _, by decide⟩, hspace _⟩

namespace CodePointSet

/-- Read a set written as its ranges between brackets, separated by single spaces. -/
def read : List Char → Option CodePointSet
  | '[' :: rest =>
    if rest.getLast? = some ']' then
      if rest.dropLast = [] then some ⟨[]⟩
      else ((rest.dropLast.splitOn ' ').mapM readRange).map CodePointSet.mk
    else none
  | _ => none

theorem display_toList (s : CodePointSet) :
    s.display.toList = '[' :: ([' '].intercalate (s.ranges.map (·.text.toList)) ++ [']']) := by
  simp only [display, String.toList_append, String.toList_intercalate, List.map_map]
  rfl

theorem read_display (s : CodePointSet) : read s.display.toList = some s := by
  rw [display_toList, read, if_pos List.getLast?_concat, List.dropLast_concat]
  cases s with
  | mk ranges =>
  cases ranges with
  | nil => rfl
  | cons r rs =>
    -- splitting at the spaces gives the texts of the ranges back, and these are not empty
    have hsplit : ([' '].intercalate ((r :: rs).map (·.text.toList))).splitOn ' ' =
        (r :: rs).map (·.text.toList) :=
      List.splitOn_intercalate ' ' (fun _ hl => by
        obtain ⟨r', -, rfl⟩ := List.mem_map.1 hl
        exact space_not_mem_text r') (by simp)
    have hbody : [' '].intercalate ((r :: rs).map (·.text.toList)) ≠ [] := by
      intro hnil
      rw [hnil, List.splitOn_nil, List.map_cons, List.cons.injEq] at hsplit
      exact text_ne_nil r hsplit.1.symm
    have hread : (readRange ∘ fun r : CodePointRange => r.text.toList) = fun r => pure r :=
      funext readRange_text
    rw [if_neg hbody, hsplit, List.mapM_map, hread, List.mapM_pure, List.map_id']
    rfl

end CodePointSet

/-! ## Quantifiers -/

namespace Quantifier

/-- The bounds as the display writes them between the braces. -/
def boundsText (q : Quantifier) : List Char :=
  match q.max with
  | some m =>
    if m = q.min then Nat.toDigits 10 q.min else Nat.toDigits 10 q.min ++ ',' :: Nat.toDigits 10 m
  | none => Nat.toDigits 10 q.min ++ [',']

/-- Read the bounds between the braces, written `m`, `m,n` or `m,`. -/
def readBounds (bounds : List Char) (greedy : Bool) : Option Quantifier :=
  match bounds.splitOn ',' with
  | [m] => some ⟨Nat.ofDigitChars 10 m 0, some (Nat.ofDigitChars 10 m 0), greedy⟩
  | [m, n] =>
    some ⟨Nat.ofDigitChars 10 m 0, if n = [] then none else some (Nat.ofDigitChars 10 n 0), greedy⟩
  | _ => none

/-- Read a quantifier written between braces, with `?` after them when it is lazy. -/
def read : List Char → Option Quantifier
  | '{' :: rest =>
    let greedy := rest.getLast? != some '?'
    let braced := if greedy then rest else rest.dropLast
    if braced.getLast? = some '}' then readBounds braced.dropLast greedy else none
  | _ => none

theorem display_toList (q : Quantifier) :
    q.display.toList = '{' :: (q.boundsText ++ '}' :: (if q.greedy then [] else ['?'])) := by
  rcases q with ⟨min, max, greedy⟩
  simp only [display, boundsText]
  cases max with
  | none => cases greedy <;> simp
  | some m => by_cases h : m = min <;> cases greedy <;> simp [h]

theorem comma_not_mem_toDigits (n : Nat) : ',' ∉ Nat.toDigits 10 n := fun h =>
  absurd (Nat.isDigit_of_mem_toDigits (by decide) (by decide) h) (by decide)

theorem readBounds_boundsText (q : Quantifier) (greedy : Bool) :
    readBounds q.boundsText greedy = some ⟨q.min, q.max, greedy⟩ := by
  rcases q with ⟨min, max, greedy'⟩
  cases max with
  | none =>
    simp only [boundsText]
    rw [readBounds, List.splitOn_append_cons_self_of_not_mem (comma_not_mem_toDigits min),
      List.splitOn_nil]
    simp
  | some m =>
    simp only [boundsText]
    by_cases h : m = min
    · rw [if_pos h, readBounds, List.splitOn_eq_singleton (comma_not_mem_toDigits min), h]
      simp
    · rw [if_neg h, readBounds, List.splitOn_append_cons_self_of_not_mem (comma_not_mem_toDigits min),
        List.splitOn_eq_singleton (comma_not_mem_toDigits m)]
      simp [Nat.toDigits_ne_nil]

/-- The braces are taken off, and a `?` after them makes the quantifier lazy. -/
theorem read_braced (bounds : List Char) (greedy : Bool) :
    read ('{' :: (bounds ++ '}' :: (if greedy then [] else ['?']))) = readBounds bounds greedy := by
  cases greedy with
  | true =>
    have hclose : (some '}' != some '?') = true := by decide
    simp [read, hclose]
  | false =>
    have h : bounds ++ ['}', '?'] = (bounds ++ ['}']) ++ ['?'] := by simp
    simp only [Bool.false_eq_true, if_false, read, h, List.getLast?_concat]
    simp

theorem read_display (q : Quantifier) : read q.display.toList = some q := by
  rw [display_toList, read_braced, readBounds_boundsText]

end Quantifier

/-! ## Tokens -/

namespace TokenKind

/-- Every kind of token. -/
def all : List TokenKind :=
  [charClass, caret, dollar, alternation, captureGroupBegin, nonCaptureGroupBegin, lookAheadBegin,
    negativeLookAheadBegin, lookBehindBegin, groupEnd, quantifier, wordBoundary, nonWordBoundary,
    backReference]

/-- The kind with the given name. -/
def ofName? (name : List Char) : Option TokenKind :=
  all.find? (·.name.toList == name)

/-- The token of a kind that carries nothing besides its kind. -/
def bare? : TokenKind → Option Token
  | charClass | quantifier | backReference => none
  | caret => some .caret
  | dollar => some .dollar
  | alternation => some .alternation
  | captureGroupBegin => some .captureGroupBegin
  | nonCaptureGroupBegin => some .nonCaptureGroupBegin
  | lookAheadBegin => some .lookAheadBegin
  | negativeLookAheadBegin => some .negativeLookAheadBegin
  | lookBehindBegin => some .lookBehindBegin
  | groupEnd => some .groupEnd
  | wordBoundary => some .wordBoundary
  | nonWordBoundary => some .nonWordBoundary

/-- Read what follows the name of a kind in the display of a token of that kind: a set or a
quantifier after a space, a group number after a space and a backslash, or nothing. -/
def readAfterName : TokenKind → List Char → Option Token
  | charClass, ' ' :: set => (CodePointSet.read set).map .charClass
  | quantifier, ' ' :: q => (Quantifier.read q).map .quantifier
  | backReference, ' ' :: '\\' :: digits => some (.backReference (Nat.ofDigitChars 10 digits 0))
  | k, [] => k.bare?
  | _, _ => none

theorem readAfterName_nil (k : TokenKind) : k.readAfterName [] = k.bare? := by
  cases k <;> rfl

/-- Names are told apart, and none holds a space. -/
theorem name_read (k : TokenKind) : ofName? k.name.toList = some k ∧ ' ' ∉ k.name.toList := by
  cases k <;> decide

end TokenKind

namespace Token

/-- Read a token from its display: the name of its kind up to the first space, then what follows
the name. -/
def read (text : List Char) : Option Token :=
  (TokenKind.ofName? (text.takeWhile (· != ' '))).bind fun k =>
    k.readAfterName (text.dropWhile (· != ' '))

/-- A kind's name followed by nothing or by a space is read as that kind, and what follows the
name is read after it. -/
theorem read_name_append (k : TokenKind) {rest : List Char} (hrest : ∀ c ∈ rest.head?, c = ' ') :
    read (k.name.toList ++ rest) = k.readAfterName rest := by
  have hname : ∀ c ∈ k.name.toList, (c != ' ') = true := fun c hc =>
    bne_iff_ne.2 fun h => k.name_read.2 (h ▸ hc)
  have hstop : rest.takeWhile (· != ' ') = [] ∧ rest.dropWhile (· != ' ') = rest := by
    cases rest with
    | nil => exact ⟨rfl, rfl⟩
    | cons c r =>
      obtain rfl := hrest c rfl
      simp
  rw [read, List.takeWhile_append_of_pos hname, List.dropWhile_append_of_pos hname, hstop.1,
    hstop.2, List.append_nil, k.name_read.1, Option.bind_some]

/-- A token that carries nothing besides its kind prints as the kind's name. -/
theorem read_bare {t : Token} (hbare : t.kind.bare? = some t) (hdisplay : t.display = t.kind.name) :
    read t.display.toList = some t := by
  rw [hdisplay, ← List.append_nil t.kind.name.toList, read_name_append _ (fun _ h => by cases h),
    TokenKind.readAfterName_nil, hbare]

theorem read_display (t : Token) : read t.display.toList = some t := by
  cases t with
  | charClass s =>
    have htext : (charClass s).display.toList =
        TokenKind.charClass.name.toList ++ ' ' :: s.display.toList := by
      show ("CharClass " ++ s.display).toList = _
      rw [String.toList_append]
      rfl
    rw [htext, read_name_append _ (by simp), TokenKind.readAfterName, CodePointSet.read_display,
      Option.map_some]
  | quantifier q =>
    have htext : (quantifier q).display.toList =
        TokenKind.quantifier.name.toList ++ ' ' :: q.display.toList := by
      show ("Quantifier " ++ q.display).toList = _
      rw [String.toList_append]
      rfl
    rw [htext, read_name_append _ (by simp), TokenKind.readAfterName, Quantifier.read_display,
      Option.map_some]
  | backReference n =>
    have htext : (backReference n).display.toList =
        TokenKind.backReference.name.toList ++ ' ' :: '\\' :: Nat.toDigits 10 n := by
      show ("BackReference \\" ++ toString n).toList = _
      simp only [String.toList_append, Nat.toString_eq_ofList_toDigits, String.toList_ofList]
      rfl
    rw [htext, read_name_append _ (by simp), TokenKind.readAfterName, Nat.ofDigitChars_ten_toDigits]
  | caret | dollar | alternation | captureGroupBegin | nonCaptureGroupBegin | lookAheadBegin
  | negativeLookAheadBegin | lookBehindBegin | groupEnd | wordBoundary | nonWordBoundary =>
    exact read_bare rfl rfl

end Token

/-- A printing that can be read back prints no two values alike. -/
theorem injective_of_read {α : Type} {print : α → String} {read : List Char → Option α}
    (h : ∀ a, read (print a).toList = some a) : Function.Injective print := by
  intro a b hab
  have hread := h a
  rw [hab, h b] at hread
  exact (Option.some.inj hread).symm

/-- No two tokens print alike, and neither do two code point sets, in normal form or not, nor
two quantifiers, whatever their bounds. -/
theorem displays_injective :
    Function.Injective Token.display ∧ Function.Injective CodePointSet.display ∧
      Function.Injective Quantifier.display :=
  ⟨injective_of_read Token.read_display, injective_of_read CodePointSet.read_display,
    injective_of_read Quantifier.read_display⟩

end EcmaRegex
