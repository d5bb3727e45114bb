import EcmaRegex.Diagnostic
/-!
# Filling message templates

`fillTemplate` fills the placeholders `{0}`, `{1}`, … of a message template one argument at a
time: first every `{0}` of the template, then every `{1}` of the result, and so on.  Text put in
for an earlier argument is therefore searched again for the later placeholders, and the result
can differ from filling the template in one scan (`Template.fillOnce`), which never reads the
text it puts in: `fillTemplate_refills_arguments` fills `{0}{1}` with `{1}` and `x` into `xx`,
where one scan gives `{1}x`.

The two agree when no argument holds a `}` and every `}` of the template closes a placeholder of
an argument (`Template.Holes`): no placeholder can then be made out of the text put in, nor out
of that text and the template around it.  Every message of the lexer is such a template, and its
arguments, property names and values read up to the first `}`, hold no `}`.  The main statement
is `fillTemplate_fills_once`.

The proof reads a template as characters other than `}` and placeholders.  One replacement step
keeps that form, with the placeholders of the replaced argument turned into its text
(`replaceAll_holes`), and does not change what one scan gives (`fillOnce_replaceAll`).
-/

namespace EcmaRegex

namespace Template

/-! ## Placeholders -/

/-- The placeholder `{i}` of argument `i`, as a template writes it. -/
def placeholder (i : Nat) : List Char := ("\x7b" ++ toString i ++ "\x7d").toList

theorem placeholder_eq (i : Nat) : placeholder i = '{' :: (Nat.toDigits 10 i ++ ['}']) := by
  simp [placeholder, Nat.toString_eq_repr, Nat.repr_eq_ofList_toDigits]

theorem isDigit_of_mem_toDigits {c : Char} {i : Nat} (h : c ∈ Nat.toDigits 10 i) :
    c.isDigit = true :=
  Nat.isDigit_of_mem_toDigits (by decide) (by decide) h

theorem ne_close_of_mem_toDigits {c : Char} {i : Nat} (h : c ∈ Nat.toDigits 10 i) : c ≠ '}' := by
  rintro rfl
  exact absurd (isDigit_of_mem_toDigits h) (by decide)

theorem ne_open_of_mem_toDigits {c : Char} {i : Nat} (h : c ∈ Nat.toDigits 10 i) : c ≠ '{' := by
  rintro rfl
  exact absurd (isDigit_of_mem_toDigits h) (by decide)

theorem length_toString (i : Nat) : (toString i).length = (Nat.toDigits 10 i).length := by
  rw [Nat.toString_eq_repr, Nat.repr_eq_ofList_toDigits, String.length_ofList]

/-- Two texts without `}`, each closed by a `}`, of which one starts the other, are equal. -/
theorem eq_of_prefix_closed {d e r : List Char} (hd : '}' ∉ d) (he : '}' ∉ e)
    (h : d ++ ['}'] <+: e ++ '}' :: r) : d = e := by
  induction d generalizing e with
  | nil =>
    cases e with
    | nil => rfl
    | cons y e =>
      simp only [List.nil_append, List.cons_append, List.cons_prefix_cons] at h
      exact absurd (List.mem_cons_self) (h.1 ▸ he)
  | cons x d ih =>
    cases e with
    | nil =>
      simp only [List.cons_append, List.nil_append, List.cons_prefix_cons] at h
      exact absurd (List.mem_cons_self) (h.1 ▸ hd)
    | cons y e =>
      simp only [List.cons_append, List.cons_prefix_cons] at h
      rw [h.1, ih (fun hm => hd (List.mem_cons_of_mem x hm))
        (fun hm => he (List.mem_cons_of_mem y hm)) h.2]

/-- A placeholder starts the text of another placeholder only if they are the same. -/
theorem eq_of_placeholder_isPrefixOf {i j : Nat} {rest : List Char}
    (h : (placeholder j).isPrefixOf (placeholder i ++ rest) = true) : j = i := by
  rw [List.isPrefixOf_iff_prefix, placeholder_eq, placeholder_eq, List.cons_append,
    List.cons_prefix_cons, List.append_assoc, List.singleton_append] at h
  have hdigits := eq_of_prefix_closed (fun hm => ne_close_of_mem_toDigits hm rfl)
    (fun hm => ne_close_of_mem_toDigits hm rfl) h.2
  rw [← Nat.ofDigitChars_ten_toDigits (n := j), hdigits, Nat.ofDigitChars_ten_toDigits]

/-! ## Where a placeholder can start -/

/-- Whether the characters start with digits followed by `}`, as the rest of a placeholder
does after its `{`. -/
def closesAfterDigits : List Char → Bool
  | [] => false
  | c :: cs => c == '}' || (c.isDigit && closesAfterDigits cs)

theorem closesAfterDigits_digits {d : List Char} (hd : ∀ c ∈ d, c.isDigit = true)
    (r : List Char) : closesAfterDigits (d ++ '}' :: r) = true := by
  induction d with
  | nil => rfl
  | cons c d ih =>
    rw [List.cons_append, closesAfterDigits, hd c List.mem_cons_self,
      ih fun x hx => hd x (List.mem_cons_of_mem c hx)]
    simp

/-- Text without `}` before text that closes no placeholder closes none either. -/
theorem closesAfterDigits_append {x rest : List Char} (hx : '}' ∉ x)
    (hrest : closesAfterDigits rest = false) : closesAfterDigits (x ++ rest) = false := by
  induction x with
  | nil => exact hrest
  | cons c x ih =>
    have hc : (c == '}') = false := beq_false_of_ne fun h => hx (h ▸ List.mem_cons_self)
    rw [List.cons_append, closesAfterDigits, hc, ih fun hm => hx (List.mem_cons_of_mem c hm)]
    simp

/-- A placeholder starts only at a `{` followed by digits and a `}`. -/
theorem not_prefix_of_closesAfterDigits {i : Nat} {c : Char} {cs : List Char}
    (h : closesAfterDigits cs = false) : (placeholder i).isPrefixOf (c :: cs) = false := by
  rw [← Bool.not_eq_true]
  intro hpre
  rw [List.isPrefixOf_iff_prefix, placeholder_eq] at hpre
  obtain ⟨r, hr⟩ := hpre
  simp only [List.cons_append, List.cons.injEq] at hr
  rw [← hr.2, List.append_assoc, List.singleton_append,
    closesAfterDigits_digits (fun x hx => isDigit_of_mem_toDigits hx) r] at h
  cases h

theorem not_prefix_of_ne_open {i : Nat} {c : Char} {cs : List Char} (hc : c ≠ '{') :
    (placeholder i).isPrefixOf (c :: cs) = false := by
  rw [placeholder_eq, List.isPrefixOf_cons_cons]
  simp [Ne.symm hc]

/-! ## Templates of text and placeholders -/

/-- A text whose every `}` closes a placeholder `{i}` with `lo ≤ i < hi`: it reads as characters
other than `}` and such placeholders. -/
inductive Holes (lo hi : Nat) : List Char → Prop where
  | nil : Holes lo hi []
  | char {c : Char} {cs : List Char} : c ≠ '}' → Holes lo hi cs → Holes lo hi (c :: cs)
  | hole {i : Nat} {cs : List Char} :
      lo ≤ i → i < hi → Holes lo hi cs → Holes lo hi (placeholder i ++ cs)

theorem Holes.text {lo hi : Nat} {x rest : List Char} (hx : '}' ∉ x) (hrest : Holes lo hi rest) :
    Holes lo hi (x ++ rest) := by
  induction x with
  | nil => exact hrest
  | cons c x ih =>
    exact .char (fun h => hx (h ▸ List.mem_cons_self))
      (ih fun hm => hx (List.mem_cons_of_mem c hm))

theorem Holes.of_not_mem_close {lo hi : Nat} {x : List Char} (hx : '}' ∉ x) : Holes lo hi x := by
  simpa using Holes.text hx (.nil : Holes lo hi [])

/-- Such a text closes no placeholder at its start. -/
theorem Holes.closesAfterDigits_eq {lo hi : Nat} {t : List Char} (h : Holes lo hi t) :
    closesAfterDigits t = false := by
  cases h with
  | nil => rfl
  | char hc hcs =>
    rw [closesAfterDigits, beq_false_of_ne hc, hcs.closesAfterDigits_eq]
    simp
  | hole => rw [placeholder_eq]; rfl

/-- A text with no placeholder to hold has no `}`. -/
theorem Holes.not_mem_close {lo hi : Nat} {t : List Char} (h : Holes lo hi t) (hle : hi ≤ lo) :
    '}' ∉ t := by
  induction h with
  | nil => exact List.not_mem_nil
  | char hc _ ih => exact fun hm => (List.mem_cons.1 hm).elim (fun e => hc e.symm) ih
  | hole hlo hhi => omega

/-! ## One replacement step -/

theorem replaceAll_nil (m : Nat) (a : List Char) : replaceAll (placeholder m) a [] = [] := by
  rw [placeholder_eq, replaceAll]

theorem replaceAll_cons {m : Nat} {a : List Char} {c : Char} {cs : List Char}
    (h : (placeholder m).isPrefixOf (c :: cs) = false) :
    replaceAll (placeholder m) a (c :: cs) = c :: replaceAll (placeholder m) a cs := by
  rw [placeholder_eq] at h ⊢
  rw [replaceAll, if_neg (by rw [h]; decide)]

/-- Text without `}`, before text that closes no placeholder, is kept. -/
theorem replaceAll_text {m : Nat} {a x rest : List Char} (hx : '}' ∉ x)
    (hrest : closesAfterDigits rest = false) :
    replaceAll (placeholder m) a (x ++ rest) = x ++ replaceAll (placeholder m) a rest := by
  induction x with
  | nil => rfl
  | cons c x ih =>
    have hx' : '}' ∉ x := fun hm => hx (List.mem_cons_of_mem c hm)
    rw [List.cons_append, replaceAll_cons (not_prefix_of_closesAfterDigits
      (closesAfterDigits_append hx' hrest)), ih hx', List.cons_append]

/-- Text without `{` is kept. -/
theorem replaceAll_of_not_open {m : Nat} {a x rest : List Char} (hx : '{' ∉ x) :
    replaceAll (placeholder m) a (x ++ rest) = x ++ replaceAll (placeholder m) a rest := by
  induction x with
  | nil => rfl
  | cons c x ih =>
    rw [List.cons_append, replaceAll_cons (not_prefix_of_ne_open fun h => hx (h ▸ List.mem_cons_self)),
      ih fun hm => hx (List.mem_cons_of_mem c hm), List.cons_append]

/-- The placeholder being replaced becomes its text. -/
theorem replaceAll_same (m : Nat) (a rest : List Char) :
    replaceAll (placeholder m) a (placeholder m ++ rest) = a ++ replaceAll (placeholder m) a rest := by
  rw [placeholder_eq, List.cons_append, replaceAll,
    if_pos (by rw [List.isPrefixOf_iff_prefix]; exact List.prefix_append _ _)]
  congr 2
  rw [List.drop_succ_cons, List.drop_left]

/-- Any other placeholder is kept. -/
theorem replaceAll_other {m i : Nat} (hne : i ≠ m) (a rest : List Char) :
    replaceAll (placeholder m) a (placeholder i ++ rest) =
      placeholder i ++ replaceAll (placeholder m) a rest := by
  have hpre : (placeholder m).isPrefixOf (placeholder i ++ rest) = false := by
    rw [← Bool.not_eq_true]
    exact fun h => hne (eq_of_placeholder_isPrefixOf h).symm
  rw [placeholder_eq i, List.cons_append] at hpre ⊢
  rw [replaceAll_cons hpre,
    replaceAll_of_not_open (fun hm => (List.mem_append.1 hm).elim
      (fun hd => ne_open_of_mem_toDigits hd rfl) (by simp)), List.cons_append]

/-- Replacing the placeholders of argument `m` by a text without `}` leaves the placeholders of
the later arguments and text without `}`. -/
theorem replaceAll_holes {m hi : Nat} {a t : List Char} (ht : Holes m hi t) (ha : '}' ∉ a) :
    Holes (m + 1) hi (replaceAll (placeholder m) a t) := by
  induction ht with
  | nil =>
    rw [replaceAll_nil]
    exact .nil
  | char hc hcs ih =>
    rw [← List.singleton_append, replaceAll_text (by simpa using Ne.symm hc)
      hcs.closesAfterDigits_eq]
    exact .char hc ih
  | @hole i cs hlo hhi hcs ih =>
    by_cases him : i = m
    · rw [him, replaceAll_same]
      exact .text ha ih
    · rw [replaceAll_other him]
      exact .hole (by omega) hhi ih

/-! ## Filling in one scan -/

/-- Fill a template in one scan from the left: each placeholder `{i}` of an argument is replaced
by the argument and the scan goes on after it, so text put in is never read again. -/
def fillOnce (args : List String) : List Char → List Char
  | [] => []
  | c :: cs =>
    match (List.range args.length).find? fun i => (placeholder i).isPrefixOf (c :: cs) with
    | some i => (args.getD i "").toList ++ fillOnce args (cs.drop ((toString i).length + 1))
    | none => c :: fillOnce args cs
termination_by cs => cs.length
decreasing_by
  all_goals simp only [List.length_drop, List.length_cons]
  all_goals omega

theorem fillOnce_nil (args : List String) : fillOnce args [] = [] := by
  rw [fillOnce]

theorem fillOnce_of_no_placeholder (args : List String) {c : Char} {cs : List Char}
    (h : ∀ i, (placeholder i).isPrefixOf (c :: cs) = false) :
    fillOnce args (c :: cs) = c :: fillOnce args cs := by
  rw [fillOnce, (List.find?_range_eq_none.2 fun i _ => by rw [h i]; rfl)]

/-- With no arguments there is nothing to fill. -/
theorem fillOnce_no_args (t : List Char) : fillOnce [] t = t := by
  induction t with
  | nil => rw [fillOnce]
  | cons c cs ih =>
    rw [fillOnce, List.length_nil, List.range_zero, List.find?_nil, ih]

/-- Text without `}`, before text that closes no placeholder, is kept. -/
theorem fillOnce_text (args : List String) {x rest : List Char} (hx : '}' ∉ x)
    (hrest : closesAfterDigits rest = false) :
    fillOnce args (x ++ rest) = x ++ fillOnce args rest := by
  induction x with
  | nil => rfl
  | cons c x ih =>
    have hx' : '}' ∉ x := fun hm => hx (List.mem_cons_of_mem c hm)
    rw [List.cons_append, fillOnce_of_no_placeholder args fun i =>
      not_prefix_of_closesAfterDigits (closesAfterDigits_append hx' hrest), ih hx',
      List.cons_append]

/-- A placeholder of an argument becomes the argument. -/
theorem fillOnce_placeholder {args : List String} {i : Nat} (hi : i < args.length)
    (rest : List Char) :
    fillOnce args (placeholder i ++ rest) = (args.getD i "").toList ++ fillOnce args rest := by
  have hfind : ((List.range args.length).find? fun j =>
      (placeholder j).isPrefixOf (placeholder i ++ rest)) = some i := by
    rw [List.find?_range_eq_some]
    refine ⟨by rw [List.isPrefixOf_iff_prefix]; exact List.prefix_append _ _,
      List.mem_range.2 hi, fun j hj => ?_⟩
    rw [Bool.not_eq_true']
    rw [← Bool.not_eq_true]
    exact fun h => Nat.ne_of_lt hj (eq_of_placeholder_isPrefixOf h)
  have hdrop : ((Nat.toDigits 10 i ++ ['}']) ++ rest).drop ((toString i).length + 1) = rest := by
    rw [length_toString, show (Nat.toDigits 10 i).length + 1 = (Nat.toDigits 10 i ++ ['}']).length
      by simp, List.drop_left]
  rw [placeholder_eq i, List.cons_append] at hfind ⊢
  rw [fillOnce, hfind]
  simp only
  rw [hdrop]

/-- One replacement step of an argument without `}` does not change what one scan gives. -/
theorem fillOnce_replaceAll {args : List String} {m : Nat} {t : List Char}
    (ht : Holes m args.length t) (ha : '}' ∉ (args.getD m "").toList) :
    fillOnce args (replaceAll (placeholder m) (args.getD m "").toList t) = fillOnce args t := by
  induction ht with
  | nil => rw [replaceAll_nil]
  | @char c cs hc hcs ih =>
    have hc' : '}' ∉ [c] := by simpa using Ne.symm hc
    rw [← List.singleton_append, replaceAll_text hc' hcs.closesAfterDigits_eq,
      fillOnce_text args hc' (replaceAll_holes hcs ha).closesAfterDigits_eq, ih,
      fillOnce_text args hc' hcs.closesAfterDigits_eq]
  | @hole i cs hlo hhi hcs ih =>
    by_cases him : i = m
    · subst him
      rw [replaceAll_same, fillOnce_text args ha (replaceAll_holes hcs ha).closesAfterDigits_eq,
        ih, fillOnce_placeholder hhi]
    · rw [replaceAll_other him, fillOnce_placeholder hhi, fillOnce_placeholder hhi, ih]

/-! ## Filling argument by argument -/

/-- One step of `fillTemplate`: the placeholders of the next argument replaced by its text. -/
def fillStep (acc : List Char × Nat) (arg : String) : List Char × Nat :=
  (replaceAll (placeholder acc.2) arg.toList acc.1, acc.2 + 1)

theorem fillTemplate_eq_foldl (template : String) (args : List String) :
    fillTemplate template args = String.ofList (args.foldl fillStep (template.toList, 0)).1 :=
  rfl

/-- The fill from argument `m` on, over a text whose placeholders are those of arguments `m` and
later, ends in text without `}` that one scan gives the same fill for. -/
theorem foldl_fill {args : List String} (hargs : ∀ a ∈ args, '}' ∉ a.toList) :
    ∀ (m : Nat) (t : List Char), Holes m args.length t →
      '}' ∉ ((args.drop m).foldl fillStep (t, m)).1 ∧
        fillOnce args ((args.drop m).foldl fillStep (t, m)).1 = fillOnce args t := by
  intro m
  -- the induction is on the arguments still to fill
  induction h : args.drop m generalizing m with
  | nil =>
    intro t ht
    have hlen : args.length ≤ m := List.drop_eq_nil_iff.1 h
    exact ⟨ht.not_mem_close hlen, rfl⟩
  | cons a rest ih =>
    intro t ht
    have hm : m < args.length := by
      refine Nat.lt_of_not_le fun hle => ?_
      rw [List.drop_eq_nil_of_le hle] at h
      cases h
    have ha : args.getD m "" = a := by
      rw [List.getD_eq_getElem?_getD, ← Nat.add_zero m, ← List.getElem?_drop, h]
      rfl
    have hrest : args.drop (m + 1) = rest := by
      rw [← List.drop_drop, h, List.drop_one, List.tail_cons]
    have hfresh : '}' ∉ (args.getD m "").toList :=
      ha ▸ hargs a (List.mem_of_mem_drop (h ▸ List.mem_cons_self))
    have hstep : fillStep (t, m) a = (replaceAll (placeholder m) (args.getD m "").toList t, m + 1) := by
      rw [ha]
      rfl
    rw [List.foldl_cons, hstep]
    obtain ⟨hclose, hfill⟩ := ih (m + 1) hrest _ (replaceAll_holes ht hfresh)
    exact ⟨hclose, hfill.trans (fillOnce_replaceAll ht hfresh)⟩

/-- Filling argument by argument gives the one-scan fill when no argument holds a `}` and every
`}` of the template closes a placeholder of an argument. -/
theorem fillTemplate_eq_fillOnce {template : String} {args : List String}
    (hargs : ∀ a ∈ args, '}' ∉ a.toList) (htemplate : Holes 0 args.length template.toList) :
    fillTemplate template args = String.ofList (fillOnce args template.toList) := by
  obtain ⟨hclose, hfill⟩ := foldl_fill hargs 0 template.toList htemplate
  rw [List.drop_zero] at hclose hfill
  -- the text left has no `}`, so one scan keeps it
  have hkept := @fillOnce_text args _ [] hclose rfl
  rw [List.append_nil, fillOnce_nil, List.append_nil] at hkept
  rw [fillTemplate_eq_foldl, ← hfill, hkept]

end Template

namespace Template

/-- With no arguments a template is its own fill. -/
theorem fillTemplate_no_args (template : String) :
    fillTemplate template [] = String.ofList (fillOnce [] template.toList) := by
  rw [fillTemplate_eq_foldl, List.foldl_nil, fillOnce_no_args]

/-- The template of an unknown property name: text, `{0}`, text. -/
theorem unknownPropertyName_template :
    ("Invalid Unicode property name '{0}'." : String).toList =
      "Invalid Unicode property name '".toList ++ (placeholder 0 ++ "'.".toList) := by
  decide

/-- The template of an unknown property value: text, `{1}`, text, `{0}`, text. -/
theorem unknownPropertyValue_template :
    ("Invalid value '{1}' for Unicode property '{0}'." : String).toList =
      "Invalid value '".toList ++ (placeholder 1 ++ ("' for Unicode property '".toList ++
        (placeholder 0 ++ "'.".toList))) := by
  decide

end Template

open Template in
/-- Every message of a problem whose arguments hold no `}` is the one-scan fill of its
template. -/
theorem Problem.text_fills_once (p : Problem) (h : ∀ a ∈ p.args, '}' ∉ a.toList) :
    p.text = String.ofList (fillOnce p.args p.template.toList) := by
  cases p
  case unknownPropertyName name =>
    refine fillTemplate_eq_fillOnce h ?_
    show Holes 0 1 ("Invalid Unicode property name '{0}'." : String).toList
    rw [unknownPropertyName_template]
    refine .text ?_ (.hole (Nat.le_refl 0) (by decide) (.of_not_mem_close ?_))
    all_goals decide
  case unknownPropertyValue name value =>
    refine fillTemplate_eq_fillOnce h ?_
    show Holes 0 2 ("Invalid value '{1}' for Unicode property '{0}'." : String).toList
    rw [unknownPropertyValue_template]
    refine .text ?_ (.hole (by decide) (by decide)
      (.text ?_ (.hole (Nat.le_refl 0) (by decide) (.of_not_mem_close ?_))))
    all_goals decide
  all_goals exact fillTemplate_no_args _

/-- A template is filled argument by argument, and the result is the fill of one scan from the
left whenever no argument holds a `}` and every `}` of the template closes a placeholder of an
argument.  In particular the message of every problem whose arguments hold no `}` is the one-scan
fill of its template. -/
theorem fillTemplate_fills_once :
    (∀ (template : String) (args : List String), (∀ a ∈ args, '}' ∉ a.toList) →
      Template.Holes 0 args.length template.toList →
      fillTemplate template args = String.ofList (Template.fillOnce args template.toList)) ∧
    ∀ p : Problem, (∀ a ∈ p.args, '}' ∉ a.toList) →
      p.text = String.ofList (Template.fillOnce p.args p.template.toList) :=
  ⟨fun _ _ => Template.fillTemplate_eq_fillOnce, Problem.text_fills_once⟩

/-- Filling `{0}{1}` with `{1}` and `x` argument by argument fills the text put in for `{0}`
again: the result is `xx`, where one scan gives `{1}x`. -/
theorem fillTemplate_refills_arguments :
    fillTemplate "{0}{1}" ["{1}", "x"] = "xx" ∧
      String.ofList (Template.fillOnce ["{1}", "x"] "{0}{1}".toList) = "{1}x" := by
  decide +kernel

end EcmaRegex
