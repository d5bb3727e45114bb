import EcmaRegex.Proofs.UnicodeData
/-!
# The classes of `Canonicalize`

Without the `u` flag two code points are of one case when `Canonicalize` takes them to the same
form.  The lexer computes these classes once, as lists (`CaseFold.canonicalClasses`): it sorts the
code points that `Canonicalize` moves by their canonical form, groups them, and adds to each group
its form.  This file shows that the classes are the fibres of `Canonicalize` that have more than
one member:

* each group is a form that `Canonicalize` keeps with code points of the uppercase table taken to
  it (`CaseFold.mem_canonicalGroups`), so the members of a class share their canonical form
  (`CaseFold.canonicalize_eq_of_mem_class`);
* the groups carry strictly increasing forms, so a code point moved to the form of a group is in
  that group, and two code points with one form share a class
  (`CaseFold.exists_class_of_canonicalize_eq`).
-/

namespace EcmaRegex

namespace CaseFold

/-! ### Groups by key -/

/-- A group holds the second components of pairs that carry its key, and at least one. -/
theorem mem_groupByKey {pairs : List (Nat × Nat)} {k : Nat} {cs : List Nat}
    (h : (k, cs) ∈ groupByKey pairs) : cs ≠ [] ∧ ∀ c ∈ cs, (k, c) ∈ pairs := by
  induction pairs generalizing k cs with
  | nil => cases h
  | cons p rest ih =>
    obtain ⟨k₀, c₀⟩ := p
    have hhead : ∀ c ∈ [c₀], (k₀, c) ∈ (k₀, c₀) :: rest := by simp
    have hrest : ∀ {k c}, (k, c) ∈ rest → (k, c) ∈ (k₀, c₀) :: rest :=
      fun h => List.mem_cons_of_mem _ h
    rw [groupByKey] at h
    split at h
    · next k' cs' more heq =>
      have ih' : ∀ {k cs}, (k, cs) ∈ (k', cs') :: more → cs ≠ [] ∧ ∀ c ∈ cs, (k, c) ∈ rest :=
        fun h => ih (heq ▸ h)
      split at h
      · -- the pair joins the first group, which has its key
        next hk =>
        subst hk
        rcases List.mem_cons.1 h with h | h
        · cases h
          refine ⟨List.cons_ne_nil _ _, fun c hc => ?_⟩
          rcases List.mem_cons.1 hc with rfl | hc
          · exact List.mem_cons_self ..
          · exact hrest ((ih' (List.mem_cons_self ..)).2 c hc)
        · obtain ⟨hne, hcs⟩ := ih' (List.mem_cons_of_mem _ h)
          exact ⟨hne, fun c hc => hrest (hcs c hc)⟩
      · rcases List.mem_cons.1 h with h | h
        · cases h
          exact ⟨List.cons_ne_nil _ _, hhead⟩
        · obtain ⟨hne, hcs⟩ := ih' h
          exact ⟨hne, fun c hc => hrest (hcs c hc)⟩
    · rcases List.mem_cons.1 h with h | h
      · cases h
        exact ⟨List.cons_ne_nil _ _, hhead⟩
      · cases h

/-- Grouping keeps every pair: its second component lies in a group under its key. -/
theorem mem_groupByKey_of_mem {pairs : List (Nat × Nat)} {k c : Nat} (h : (k, c) ∈ pairs) :
    ∃ cs, (k, cs) ∈ groupByKey pairs ∧ c ∈ cs := by
  induction pairs with
  | nil => cases h
  | cons p rest ih =>
    obtain ⟨k₀, c₀⟩ := p
    rw [groupByKey]
    split
    · next k' cs' more heq =>
      rw [heq] at ih
      split
      · -- the first pair joins the first group of the rest
        next hk =>
        subst hk
        rcases List.mem_cons.1 h with h | h
        · cases h
          exact ⟨_, List.mem_cons_self .., List.mem_cons_self ..⟩
        · obtain ⟨cs, hg, hc⟩ := ih h
          rcases List.mem_cons.1 hg with hg | hg
          · cases hg
            exact ⟨_, List.mem_cons_self .., List.mem_cons_of_mem _ hc⟩
          · exact ⟨cs, List.mem_cons_of_mem _ hg, hc⟩
      · rcases List.mem_cons.1 h with h | h
        · cases h
          exact ⟨_, List.mem_cons_self .., List.mem_cons_self ..⟩
        · obtain ⟨cs, hg, hc⟩ := ih h
          exact ⟨cs, List.mem_cons_of_mem _ hg, hc⟩
    · next heq =>
      rcases List.mem_cons.1 h with h | h
      · cases h
        exact ⟨_, List.mem_cons_self .., List.mem_cons_self ..⟩
      · obtain ⟨cs, hg, -⟩ := ih h
        rw [heq] at hg
        cases hg

/-- Grouping pairs sorted by key gives groups whose keys strictly increase. -/
theorem groupByKey_sorted {pairs : List (Nat × Nat)} (h : pairs.Pairwise fun a b => a.1 ≤ b.1) :
    (groupByKey pairs).Pairwise fun a b => a.1 < b.1 := by
  induction pairs with
  | nil => simp [groupByKey]
  | cons p rest ih =>
    obtain ⟨k₀, c₀⟩ := p
    rw [List.pairwise_cons] at h
    have hrest := ih h.2
    -- every group of the rest carries a key of the rest, so one at least `k₀`
    have hge : ∀ g ∈ groupByKey rest, k₀ ≤ g.1 := by
      intro ⟨k, cs⟩ hg
      obtain ⟨hne, hcs⟩ := mem_groupByKey hg
      obtain ⟨c, hc⟩ := List.exists_mem_of_ne_nil cs hne
      exact h.1 _ (hcs c hc)
    rw [groupByKey]
    split
    · next k' cs' more heq =>
      rw [heq] at hrest hge
      rw [List.pairwise_cons] at hrest
      split
      · next hk =>
        subst hk
        exact List.pairwise_cons.2 hrest
      · next hk =>
        have hlt : k₀ < k' := Nat.lt_of_le_of_ne (hge _ (List.mem_cons_self ..)) hk
        refine List.pairwise_cons.2 ⟨fun g hg => ?_, List.pairwise_cons.2 hrest⟩
        rcases List.mem_cons.1 hg with rfl | hg
        · exact hlt
        · exact Nat.lt_trans hlt (hrest.1 g hg)
    · simp

/-- In a list whose keys strictly increase, an entry is determined by its key. -/
theorem eq_of_key_eq {α : Type} {entries : List (Nat × α)}
    (h : entries.Pairwise fun a b => a.1 < b.1) {e₁ e₂ : Nat × α} (h₁ : e₁ ∈ entries)
    (h₂ : e₂ ∈ entries) (hk : e₁.1 = e₂.1) : e₁ = e₂ := by
  induction entries with
  | nil => cases h₁
  | cons e rest ih =>
    rw [List.pairwise_cons] at h
    rcases List.mem_cons.1 h₁ with he₁ | h₁ <;> rcases List.mem_cons.1 h₂ with he₂ | h₂
    · rw [he₁, he₂]
    · rw [he₁] at hk
      exact absurd hk (Nat.ne_of_lt (h.1 _ h₂))
    · rw [he₂] at hk
      exact absurd hk.symm (Nat.ne_of_lt (h.1 _ h₁))
    · exact ih h.2 h₁ h₂

/-! ### The groups of `Canonicalize` -/

/-- The code points `Canonicalize` moves are in the uppercase table, after their forms. -/
theorem mem_movedPairs {k c : Nat} (h : (k, c) ∈ movedPairs) :
    (∃ u, (c, u) ∈ uppercasePairs) ∧ canonicalize c = k := by
  obtain ⟨⟨c', u⟩, hmem, hf⟩ := List.mem_filterMap.1 h
  dsimp only at hf
  split at hf
  · cases hf
  · cases hf
    exact ⟨⟨u, hmem⟩, rfl⟩

/-- The groups of the moved code points, sorted by their form, have distinct forms. -/
theorem canonicalGroups_sorted :
    (groupByKey (movedPairs.mergeSort fun a b => a.1 ≤ b.1)).Pairwise fun a b => a.1 < b.1 := by
  apply groupByKey_sorted
  have hsorted := @List.pairwise_mergeSort _ (fun a b : Nat × Nat => decide (a.1 ≤ b.1))
    (fun a b c hab hbc => decide_eq_true (Nat.le_trans (of_decide_eq_true hab)
      (of_decide_eq_true hbc)))
    (fun a b => by rcases Nat.le_total a.1 b.1 with h | h <;> simp [h]) movedPairs
  exact hsorted.imp fun h => of_decide_eq_true h

/-- A group is a canonical form, which `Canonicalize` keeps, with code points of the uppercase
table that it takes to that form. -/
theorem mem_canonicalGroups {k : Nat} {cs : List Nat}
    (h : (k, cs) ∈ groupByKey (movedPairs.mergeSort fun a b => a.1 ≤ b.1)) :
    canonicalize k = k ∧ cs ≠ [] ∧
      ∀ c ∈ cs, (∃ u, (c, u) ∈ uppercasePairs) ∧ canonicalize c = k := by
  obtain ⟨hne, hcs⟩ := mem_groupByKey h
  have hmoved : ∀ c ∈ cs, (∃ u, (c, u) ∈ uppercasePairs) ∧ canonicalize c = k :=
    fun c hc => mem_movedPairs (List.mem_mergeSort.1 (hcs c hc))
  obtain ⟨c₀, hc₀⟩ := List.exists_mem_of_ne_nil cs hne
  refine ⟨?_, hne, hmoved⟩
  rw [← (hmoved c₀ hc₀).2, canonicalize_canonicalize]

/-- `Canonicalize` takes every member of a class to the class's form. -/
theorem canonicalize_of_mem_class {k c : Nat} {cs : List Nat}
    (h : (k, cs) ∈ groupByKey (movedPairs.mergeSort fun a b => a.1 ≤ b.1))
    (hc : c ∈ (k :: cs).mergeSort (· ≤ ·)) : canonicalize c = k := by
  rcases List.mem_cons.1 (List.mem_mergeSort.1 hc) with rfl | hc
  · exact (mem_canonicalGroups h).1
  · exact ((mem_canonicalGroups h).2.2 c hc).2

/-- The classes hold code points only: a form and the code points of the uppercase table taken
to it. -/
theorem canonicalClasses_le : ∀ cl ∈ canonicalClasses, ∀ c ∈ cl, c ≤ maxCodePoint := by
  intro cl hcl c hc
  unfold canonicalClasses at hcl
  obtain ⟨⟨k, cs⟩, hg, rfl⟩ := List.mem_map.1 hcl
  obtain ⟨-, hne, hcs⟩ := mem_canonicalGroups hg
  rcases List.mem_cons.1 (List.mem_mergeSort.1 hc) with rfl | hc
  · -- the form is that of a member, itself in the uppercase table
    obtain ⟨c₀, hc₀⟩ := List.exists_mem_of_ne_nil cs hne
    obtain ⟨⟨u₀, hu₀⟩, hk⟩ := hcs c₀ hc₀
    rw [← hk]
    exact canonicalize_le (le_of_mem_uppercasePairs hu₀).1
  · obtain ⟨⟨u, hu⟩, -⟩ := hcs c hc
    exact (le_of_mem_uppercasePairs hu).1

/-- A code point that `Canonicalize` moves is in a group under its canonical form. -/
theorem canonicalGroup_of_moved {c : Nat} (hc : canonicalize c ≠ c) :
    ∃ cs, (canonicalize c, cs) ∈ groupByKey (movedPairs.mergeSort fun a b => a.1 ≤ b.1) ∧
      c ∈ cs := by
  cases hu : uppercase? c with
  | none => exact absurd (by simp only [canonicalize, hu]) hc
  | some u =>
    have hmoved : (canonicalize c, c) ∈ movedPairs :=
      List.mem_filterMap.2 ⟨(c, u), mem_of_lookup hu, by simp only [if_neg hc]⟩
    exact mem_groupByKey_of_mem (List.mem_mergeSort.2 hmoved)

/-! ### The classes are the fibres -/

/-- Each class of `Canonicalize` is a whole fibre: every code point taken to the form of a group
is in its class, directly when it is the form, and otherwise through the group under its form,
which is this one since the groups carry distinct forms. -/
theorem mem_canonicalClass {k d : Nat} {cs : List Nat}
    (hg : (k, cs) ∈ groupByKey (movedPairs.mergeSort fun a b => a.1 ≤ b.1))
    (hd : canonicalize d = k) : d ∈ (k :: cs).mergeSort (· ≤ ·) := by
  apply List.mem_mergeSort.2
  by_cases hfix : canonicalize d = d
  · rw [← hfix, hd]
    exact List.mem_cons_self ..
  · obtain ⟨cs', hg', hd'⟩ := canonicalGroup_of_moved hfix
    rw [hd] at hg'
    have heq : (k, cs) = (k, cs') := eq_of_key_eq canonicalGroups_sorted hg hg' rfl
    rw [Prod.mk.injEq] at heq
    rw [heq.2]
    exact List.mem_cons_of_mem _ hd'

theorem canonicalize_eq_of_mem_class {cl : List Nat} {c d : Nat} (hcl : cl ∈ canonicalClasses)
    (hc : c ∈ cl) (hd : d ∈ cl) : canonicalize c = canonicalize d := by
  unfold canonicalClasses at hcl
  obtain ⟨⟨k, cs⟩, hg, rfl⟩ := List.mem_map.1 hcl
  rw [canonicalize_of_mem_class hg hc, canonicalize_of_mem_class hg hd]

/-- Two code points with the same canonical form share a class: one of them is moved, so a
group carries the form. -/
theorem exists_class_of_canonicalize_eq {c d : Nat} (hne : c ≠ d)
    (h : canonicalize c = canonicalize d) : ∃ cl ∈ canonicalClasses, c ∈ cl ∧ d ∈ cl := by
  have hmoved : ∃ x, canonicalize x ≠ x ∧ canonicalize x = canonicalize c := by
    by_cases hc : canonicalize c = c
    · refine ⟨d, fun hd => hne ?_, h.symm⟩
      rw [← hc, h, hd]
    · exact ⟨c, hc, rfl⟩
  obtain ⟨x, hx, hxc⟩ := hmoved
  obtain ⟨cs, hg, -⟩ := canonicalGroup_of_moved hx
  refine ⟨(canonicalize x :: cs).mergeSort (· ≤ ·), List.mem_map.2 ⟨_, hg, rfl⟩, ?_, ?_⟩
  · exact mem_canonicalClass hg hxc.symm
  · exact mem_canonicalClass hg (hxc.trans h).symm

end CaseFold

end EcmaRegex
