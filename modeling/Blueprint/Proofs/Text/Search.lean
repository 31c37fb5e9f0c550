import Mathlib.Data.List.Infix
import Blueprint.Text.Search

/-!
# Where a pattern occurs, and the pieces between occurrences

This module says what `findFirst?` finds, in a list of characters or of bytes alike, and what
`splitOn` cuts, in terms of the positions where a pattern occurs (`OccursAt`).

`findFirst?` gives the least position at which the pattern occurs
(`findFirst?_eq_some_iff`), and nothing exactly when the pattern is no infix of the text
(`findFirst?_eq_none_iff`); the empty pattern occurs at once.

`splitOn` cuts a text into pieces that give the text back when joined with the separator
(`intercalate_splitOn`). A non-empty separator is found from left to right without overlap, so
no piece contains it (`not_infix_of_mem_splitOn`); the empty separator cuts the text into its
characters.
-/

namespace Blueprint.Text

/-- A pattern occurs in a text at a position: the text from that position on starts with it. -/
def OccursAt {α : Type} (pattern cs : List α) (i : Nat) : Prop :=
  i ≤ cs.length ∧ pattern <+: cs.drop i

section Occurrences

variable {α : Type} {pattern cs : List α} {c : α} {i : Nat}

@[simp] theorem occursAt_zero : OccursAt pattern cs 0 ↔ pattern <+: cs := by
  simp [OccursAt]

@[simp] theorem occursAt_succ_cons :
    OccursAt pattern (c :: cs) (i + 1) ↔ OccursAt pattern cs i := by
  simp [OccursAt]

@[simp] theorem occursAt_nil : OccursAt pattern [] i ↔ pattern = [] ∧ i = 0 := by
  simp only [OccursAt, List.length_nil, Nat.le_zero, List.drop_nil, List.prefix_nil]
  exact and_comm

/-- Past a prefix, a pattern occurs where it occurs in what follows the prefix. -/
theorem occursAt_append_left {pre : List α} (i : Nat) :
    OccursAt pattern (pre ++ cs) (pre.length + i) ↔ OccursAt pattern cs i := by
  rw [OccursAt, OccursAt, List.drop_length_add_append, List.length_append]
  exact and_congr_left' (by omega)

/-- A pattern is an infix of a text exactly when it occurs somewhere in it. -/
theorem infix_iff_exists_occursAt : pattern <:+: cs ↔ ∃ i, OccursAt pattern cs i := by
  constructor
  · intro inside
    obtain ⟨t, pre, suf⟩ := List.infix_iff_prefix_suffix.mp inside
    -- a suffix is what is left after dropping the characters before it
    refine ⟨cs.length - t.length, Nat.sub_le _ _, ?_⟩
    rwa [← List.suffix_iff_eq_drop.mp suf]
  · rintro ⟨i, -, pre⟩
    exact List.infix_iff_prefix_suffix.mpr ⟨_, pre, List.drop_suffix i cs⟩

end Occurrences

section First

variable {α : Type} [BEq α] [LawfulBEq α] {pattern : List α}

omit [LawfulBEq α] in
/-- The empty pattern is found at the start of every text. -/
theorem findFirst?_nil_pattern (cs : List α) : findFirst? ([] : List α) cs = some 0 := by
  cases cs <;> simp [findFirst?]

theorem findFirst?_cons_here {c : α} {rest : List α} (here : pattern <+: c :: rest) :
    findFirst? pattern (c :: rest) = some 0 := by
  simp [findFirst?, List.isPrefixOf_iff_prefix.mpr here]

theorem findFirst?_cons_later {c : α} {rest : List α}
    (here : ¬ pattern <+: c :: rest) :
    findFirst? pattern (c :: rest) = (findFirst? pattern rest).map (· + 1) := by
  simp [findFirst?, List.isPrefixOf_iff_prefix, here]

/-- `findFirst?` gives exactly the least position where the pattern occurs. -/
theorem findFirst?_eq_some_iff (cs : List α) (i : Nat) :
    findFirst? pattern cs = some i ↔
      OccursAt pattern cs i ∧ ∀ j < i, ¬ OccursAt pattern cs j := by
  induction cs generalizing i with
  | nil =>
    by_cases empty : pattern = []
    · -- the empty pattern occurs in the empty text at position zero only
      subst empty
      cases i with
      | zero =>
        exact iff_of_true rfl
          ⟨occursAt_nil.mpr ⟨rfl, rfl⟩, fun j bound => absurd bound (Nat.not_lt_zero j)⟩
      | succ k => exact iff_of_false (by simp [findFirst?]) fun both => by simp at both
    · exact iff_of_false (by simp [findFirst?, empty]) fun both => empty (occursAt_nil.mp both.1).1
  | cons c rest ih =>
    by_cases here : pattern <+: c :: rest
    · -- found at the start: nothing comes before position zero
      rw [findFirst?_cons_here here]
      cases i with
      | zero =>
        exact iff_of_true rfl
          ⟨occursAt_zero.mpr here, fun j bound => absurd bound (Nat.not_lt_zero j)⟩
      | succ k =>
        exact iff_of_false (by simp) fun both => both.2 0 (Nat.succ_pos k) (occursAt_zero.mpr here)
    · -- not found at the start: the search goes on one position later
      rw [findFirst?_cons_later here]
      cases i with
      | zero =>
        exact iff_of_false (by cases findFirst? pattern rest <;> simp)
          fun both => here (occursAt_zero.mp both.1)
      | succ k =>
        have shift : (findFirst? pattern rest).map (· + 1) = some (k + 1) ↔
            findFirst? pattern rest = some k := by
          cases findFirst? pattern rest <;> simp
        rw [shift, ih, occursAt_succ_cons, Nat.forall_lt_succ_left]
        simp only [occursAt_succ_cons, occursAt_zero]
        exact and_congr_right fun _ => (and_iff_right here).symm

/-- `findFirst?` finds nothing exactly when the pattern is no infix of the text. -/
theorem findFirst?_eq_none_iff (cs : List α) :
    findFirst? pattern cs = none ↔ ¬ pattern <:+: cs := by
  induction cs with
  | nil => by_cases empty : pattern = [] <;> simp [findFirst?, empty]
  | cons c rest ih =>
    by_cases here : pattern <+: c :: rest
    · rw [findFirst?_cons_here here]
      exact iff_of_false (Option.some_ne_none 0) (not_not.mpr here.isInfix)
    · rw [findFirst?_cons_later here, Option.map_eq_none_iff, ih, List.infix_cons_iff]
      exact not_congr (or_iff_right here).symm

end First

section Split

variable {separator : List Char}

/-- Cutting always gives at least one piece. -/
theorem splitFrom_ne_nil (h : separator ≠ []) (piece cs : List Char) :
    splitFrom separator h piece cs ≠ [] := by
  fun_induction splitFrom separator h piece cs <;> simp_all

/-- Joining the pieces with the separator gives back the piece gathered so far followed by
the text still to cut. -/
theorem intercalate_splitFrom (h : separator ≠ []) (piece cs : List Char) :
    separator.intercalate (splitFrom separator h piece cs) = piece.reverse ++ cs := by
  fun_induction splitFrom separator h piece cs with
  | case1 piece => simp
  | case2 piece c rest found ih =>
    obtain ⟨next, more, cut⟩ := List.exists_cons_of_ne_nil (splitFrom_ne_nil h [] _)
    rw [cut, List.intercalate_cons_cons, ← cut, ih]
    -- the separator and what follows it are the text from the match on
    simp [List.prefix_iff_eq_append.mp (List.isPrefixOf_iff_prefix.mp found)]
  | case3 piece c rest missed ih =>
    rw [ih]
    simp

/-- No position of the piece gathered so far starts the separator in what follows: the
invariant of the cut, as each character moved into the piece was checked there. -/
def Clear (separator piece cs : List Char) : Prop :=
  ∀ j < piece.length, ¬ separator <+: (piece.reverse ++ cs).drop j

/-- A clear piece holds no occurrence of a non-empty separator. -/
theorem not_infix_of_clear (h : separator ≠ []) {piece cs : List Char}
    (clear : Clear separator piece cs) : ¬ separator <:+: piece.reverse := by
  intro occurs
  obtain ⟨j, bound, pre⟩ := infix_iff_exists_occursAt.mp occurs
  have inside : j < piece.length := by
    rcases Nat.lt_or_ge j piece.length with lt | ge
    · exact lt
    · -- at the end of the piece nothing is left, and the separator is not empty
      have rest : piece.reverse.drop j = [] := List.drop_eq_nil_of_le (by simpa using ge)
      rw [rest, List.prefix_nil] at pre
      exact absurd pre h
  have longer : piece.reverse.drop j <+: (piece.reverse ++ cs).drop j := by
    rw [List.drop_append_of_le_length bound]
    exact List.prefix_append _ _
  exact clear j inside (pre.trans longer)

/-- The empty piece is clear. -/
theorem clear_nil (cs : List Char) : Clear separator [] cs :=
  fun j bound => absurd bound (Nat.not_lt_zero j)

/-- A character at which the separator does not start may join a clear piece. -/
theorem Clear.cons {piece : List Char} {c : Char} {rest : List Char}
    (clear : Clear separator piece (c :: rest)) (missed : ¬ separator <+: c :: rest) :
    Clear separator (c :: piece) rest := by
  intro j bound
  have same : (c :: piece).reverse ++ rest = piece.reverse ++ c :: rest := by simp
  rw [same]
  rcases Nat.lt_or_ge j piece.length with lt | ge
  · exact clear j lt
  · have at_c : j = piece.length := by simp at bound; omega
    rw [at_c, List.drop_left' (by simp)]
    exact missed

/-- Every piece cut from a clear start holds no occurrence of the separator. -/
theorem not_infix_of_mem_splitFrom (h : separator ≠ []) (piece cs : List Char)
    (clear : Clear separator piece cs) :
    ∀ p ∈ splitFrom separator h piece cs, ¬ separator <:+: p := by
  fun_induction splitFrom separator h piece cs with
  | case1 piece =>
    simpa using not_infix_of_clear h clear
  | case2 piece c rest found ih =>
    intro p member
    rcases List.mem_cons.mp member with first | later
    · exact first ▸ not_infix_of_clear h clear
    · exact ih (clear_nil _) p later
  | case3 piece c rest missed ih =>
    exact ih (clear.cons (mt List.isPrefixOf_iff_prefix.mpr missed))

/-- Joining the characters of a text, each as a piece of its own, with nothing between them
gives the text. -/
theorem intercalate_nil_singletons (cs : List Char) :
    ([] : List Char).intercalate (cs.map fun c => [c]) = cs := by
  induction cs with
  | nil => rfl
  | cons c rest ih =>
    cases rest with
    | nil => rfl
    | cons d more => simpa [List.intercalate_cons_cons] using ih

/-- Joining the pieces with the separator gives the text back. -/
theorem intercalate_splitOn (cs : List Char) :
    separator.intercalate (splitOn separator cs) = cs := by
  unfold splitOn
  split
  · next empty =>
    subst empty
    exact intercalate_nil_singletons cs
  · next nonempty => simpa using intercalate_splitFrom nonempty [] cs

/-- The empty separator cuts a text into its characters. -/
theorem splitOn_nil_separator (cs : List Char) : splitOn [] cs = cs.map fun c => [c] := by
  simp [splitOn]

/-- No piece contains a non-empty separator: occurrences are cut at from left to right. -/
theorem not_infix_of_mem_splitOn (h : separator ≠ []) (cs : List Char) :
    ∀ p ∈ splitOn separator cs, ¬ separator <:+: p := by
  unfold splitOn
  rw [dif_neg h]
  exact not_infix_of_mem_splitFrom h [] cs (clear_nil cs)

end Split

end Blueprint.Text
