import Blueprint.Proofs.Text.Search

/-!
# Searching text on its UTF-8 bytes

`indexOf` searches the UTF-8 bytes of a text and turns the byte offset of the first match into
a position by counting the characters that the bytes before it hold. This module shows that the
two agree with a search among the characters (`findFirst?_utf8`).

UTF-8 makes this hold by synchronising on its own bytes. The first byte of a character's
encoding is never a continuation byte (`0x80` to `0xBF`), and every later byte is one
(`utf8EncodeChar_bytes`). So the bytes of a non-empty text can only match starting at the first
byte of a character, and there the characters of the text follow
(`exists_occursAt_of_occursAt_utf8`). Conversely every occurrence among the characters is one
among the bytes (`occursAt_utf8`). As each character has at least one byte, the first match
among the bytes is the first among the characters, and the characters before it are counted
back exactly (`charCount_utf8`).
-/

namespace Blueprint.Text

/-! ## The bytes of a text -/

@[simp] theorem utf8_nil : utf8 [] = [] := rfl

@[simp] theorem utf8_cons (c : Char) (cs : List Char) :
    utf8 (c :: cs) = String.utf8EncodeChar c ++ utf8 cs :=
  List.flatMap_cons

@[simp] theorem utf8_append (l l' : List Char) : utf8 (l ++ l') = utf8 l ++ utf8 l' :=
  List.flatMap_append

/-- A character's first byte begins it, and each later byte continues it. -/
theorem utf8EncodeChar_bytes (c : Char) :
    ∃ first rest, String.utf8EncodeChar c = first :: rest ∧ isContinuation first = false ∧
      ∀ b ∈ rest, isContinuation b = true := by
  have value : c.toNat = c.val.toNat := rfl
  unfold String.utf8EncodeChar
  dsimp only
  -- one, two, three or four bytes; each byte's range follows from its arithmetic
  split_ifs <;> simp [isContinuation] <;> omega

theorem head_utf8 (d : Char) (ds : List Char) :
    ∃ first more, utf8 (d :: ds) = first :: more ∧ isContinuation first = false := by
  obtain ⟨first, rest, encoded, begins, -⟩ := utf8EncodeChar_bytes d
  exact ⟨first, rest ++ utf8 ds, by simp [encoded], begins⟩

/-- The bytes of a text hold as many characters as the text has. -/
theorem charCount_utf8 (cs : List Char) : charCount (utf8 cs) = cs.length := by
  induction cs with
  | nil => rfl
  | cons c cs ih =>
    obtain ⟨first, rest, encoded, begins, continues⟩ := utf8EncodeChar_bytes c
    have others : rest.countP (fun b => !isContinuation b) = 0 :=
      List.countP_eq_zero.mpr fun b member => by simp [continues b member]
    rw [utf8_cons, encoded, charCount, List.countP_append, List.countP_cons, others,
      ← charCount, ih]
    simp [begins]
    omega

/-- Bytes that a text's bytes start with are the bytes of characters it starts with. -/
theorem prefix_of_utf8_prefix {t l : List Char} (pre : utf8 t <+: utf8 l) : t <+: l := by
  obtain ⟨rest, joined⟩ := pre
  apply List.isPrefix_of_utf8Encode_append_eq_utf8Encode rest.toByteArray
  unfold List.utf8Encode
  rw [← List.toByteArray_append]
  exact congrArg List.toByteArray joined

/-- The bytes of the characters before a position, taken from the bytes of the text. -/
theorem take_length_utf8_take (l : List Char) (j : Nat) :
    (utf8 l).take (utf8 (l.take j)).length = utf8 (l.take j) := by
  have split : utf8 l = utf8 (l.take j) ++ utf8 (l.drop j) := by
    rw [← utf8_append, List.take_append_drop]
  rw [split, List.take_left' rfl]

/-- Every character has a byte, so more characters come with more bytes. -/
theorem length_utf8_take_lt {l : List Char} {i j : Nat} (earlier : i < j)
    (within : j ≤ l.length) : (utf8 (l.take i)).length < (utf8 (l.take j)).length := by
  obtain ⟨d, rfl⟩ : ∃ d, j = i + (d + 1) := ⟨j - i - 1, by omega⟩
  have inside : i < l.length := by omega
  rw [List.take_add, List.drop_eq_getElem_cons inside, List.take_succ_cons, utf8_append,
    List.length_append, utf8_cons, List.length_append]
  have bytes : 0 < (String.utf8EncodeChar l[i]).length :=
    List.length_pos_iff.mpr String.utf8EncodeChar_ne_nil
  omega

/-! ## Occurrences among bytes and among characters -/

/-- An occurrence among the characters is one among the bytes, after the bytes of the
characters before it. -/
theorem occursAt_utf8 {t l : List Char} {j : Nat} (occurs : OccursAt t l j) :
    OccursAt (utf8 t) (utf8 l) (utf8 (l.take j)).length := by
  have split : utf8 l = utf8 (l.take j) ++ utf8 (l.drop j) := by
    rw [← utf8_append, List.take_append_drop]
  obtain ⟨-, rest, joined⟩ := occurs
  rw [split, ← Nat.add_zero (utf8 (l.take j)).length, occursAt_append_left, occursAt_zero,
    ← joined, utf8_append]
  exact List.prefix_append _ _

/-- A non-empty text found among the bytes of another starts on a character boundary: the
bytes before the match are those of the characters before some position, and the text occurs
among the characters there. The induction runs over the characters; a match cannot start on a
continuation byte, since the text's first byte begins a character. -/
theorem exists_occursAt_of_occursAt_utf8 {t : List Char} (nonempty : t ≠ []) (l : List Char) :
    ∀ k, OccursAt (utf8 t) (utf8 l) k → ∃ j, k = (utf8 (l.take j)).length ∧ OccursAt t l j := by
  obtain ⟨d, ds, rfl⟩ := List.exists_cons_of_ne_nil nonempty
  obtain ⟨lead, tail, pattern, leads⟩ := head_utf8 d ds
  induction l with
  | nil =>
    intro k occurs
    rw [utf8_nil, occursAt_nil, pattern] at occurs
    exact absurd occurs.1 (List.cons_ne_nil _ _)
  | cons c rest ih =>
    obtain ⟨first, more, encoded, -, continues⟩ := utf8EncodeChar_bytes c
    intro k occurs
    rw [utf8_cons c rest, encoded] at occurs
    rcases Nat.lt_or_ge k (more.length + 1) with inside | past
    · cases k with
      | zero =>
        -- a match at the first byte is a match at the first character
        refine ⟨0, by simp, ?_⟩
        rw [occursAt_zero] at occurs ⊢
        apply prefix_of_utf8_prefix
        rwa [utf8_cons c rest, encoded]
      | succ k =>
        -- no match starts on a byte that continues the first character
        exfalso
        have later : k < more.length := by omega
        obtain ⟨-, pre⟩ := occurs
        rw [pattern, List.cons_append, List.drop_succ_cons,
          List.drop_append_of_le_length later.le, List.drop_eq_getElem_cons later,
          List.cons_append, List.cons_prefix_cons] at pre
        have continued := continues _ (List.getElem_mem later)
        rw [← pre.1] at continued
        simp [continued] at leads
    · -- past the first character the search goes on in the rest
      obtain ⟨k', rfl⟩ : ∃ k', k = (first :: more).length + k' :=
        ⟨k - (more.length + 1), by simp; omega⟩
      rw [occursAt_append_left] at occurs
      obtain ⟨j, at_bytes, found⟩ := ih k' occurs
      refine ⟨j + 1, ?_, by simpa using found⟩
      simp only [List.take_succ_cons, utf8_cons, encoded, List.length_append, List.length_cons,
        at_bytes]

/-- Searching the bytes of a text and counting the characters before the match finds the
first occurrence among its characters, and nothing when there is none. -/
theorem findFirst?_utf8 (t l : List Char) :
    (findFirst? (utf8 t) (utf8 l)).map (fun byte => charCount ((utf8 l).take byte)) =
      findFirst? t l := by
  by_cases empty : t = []
  · subst empty
    rw [utf8_nil, findFirst?_nil_pattern, findFirst?_nil_pattern]
    rfl
  cases found : findFirst? t l with
  | none =>
    have missing := (findFirst?_eq_none_iff l).mp found
    rw [Option.map_eq_none_iff, findFirst?_eq_none_iff]
    intro inside
    obtain ⟨k, occurs⟩ := infix_iff_exists_occursAt.mp inside
    obtain ⟨j, -, at_j⟩ := exists_occursAt_of_occursAt_utf8 empty l k occurs
    exact missing (infix_iff_exists_occursAt.mpr ⟨j, at_j⟩)
  | some j =>
    obtain ⟨at_j, before⟩ := (findFirst?_eq_some_iff l j).mp found
    -- the byte search stops at the bytes of the characters before `j`: a match among the
    -- bytes before them would be a match among the characters before `j`
    have bytes : findFirst? (utf8 t) (utf8 l) = some (utf8 (l.take j)).length := by
      rw [findFirst?_eq_some_iff]
      refine ⟨occursAt_utf8 at_j, fun k earlier occurs => ?_⟩
      obtain ⟨i, rfl, at_i⟩ := exists_occursAt_of_occursAt_utf8 empty l k occurs
      have sooner : i < j := by
        by_contra later
        rcases Nat.lt_or_eq_of_le (Nat.le_of_not_lt later) with after | same
        · have := length_utf8_take_lt after at_i.1
          omega
        · subst same
          omega
      exact before i sooner at_i
    rw [bytes, Option.map_some, take_length_utf8_take, charCount_utf8, List.length_take,
      Nat.min_eq_left at_j.1]

end Blueprint.Text
