import ChannelGuard.Resource.Channel
import Mathlib.Data.List.TakeWhile
import Mathlib.Logic.Function.Iterate

/-!
# Texts around a character

A text of which some characters are of one kind and the next one is not is divided after them. The
first and the last occurrence of a character divide a text in exactly one way. What stands
before the first occurrence, taken again and again, is the row of the text's parts.
-/

namespace ChannelGuard

/-! Runs of characters of one kind -/

section Runs

variable {p : Char → Bool} {run rest : List Char}

theorem takeWhile_run (inside : ∀ c ∈ run, p c = true) (stops : ∀ c ∈ rest.head?, p c = false) :
    (run ++ rest).takeWhile p = run := by
  rw [List.takeWhile_append_of_pos inside]
  cases rest with
  | nil => simp
  | cons c rest => simp [stops c rfl]

theorem dropWhile_run (inside : ∀ c ∈ run, p c = true) (stops : ∀ c ∈ rest.head?, p c = false) :
    (run ++ rest).dropWhile p = rest := by
  rw [List.dropWhile_append_of_pos inside]
  cases rest with
  | nil => rfl
  | cons c rest => simp [stops c rfl]

theorem stops_dropWhile (p : Char → Bool) (text : List Char) :
    ∀ c ∈ (text.dropWhile p).head?, p c = false := by
  intro c head
  have stopped := List.head?_dropWhile_not p text
  rw [Option.mem_def.mp head] at stopped
  exact stopped

end Runs

end ChannelGuard

namespace ChannelGuard.Channel

variable {c : Char} {text left right : List Char}

theorem splitFirst?_eq_some_iff :
    splitFirst? c text = some (left, right) ↔ text = left ++ c :: right ∧ c ∉ left := by
  induction text generalizing left with
  | nil => simp [splitFirst?]
  | cons x rest ih =>
    by_cases here : x = c
    · subst here
      cases left with
      | nil => simp [splitFirst?, eq_comm]
      | cons y left =>
        simp only [splitFirst?, if_true, Option.some.injEq, Prod.mk.injEq, List.cons_append,
          List.cons.injEq, List.mem_cons, not_or]
        constructor
        · rintro ⟨⟨⟩, -⟩
        · rintro ⟨⟨rfl, -⟩, different, -⟩
          exact absurd rfl different
    · simp only [splitFirst?, here, if_false, Option.map_eq_some_iff, Prod.mk.injEq]
      constructor
      · rintro ⟨⟨inner, right'⟩, found, rfl, rfl⟩
        obtain ⟨rfl, free⟩ := ih.mp found
        exact ⟨rfl, by simp [free, Ne.symm here]⟩
      · rintro ⟨same, free⟩
        cases left with
        | nil => exact absurd (List.cons.inj same).1 here
        | cons y left =>
          obtain ⟨rfl, rfl⟩ := List.cons.inj same
          exact ⟨(left, right), ih.mpr ⟨rfl, fun h => free (List.mem_cons_of_mem _ h)⟩, rfl, rfl⟩

theorem splitLast?_eq_none_iff : splitLast? c text = none ↔ c ∉ text := by
  induction text with
  | nil => simp [splitLast?]
  | cons x rest ih =>
    cases found : splitLast? c rest with
    | none => simp [splitLast?, found, ih.mp found, eq_comm]
    | some around =>
      have later : c ∈ rest := by
        by_cases h : c ∈ rest
        · exact h
        · rw [ih.mpr h] at found
          cases found
      simp [splitLast?, found, later]

theorem splitLast?_eq_some_iff :
    splitLast? c text = some (left, right) ↔ text = left ++ c :: right ∧ c ∉ right := by
  induction text generalizing left right with
  | nil => simp [splitLast?]
  | cons x rest ih =>
    cases found : splitLast? c rest with
    | none =>
      have free := splitLast?_eq_none_iff.mp found
      simp only [splitLast?, found]
      constructor
      · intro h
        split at h
        · next here =>
          cases h
          exact ⟨by rw [here]; rfl, free⟩
        · cases h
      · rintro ⟨same, -⟩
        cases left with
        | nil =>
          obtain ⟨rfl, rfl⟩ := List.cons.inj same
          simp
        | cons y left =>
          obtain ⟨-, rfl⟩ := List.cons.inj same
          exact absurd (List.mem_append_right left List.mem_cons_self) free
    | some around =>
      obtain ⟨left', right'⟩ := around
      obtain ⟨rfl, free'⟩ := ih.mp found
      simp only [splitLast?, found, Option.some.injEq, Prod.mk.injEq]
      constructor
      · rintro ⟨rfl, rfl⟩
        exact ⟨rfl, free'⟩
      · rintro ⟨same, free⟩
        cases left with
        | nil =>
          obtain ⟨-, rfl⟩ := List.cons.inj same
          exact absurd (List.mem_append_right left' List.mem_cons_self) free
        | cons y left =>
          obtain ⟨rfl, rest_same⟩ := List.cons.inj same
          have read := ih.mpr ⟨rest_same, free⟩
          rw [found] at read
          cases read
          exact ⟨rfl, rfl⟩

theorem eq_of_first_eq {left' right' : List Char}
    (same : left ++ c :: right = left' ++ c :: right') (free : c ∉ left) (free' : c ∉ left') :
    left = left' ∧ right = right' := by
  have around : splitFirst? c (left ++ c :: right) = some (left, right) :=
    splitFirst?_eq_some_iff.mpr ⟨rfl, free⟩
  have around' : splitFirst? c (left ++ c :: right) = some (left', right') :=
    splitFirst?_eq_some_iff.mpr ⟨same, free'⟩
  exact Prod.mk.inj (Option.some.inj (around.symm.trans around'))

theorem eq_of_last_eq {left' right' : List Char}
    (same : left ++ c :: right = left' ++ c :: right') (free : c ∉ right) (free' : c ∉ right') :
    left = left' ∧ right = right' := by
  have around : splitLast? c (left ++ c :: right) = some (left, right) :=
    splitLast?_eq_some_iff.mpr ⟨rfl, free⟩
  have around' : splitLast? c (left ++ c :: right) = some (left', right') :=
    splitLast?_eq_some_iff.mpr ⟨same, free'⟩
  exact Prod.mk.inj (Option.some.inj (around.symm.trans around'))

theorem before_append (free : c ∉ left) (ends : right = [] ∨ ∃ rest, right = c :: rest) :
    before c (left ++ right) = left := by
  unfold before
  rw [List.takeWhile_append_of_pos]
  · rcases ends with rfl | ⟨rest, rfl⟩ <;> simp
  · intro x hx
    simp only [bne_iff_ne, ne_eq]
    rintro rfl
    exact free hx

theorem before_spec (c : Char) (text : List Char) :
    c ∉ before c text ∧
      ∃ rest, text = before c text ++ rest ∧ (rest = [] ∨ ∃ more, rest = c :: more) := by
  induction text with
  | nil => exact ⟨by simp [before], [], rfl, .inl rfl⟩
  | cons x rest ih =>
    by_cases here : x = c
    · subst here
      have nothing : before x (x :: rest) = [] := by simp [before]
      rw [nothing]
      exact ⟨by simp, x :: rest, rfl, .inr ⟨rest, rfl⟩⟩
    · have kept : before c (x :: rest) = x :: before c rest := by simp [before, here]
      obtain ⟨free, tail, same, ends⟩ := ih
      rw [kept]
      refine ⟨by simp [free, Ne.symm here], tail, ?_, ends⟩
      rw [List.cons_append, ← same]

theorem after_append_cons (free : c ∉ left) : after c (left ++ c :: right) = right := by
  unfold after
  rw [List.dropWhile_append_of_pos]
  · simp
  · intro x hx
    simp only [bne_iff_ne, ne_eq]
    rintro rfl
    exact free hx

theorem after_of_not_mem (free : c ∉ text) : after c text = [] := by
  unfold after
  rw [List.dropWhile_eq_nil_iff.mpr, List.drop_nil]
  intro x hx
  simp only [bne_iff_ne, ne_eq]
  rintro rfl
  exact free hx

/-- The parts of a text are read off one after the other; there is nothing after the last. -/
theorem getD_splitOn (c : Char) (text : List Char) (n : Nat) :
    (text.splitOn c)[n]?.getD [] = before c ((after c)^[n] text) := by
  induction n generalizing text with
  | zero =>
    obtain ⟨free, rest, same, rfl | ⟨more, rfl⟩⟩ := before_spec c text
    · rw [List.append_nil] at same
      rw [← same] at free
      simp [List.splitOn_eq_singleton free, ← same]
    · have parts := List.splitOn_append_cons_self_of_not_mem free more
      rw [← same] at parts
      simp [parts]
  | succ n ih =>
    obtain ⟨free, rest, same, rfl | ⟨more, rfl⟩⟩ := before_spec c text
    · rw [List.append_nil] at same
      rw [← same] at free
      have stuck : (after c)^[n] [] = [] := Function.iterate_fixed rfl n
      simp [List.splitOn_eq_singleton free, after_of_not_mem free, stuck, before]
    · have parts := List.splitOn_append_cons_self_of_not_mem free more
      have tail : after c (before c text ++ c :: more) = more := after_append_cons free
      rw [← same] at parts tail
      simp [parts, tail, ih more]

end ChannelGuard.Channel
