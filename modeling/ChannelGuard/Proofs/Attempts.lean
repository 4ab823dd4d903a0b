import Mathlib.Data.List.Forall2

/-!
# Attempts in a row

Several things are attempted one after the other. All of them succeed, or the first that fails
decides the error, whatever stands after it.
-/

namespace ChannelGuard.Attempts

variable {ε α β σ : Type}

theorem bind_eq_ok_iff {x : Except ε α} {f : α → Except ε β} {b : β} :
    x >>= f = .ok b ↔ ∃ a, x = .ok a ∧ f a = .ok b := by
  cases x <;> simp [bind, Except.bind]

theorem bind_eq_error_iff {x : Except ε α} {f : α → Except ε β} {e : ε} :
    x >>= f = .error e ↔ x = .error e ∨ ∃ a, x = .ok a ∧ f a = .error e := by
  cases x <;> simp [bind, Except.bind]

theorem map_eq_ok_iff {x : Except ε α} {f : α → β} {b : β} :
    x.map f = .ok b ↔ ∃ a, x = .ok a ∧ f a = b := by
  cases x <;> simp [Except.map]

theorem map_eq_error_iff {x : Except ε α} {f : α → β} {e : ε} :
    x.map f = .error e ↔ x = .error e := by
  cases x <;> simp [Except.map]

theorem mapM_eq_ok_iff {f : α → Except ε β} {row : List α} {results : List β} :
    row.mapM f = .ok results ↔ List.Forall₂ (fun a b => f a = .ok b) row results := by
  induction row generalizing results with
  | nil => cases results <;> simp [pure, Except.pure]
  | cons a rest ih =>
    simp only [List.mapM_cons, bind_eq_ok_iff, ih, pure, Except.pure, Except.ok.injEq]
    constructor
    · rintro ⟨b, first, later, others, rfl⟩
      exact .cons first others
    · intro h
      cases h with
      | cons first others => exact ⟨_, first, _, others, rfl⟩

theorem exists_of_mem_mapM {f : α → Except ε β} {row : List α} {results : List β}
    (run : row.mapM f = .ok results) {b : β} (member : b ∈ results) : ∃ a ∈ row, f a = .ok b := by
  induction mapM_eq_ok_iff.mp run with
  | nil => cases member
  | cons first others ih =>
    rcases List.mem_cons.mp member with rfl | member
    · exact ⟨_, List.mem_cons_self, first⟩
    · obtain ⟨a, listed, read⟩ := ih (mapM_eq_ok_iff.mpr others) member
      exact ⟨a, List.mem_cons_of_mem _ listed, read⟩

theorem exists_mapM_eq_ok_iff {f : α → Except ε β} {row : List α} :
    (∃ results, row.mapM f = .ok results) ↔ ∀ a ∈ row, ∃ b, f a = .ok b := by
  simp only [mapM_eq_ok_iff]
  constructor
  · rintro ⟨results, read⟩ a member
    induction read with
    | nil => cases member
    | cons first others ih =>
      rcases List.mem_cons.mp member with rfl | member
      · exact ⟨_, first⟩
      · exact ih member
  · intro each
    induction row with
    | nil => exact ⟨[], .nil⟩
    | cons a rest ih =>
      obtain ⟨b, first⟩ := each a List.mem_cons_self
      obtain ⟨results, others⟩ := ih fun other member => each other (List.mem_cons_of_mem _ member)
      exact ⟨b :: results, .cons first others⟩

/-- The first failure decides. -/
theorem mapM_eq_error_iff {f : α → Except ε β} {row : List α} {e : ε} :
    row.mapM f = .error e ↔
      ∃ before bad after, row = before ++ bad :: after ∧ (∀ a ∈ before, ∃ b, f a = .ok b) ∧
        f bad = .error e := by
  induction row with
  | nil => simp [pure, Except.pure]
  | cons a rest ih =>
    simp only [List.mapM_cons, bind_eq_error_iff, ih, pure, Except.pure, reduceCtorEq, and_false,
      exists_false, or_false]
    constructor
    · rintro (failed | ⟨b, first, before, bad, after, rfl, fine, failed⟩)
      · exact ⟨[], a, rest, rfl, by simp, failed⟩
      · refine ⟨a :: before, bad, after, rfl, ?_, failed⟩
        intro other member
        rcases List.mem_cons.mp member with rfl | member
        · exact ⟨b, first⟩
        · exact fine other member
    · rintro ⟨before, bad, after, split, fine, failed⟩
      cases before with
      | nil =>
        obtain ⟨rfl, rfl⟩ := List.cons.inj split
        exact .inl failed
      | cons first before =>
        obtain ⟨rfl, rfl⟩ := List.cons.inj split
        obtain ⟨b, read⟩ := fine a List.mem_cons_self
        refine .inr ⟨b, read, before, bad, after, rfl, ?_, failed⟩
        exact fun other member => fine other (List.mem_cons_of_mem _ member)

/-- What every step of a run keeps, the run keeps. -/
theorem foldlM_invariant {f : σ → α → Except ε σ} {p : σ → Prop}
    (step : ∀ s a next, f s a = .ok next → p s → p next) {row : List α} {start last : σ}
    (run : row.foldlM f start = .ok last) (initial : p start) : p last := by
  induction row generalizing start with
  | nil =>
    cases run
    exact initial
  | cons a rest ih =>
    rw [List.foldlM_cons, bind_eq_ok_iff] at run
    obtain ⟨next, first, others⟩ := run
    exact ih others (step start a next first initial)

/-- A run fails at the first step that does, whatever stands after it. -/
theorem foldlM_eq_error_iff {f : σ → α → Except ε σ} {row : List α} {start : σ} {e : ε} :
    row.foldlM f start = .error e ↔
      ∃ before bad after middle, row = before ++ bad :: after ∧
        before.foldlM f start = .ok middle ∧ f middle bad = .error e := by
  induction row generalizing start with
  | nil => simp [pure, Except.pure]
  | cons a rest ih =>
    rw [List.foldlM_cons, bind_eq_error_iff]
    constructor
    · rintro (failed | ⟨next, first, others⟩)
      · exact ⟨[], a, rest, start, rfl, rfl, failed⟩
      · obtain ⟨before, bad, after, middle, rfl, run, failed⟩ := ih.mp others
        refine ⟨a :: before, bad, after, middle, rfl, ?_, failed⟩
        exact bind_eq_ok_iff.mpr ⟨next, first, run⟩
    · rintro ⟨before, bad, after, middle, split, run, failed⟩
      cases before with
      | nil =>
        obtain ⟨rfl, rfl⟩ := List.cons.inj split
        cases run
        exact .inl failed
      | cons first before =>
        obtain ⟨rfl, rfl⟩ := List.cons.inj split
        obtain ⟨next, step, run⟩ := bind_eq_ok_iff.mp run
        exact .inr ⟨next, step, ih.mpr ⟨before, bad, after, middle, rfl, run, failed⟩⟩

end ChannelGuard.Attempts
