import Mathlib.Data.List.Forall2

namespace SeriesCluster

theorem ok_bind {α β ε : Type} (a : α) (f : α → Except ε β) : (Except.ok a >>= f) = f a := rfl

theorem exists_of_bind_eq_ok {α β ε : Type} {x : Except ε α} {f : α → Except ε β} {b : β}
    (result : x >>= f = .ok b) : ∃ a, x = .ok a ∧ f a = .ok b := by
  cases x with
  | error e => cases result
  | ok a => exact ⟨a, rfl, result⟩

/-- A step that fails keeps what it has changed, and the next one is not taken. -/
theorem run_bind_run {α β ε σ : Type} (a : ExceptT ε (StateM σ) α) (next : α → ExceptT ε (StateM σ) β)
    (s : σ) : (a >>= next).run.run s = match a.run.run s with
      | (.ok x, s') => (next x).run.run s'
      | (.error fault, s') => (.error fault, s') := by
  rw [ExceptT.run_bind]
  simp only [StateT.run_bind]
  change (match (a.run.run s : Except ε α × σ) with | (x, s') => _) = _
  rcases (a.run.run s : Except ε α × σ) with ⟨fault | x, s'⟩ <;> rfl

theorem exists_mapM_eq_ok {α β ε : Type} {f : α → Except ε β} {R : β → α → Prop} {as : List α}
    (each : ∀ a ∈ as, ∃ b, f a = .ok b ∧ R b a) : ∃ bs, as.mapM f = .ok bs ∧ List.Forall₂ R bs as := by
  induction as with
  | nil => exact ⟨[], rfl, .nil⟩
  | cons a as ih =>
    obtain ⟨b, first, related⟩ := each a List.mem_cons_self
    obtain ⟨bs, rest, relatedAll⟩ := ih fun a member => each a (List.mem_cons_of_mem _ member)
    refine ⟨b :: bs, ?_, .cons related relatedAll⟩
    rw [List.mapM_cons, first, ok_bind, rest, ok_bind]
    rfl

theorem mapM_eq_ok_iff {α β ε : Type} {f : α → Except ε β} {as : List α} {bs : List β} :
    as.mapM f = .ok bs ↔ List.Forall₂ (fun a b => f a = .ok b) as bs := by
  constructor
  · intro result
    induction as generalizing bs with
    | nil =>
      cases result
      exact .nil
    | cons a as ih =>
      rw [List.mapM_cons] at result
      obtain ⟨b, first, result⟩ := exists_of_bind_eq_ok result
      obtain ⟨later, rest, result⟩ := exists_of_bind_eq_ok result
      cases result
      exact .cons first (ih rest)
  · intro each
    induction each with
    | nil => rfl
    | cons first _ rest =>
      rw [List.mapM_cons, first, ok_bind, rest]
      rfl

end SeriesCluster
