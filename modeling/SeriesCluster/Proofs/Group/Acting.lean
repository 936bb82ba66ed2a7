import SeriesCluster.Group.Member
import SeriesCluster.Proofs.Except

namespace SeriesCluster

namespace Member

variable {α β : Type} {m : Member} {g : Group}

theorem run_bind (a : Action α) (next : α → Action β) :
    m.run (a >>= next) = match m.run a with
      | (.ok x, m') => m'.run (next x)
      | (.error fault, m') => (.error fault, m') := by
  unfold run
  rw [run_bind_run]
  rcases a.run.run m with ⟨fault | x, m'⟩ <;> rfl

theorem run_bind_snd {a : Action α} {next : α → Action β}
    (looks : ∀ x m', (run m' (next x)).2 = m') : (m.run (a >>= next)).2 = (m.run a).2 := by
  rw [run_bind]
  rcases m.run a with ⟨fault | x, m'⟩
  · rfl
  · exact looks x m'

theorem run_get : m.run get = (.ok m, m) := rfl

theorem run_modify (f : Member → Member) : m.run (modify f) = (.ok (), f m) := rfl

theorem run_ofExcept (x : Except Error α) : m.run (MonadExcept.ofExcept x) = (x, m) := by
  cases x <;> rfl

theorem run_inGroup (own : m.group = some g) (f : Group → Except Error α × Group) :
    m.run (inGroup f) = ((f g).1, { m with group := some (f g).2 }) := by
  simp only [inGroup, run_bind, run_get, own, run_modify, run_ofExcept]

theorem run_propose (own : m.group = some g) (c : Command) :
    m.run (propose c) = ((g.propose (Envelope.toBytes ⟨m.nonce, c⟩)).1,
      { m with
        nonce := m.nonce + 1
        group := some (g.propose (Envelope.toBytes ⟨m.nonce, c⟩)).2 }) := by
  simp only [propose, run_bind, run_get, run_modify]
  exact run_inGroup (m := { m with nonce := m.nonce + 1 }) own _

theorem run_execute (ready : m.ready = true) (c : Command) :
    m.run (execute c) = m.run (propose c) := by
  simp only [execute, run_bind, run_get, ready]
  rfl

theorem run_discard (a : Action α) :
    m.run (discard a) = ((m.run a).1.map fun _ => (), (m.run a).2) := by
  have mapped : discard a = a >>= fun _ => pure () := rfl
  rw [mapped, run_bind]
  rcases m.run a with ⟨fault | x, m'⟩ <;> rfl

end Member

end SeriesCluster
