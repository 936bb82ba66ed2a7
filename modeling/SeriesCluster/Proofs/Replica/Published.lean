import SeriesCluster.Group.Member
import SeriesCluster.Proofs.Replica.Session

namespace SeriesCluster

namespace Replica

theorem Keeps.upToDate {r q : Replica} {s : Snapshot} (told : r.progress.UpToDate)
    (keeps : Keeps r s q) : q.progress.UpToDate := by
  rw [keeps.progress_eq]
  exact told

theorem Installs.upToDate {r q : Replica} {s : Snapshot} (told : r.progress.UpToDate)
    (installs : Installs r s q) : q.progress.UpToDate := by
  cases installs with
  | unreadable spared => exact told
  | readable topology keeps => exact keeps.upToDate (Progress.upToDate_ofSnapshot _ s.head)

theorem Step.upToDate {s t : Session} {e : Event} (told : s.replica.progress.UpToDate)
    (step : Step s e t) : t.replica.progress.UpToDate := by
  cases step with
  | applied entries => exact told.apply entries
  | asked => exact told
  | built waits written => exact written.keeps_build.upToDate told
  | installed written => exact written.installs.upToDate told

end Replica

theorem Member.isPast_iff {m : Member} (told : m.progress.UpToDate) (index : UInt64) :
    m.isPast index = true ↔ index < m.topology.index := by
  unfold isPast topology
  rw [show m.progress.published = m.progress.topology.index from told]
  exact decide_eq_true_iff

namespace Replica

/-- After any run of a replica the index that is told is that of its topology, and a member that has
come as far finds an index passed just if its topology is past it. -/
theorem published_index {place : Place} {r : Replica} {s : Session} (opened : openAt place = .ok r)
    (run : Run (fun _ _ => True) ⟨r, []⟩ s) :
    s.replica.progress.published = s.replica.progress.topology.index ∧
      ∀ m : Member, m.progress = s.replica.progress →
        ∀ index, m.isPast index = true ↔ index < m.topology.index := by
  have told : s.replica.progress.UpToDate :=
    run.keeps (fun t => t.replica.progress.UpToDate) (upToDate_openAt opened)
      fun told _ step => step.upToDate told
  refine ⟨told, ?_⟩
  intro m same
  exact m.isPast_iff (same ▸ told)

def unwrittenThird : Replica where
  progress := .ofSnapshot { index := 3 } ⟨none, {}, "third"⟩
  place := .directory ((FileEffect.write snapshotTemporary [123]).on ∅)

def memberAtThird : Member where
  httpAddress := "a:8091"
  tcpAddress := "a:8088"
  identity := { raftId := 1 }
  group := some { id := 1, replica := unwrittenThird }

theorem published_index_unwrittenThird :
    openAt (.directory ∅) = .ok { place := .directory ∅ } ∧
      Run (fun _ _ => True) ⟨{ place := .directory ∅ }, []⟩ ⟨unwrittenThird, []⟩ ∧
      unwrittenThird.progress.published = 3 ∧
      (memberAtThird.isPast 2 = true ↔ (2 : UInt64) < 3) := by
  have topology : Json.ofBytes Topology (Json.toBytes ({ index := 3 } : Topology)) =
      .ok { index := 3 } :=
    Json.ofBytes_toBytes (by decide) _
  have failed : Writes { place := .directory ∅ }
      (fun r => (r.install ⟨⟨none, {}, "third"⟩, Json.toBytes ({ index := 3 } : Topology)⟩).2)
      unwrittenThird :=
    .install_failed topology .timedOut rfl (FileEffect.sameBut_write _ _ _)
  have run : Run (fun _ _ => True) ⟨{ place := .directory ∅ }, []⟩ ⟨unwrittenThird, []⟩ :=
    .step .start trivial (.installed failed)
  obtain ⟨told, passed⟩ := published_index openAt_empty run
  exact ⟨openAt_empty, run, told, passed memberAtThird rfl 2⟩

end Replica

end SeriesCluster
