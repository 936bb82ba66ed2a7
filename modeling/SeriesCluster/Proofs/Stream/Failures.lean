import Mathlib.Data.List.Flatten
import Mathlib.Data.List.Perm.Subperm
import SeriesCluster.Proofs.Stream.Merge

/-!
A merge of streams that fail on some of their pulls and go on with the next one. Main statement:
`merge_loses_nothing_iff`. Two pulls lose points: the first one, when an input fails after points have
been pulled from inputs before it, and a later one, when the input of the point that is to be given
fails. In the second case nothing more is pulled from that input.
-/

namespace SeriesCluster.PointStream

open Merge

abbrev Drawn := Except Error Point

def pointsOf (items : List Drawn) : List Point := items.filterMap Except.toOption

/-- Nothing but points comes after a point. -/
def FailuresFirst (items : List Drawn) : Prop := items.Pairwise fun x y => x.isOk → y.isOk

/-- Pulling gives these items one after the other, then the end, and leaves a stream behind. -/
inductive Drains : PointStream → List Drawn → PointStream → Prop
  | ended {s last : PointStream} (pulled : s.next = (.ok none, last)) : Drains s [] last
  | item {s rest last : PointStream} {x : Drawn} {items : List Drawn}
    (pulled : s.next = (x.map some, rest)) (later : Drains rest items last) :
    Drains s (x :: items) last

def Holds (s : PointStream) (items : List Drawn) : Prop := ∃ last, Drains s items last

def pullOf : List Drawn → Pulled
  | [] => .ok none
  | x :: _ => x.map some

section Drain

variable {s last : PointStream} {items : List Drawn}

theorem Drains.drain_eq (drains : Drains s items last) {limit : Nat}
    (enough : items.length < limit) :
    s.drain limit = (items.map (·.map some) ++ [.ok none], last) := by
  induction drains generalizing limit with
  | ended pulled =>
    obtain ⟨limit, rfl⟩ := Nat.exists_eq_add_of_lt enough
    simp [drain, pulled]
  | @item s rest last x items pulled later ih =>
    obtain ⟨more, rfl⟩ : ∃ more, limit = more + 1 := ⟨limit - 1, by omega⟩
    have afterwards := @ih more (by simpa using enough)
    cases x with
    | error e => simp [drain, pulled, Except.map, afterwards]
    | ok p => simp [drain, pulled, Except.map, afterwards]

theorem Drains.of_next_eq {t : PointStream} (drains : Drains t items last)
    (same : s.next = t.next) : Drains s items last := by
  cases drains with
  | ended pulled => exact .ended (same.trans pulled)
  | item pulled later => exact .item (same.trans pulled) later

theorem next_ended {t : PointStream} (pulled : s.next = (.ok none, t)) : t.next = (.ok none, t) := by
  have advanced {ascending : Bool} {inputs : List PointStream} {heads : List (Option Point)}
      (pulled : advance next ascending inputs heads = (.ok none, t)) : t.next = (.ok none, t) := by
    unfold advance at pulled
    split at pulled
    · rename_i empty
      cases pulled
      rw [next_merged, advance, empty]
    · split at pulled <;> cases pulled
  cases s with
  | listed s =>
    rw [next_listed] at pulled
    split at pulled
    · rename_i none
      cases pulled
      rw [next_listed, none]
    · rename_i x rest found
      cases x <;> cases pulled
  | remote s =>
    rw [next_remote] at pulled
    have closed : s.next.2.isOpen = false := by
      have first := congrArg Prod.fst pulled
      rw [RemoteStream.next] at first ⊢
      grind [RemoteStream.close]
    cases (congrArg Prod.snd pulled : _ = t)
    rw [next_remote, RemoteStream.next, closed]
    rfl
  | merged ascending primed inputs heads =>
    cases primed with
    | true =>
      rw [next_merged] at pulled
      exact advanced pulled
    | false =>
      rw [next_unprimed] at pulled
      split at pulled
      · cases pulled
      · exact advanced pulled

theorem Holds.next (holds : Holds s items) :
    ∃ t, s.next = (pullOf items, t) ∧ Holds t items.tail := by
  obtain ⟨last, drains⟩ := holds
  cases drains with
  | ended pulled => exact ⟨last, pulled, last, .ended (next_ended pulled)⟩
  | item pulled later => exact ⟨_, pulled, last, later⟩

theorem holds_listed (pulls : List Drawn) (stats : ReadStats) (fault : Option Error) :
    Holds (.listed { pulls := pulls, stats := stats, closeFault := fault }) pulls := by
  induction pulls with
  | nil => exact ⟨_, .ended (next_listed _)⟩
  | cons x pulls ih =>
    obtain ⟨last, drains⟩ := ih
    exact ⟨last, .item (next_listed _) drains⟩

end Drain

def front : List Drawn → Option Point
  | .ok p :: _ => some p
  | _ => none

def handed (p : Point) : List Drawn → Drawn
  | .error e :: _ => .error e
  | _ => .ok p

def Ready (l : List Drawn) : Prop := ∀ e, l.head? ≠ some (.error e)

/-- The run of a merge that holds first points, and whose inputs have these items left. -/
inductive Passing (ascending : Bool) :
    List (Option Point) → List (List Drawn) → List Drawn → Prop
  | done {heads : List (Option Point)} {ls : List (List Drawn)}
    (empty : least ascending heads = none) : Passing ascending heads ls []
  | take {heads : List (Option Point)} {ls : List (List Drawn)} {i : Nat} {p : Point}
    {l out : List Drawn} (first : least ascending heads = some (i, p)) (here : ls[i]? = some l)
    (later : Passing ascending (heads.set i (front l)) (ls.set i l.tail) out) :
    Passing ascending heads ls (handed p l :: out)

/-- The run of a merge that has to pull the first points yet: an input that fails makes it begin
anew with the first input. -/
inductive Opening (ascending : Bool) : List (List Drawn) → List Drawn → Prop
  | start {ls : List (List Drawn)} {out : List Drawn} (ready : ∀ l ∈ ls, Ready l)
    (later : Passing ascending (ls.map front) (ls.map List.tail) out) : Opening ascending ls out
  | refuse {before after : List (List Drawn)} {e : Error} {l out : List Drawn}
    (ready : ∀ b ∈ before, Ready b)
    (later : Opening ascending (before.map List.tail ++ l :: after) out) :
    Opening ascending (before ++ (.error e :: l) :: after) (.error e :: out)

def stock (heads : List (Option Point)) (ls : List (List Drawn)) : List Point :=
  heads.flatMap Option.toList ++ pointsOf ls.flatten

section Points

variable {heads : List (Option Point)} {ls : List (List Drawn)}

@[simp] theorem pointsOf_nil : pointsOf [] = [] := rfl

@[simp] theorem pointsOf_ok (p : Point) (l : List Drawn) :
    pointsOf (.ok p :: l) = p :: pointsOf l := rfl

@[simp] theorem pointsOf_error (e : Error) (l : List Drawn) :
    pointsOf (.error e :: l) = pointsOf l := rfl

@[simp] theorem pointsOf_append (l m : List Drawn) :
    pointsOf (l ++ m) = pointsOf l ++ pointsOf m := List.filterMap_append

theorem points_of_front (l : List Drawn) :
    (pointsOf l).Perm ((front l).toList ++ pointsOf l.tail) := by
  rcases l with _ | ⟨_ | p, l⟩
  · exact .refl _
  · exact .refl _
  · exact .refl _

theorem stock_cons (head : Option Point) (l : List Drawn) :
    (stock (head :: heads) (l :: ls)).Perm ((head.toList ++ pointsOf l) ++ stock heads ls) := by
  simp only [stock, List.flatMap_cons, List.flatten_cons, pointsOf_append, List.append_assoc]
  refine List.Perm.append_left _ ?_
  rw [← List.append_assoc, ← List.append_assoc]
  exact List.perm_append_comm.append_right _

/-- Taking a point that is held and pulling the next one takes this point only. -/
theorem stock_take {i : Nat} {p : Point} {l : List Drawn} (held : heads[i]? = some (some p))
    (here : ls[i]? = some l) :
    (stock heads ls).Perm (p :: stock (heads.set i (front l)) (ls.set i l.tail)) := by
  induction heads generalizing i ls with
  | nil => cases held
  | cons head heads ih =>
    obtain ⟨m, ls, rfl⟩ := List.exists_cons_of_ne_nil (List.ne_nil_of_mem (List.mem_of_getElem? here))
    cases i with
    | zero =>
      cases held
      cases here
      have pulled : (pointsOf l ++ stock heads ls).Perm
          (stock (front l :: heads) (l.tail :: ls)) :=
        ((points_of_front l).append_right _).trans (stock_cons _ _).symm
      exact (stock_cons _ _).trans (pulled.cons p)
    | succ i =>
      have later := ((ih held here).append_left (head.toList ++ pointsOf m)).trans List.perm_middle
      exact (stock_cons _ _).trans (later.trans ((stock_cons _ _).symm.cons p))

theorem stock_start (ls : List (List Drawn)) :
    (stock (ls.map front) (ls.map List.tail)).Perm (pointsOf ls.flatten) := by
  induction ls with
  | nil => exact .refl _
  | cons l ls ih =>
    rw [List.map_cons, List.map_cons, List.flatten_cons, pointsOf_append]
    exact (stock_cons _ _).trans ((points_of_front l).symm.append ih)

end Points

section Run

variable {ascending : Bool} {heads : List (Option Point)} {ls : List (List Drawn)}
  {out : List Drawn}

/-- Nothing can be lost any more: no input fails, and none has points left without a held one. -/
structure Clean (heads : List (Option Point)) (ls : List (List Drawn)) : Prop where
  points : ∀ l ∈ ls, ∀ x ∈ l, x.isOk
  ended : ∀ i : Nat, heads[i]? = some none → ls[i]?.getD [] = []

theorem ready_of_points {l : List Drawn} (points : ∀ x ∈ l, x.isOk) : Ready l := by
  intro e failing
  cases points _ (List.mem_of_head? failing)

theorem handed_of_ready {l : List Drawn} (ready : Ready l) (p : Point) : handed p l = .ok p := by
  rcases l with _ | ⟨e | q, l⟩
  · rfl
  · exact absurd rfl (ready e)
  · rfl

theorem handed_of_not_ready {l : List Drawn} (failing : ¬ Ready l) (p : Point) :
    ∃ e, handed p l = .error e := by
  rcases l with _ | ⟨e | q, l⟩
  · exact absurd (fun _ => nofun) failing
  · exact ⟨e, rfl⟩
  · exact absurd (fun _ => nofun) failing

theorem tail_eq_nil_of_front {l : List Drawn} (ready : Ready l) (empty : front l = none) :
    l.tail = [] := by
  rcases l with _ | ⟨e | q, l⟩
  · rfl
  · exact absurd rfl (ready e)
  · cases empty

theorem Clean.take {i : Nat} {l : List Drawn} (clean : Clean heads ls) (here : ls[i]? = some l) :
    Clean (heads.set i (front l)) (ls.set i l.tail) := by
  have ready := ready_of_points (clean.points l (List.mem_of_getElem? here))
  refine ⟨?_, ?_⟩
  · intro m member x among
    rcases List.mem_or_eq_of_mem_set member with member | rfl
    · exact clean.points m member x among
    · exact clean.points l (List.mem_of_getElem? here) x (List.mem_of_mem_tail among)
  · intro j ended
    by_cases same : i = j
    · subst same
      have inside : i < heads.length := by
        have := (List.getElem?_eq_some_iff.mp ended).1
        rwa [List.length_set] at this
      rw [List.getElem?_set_self inside, Option.some.injEq] at ended
      rw [List.getElem?_set_self (List.getElem?_eq_some_iff.mp here).1, Option.getD_some]
      exact tail_eq_nil_of_front ready ended
    · rw [List.getElem?_set_ne same] at ended ⊢
      exact clean.ended j ended

theorem Clean.start (points : ∀ l ∈ ls, ∀ x ∈ l, x.isOk) :
    Clean (ls.map front) (ls.map List.tail) := by
  refine ⟨?_, ?_⟩
  · intro m member x among
    obtain ⟨l, listed, rfl⟩ := List.mem_map.mp member
    exact points l listed x (List.mem_of_mem_tail among)
  · intro i ended
    rw [List.getElem?_map] at ended ⊢
    cases found : ls[i]? with
    | none => rfl
    | some l =>
      rw [found, Option.map_some, Option.some.injEq] at ended
      exact tail_eq_nil_of_front (ready_of_points (points l (List.mem_of_getElem? found))) ended

theorem stock_eq_nil (same : heads.length = ls.length) (clean : Clean heads ls)
    (empty : least ascending heads = none) : stock heads ls = [] := by
  have unheld : ∀ head ∈ heads, head = none := fun head member => by
    obtain ⟨i, there⟩ := List.getElem?_of_mem member
    exact eq_none_of_least empty there
  have noItems : ∀ l ∈ ls, l = [] := fun l member => by
    obtain ⟨i, there⟩ := List.getElem?_of_mem member
    have inside : i < heads.length := by
      rw [same]
      exact (List.getElem?_eq_some_iff.mp there).1
    have ended : heads[i]? = some none := by
      rw [List.getElem?_eq_getElem inside, unheld _ (List.getElem_mem inside)]
    have left := clean.ended i ended
    rwa [there] at left
  rw [stock, List.flatten_eq_nil_iff.mpr noItems, pointsOf_nil, List.append_nil,
    List.flatMap_eq_nil_iff]
  intro head member
  rw [unheld head member]
  rfl

namespace Passing

theorem subperm (run : Passing ascending heads ls out) : (pointsOf out).Subperm (stock heads ls) := by
  induction run with
  | done empty => exact List.nil_subperm
  | @take heads ls i p l out first here later ih =>
    have taken := stock_take (getElem?_of_least first) here
    by_cases ready : Ready l
    · rw [handed_of_ready ready, pointsOf_ok]
      exact ((List.subperm_cons p).mpr ih).trans taken.symm.subperm
    · obtain ⟨e, failed⟩ := handed_of_not_ready ready p
      rw [failed, pointsOf_error]
      exact (ih.trans (List.sublist_cons_self p _).subperm).trans taken.symm.subperm

theorem perm (run : Passing ascending heads ls out) (same : heads.length = ls.length)
    (clean : Clean heads ls) : (pointsOf out).Perm (stock heads ls) := by
  induction run with
  | done empty => rw [stock_eq_nil same clean empty, pointsOf_nil]
  | @take heads ls i p l out first here later ih =>
    have ready := ready_of_points (clean.points l (List.mem_of_getElem? here))
    have taken := stock_take (getElem?_of_least first) here
    have rest := ih (by rw [List.length_set, List.length_set, same]) (clean.take here)
    rw [handed_of_ready ready, pointsOf_ok]
    exact (rest.cons p).trans taken.symm

theorem length_lt (run : Passing ascending heads ls out) {i : Nat} {p : Point} {l : List Drawn}
    (held : heads[i]? = some (some p)) (here : ls[i]? = some l) (failing : ∃ x ∈ l, ¬ x.isOk) :
    (pointsOf out).length < (stock heads ls).length := by
  induction run generalizing i p l with
  | done empty => cases eq_none_of_least empty held
  | @take heads ls j q m out first there later ih =>
    have taken := (stock_take (getElem?_of_least first) there).length_eq
    rw [List.length_cons] at taken
    by_cases ready : Ready m
    · rw [handed_of_ready ready, pointsOf_ok, List.length_cons]
      suffices (pointsOf out).length < _ by rw [taken]; exact Nat.succ_lt_succ this
      by_cases same : j = i
      · subst same
        rw [there] at here
        cases here
        obtain ⟨x, member, fails⟩ := failing
        rcases m with _ | ⟨e | r, m⟩
        · cases member
        · exact absurd rfl (ready e)
        · rcases List.mem_cons.mp member with rfl | member
          · exact absurd rfl fails
          · exact ih (List.getElem?_set_self (List.getElem?_eq_some_iff.mp held).1)
              (List.getElem?_set_self (List.getElem?_eq_some_iff.mp there).1) ⟨x, member, fails⟩
      · exact ih ((List.getElem?_set_ne same).trans held) ((List.getElem?_set_ne same).trans here)
          failing
    · obtain ⟨e, failed⟩ := handed_of_not_ready ready q
      have most := later.subperm.length_le
      rw [failed, pointsOf_error]
      omega

theorem length_lt_of_failing (run : Passing ascending (ls.map front) (ls.map List.tail) out)
    {l : List Drawn} (listed : l ∈ ls) (ready : Ready l) (failing : ∃ x ∈ l, ¬ x.isOk) :
    (pointsOf out).length < (pointsOf ls.flatten).length := by
  obtain ⟨i, there⟩ := List.getElem?_of_mem listed
  obtain ⟨x, member, fails⟩ := failing
  rcases l with _ | ⟨e | p, l⟩
  · cases member
  · exact absurd rfl (ready e)
  · rcases List.mem_cons.mp member with rfl | behind
    · exact absurd rfl fails
    · have held : (ls.map front)[i]? = some (some p) := by
        rw [List.getElem?_map, there]
        rfl
      have here : (ls.map List.tail)[i]? = some l := by
        rw [List.getElem?_map, there]
        rfl
      have fewer := run.length_lt held here ⟨x, behind, fails⟩
      rwa [(stock_start ls).length_eq] at fewer

end Passing

theorem flatten_tails_sublist (ls : List (List Drawn)) :
    (ls.map List.tail).flatten.Sublist ls.flatten := by
  induction ls with
  | nil => exact .refl _
  | cons l ls ih => exact (List.tail_sublist l).append ih

theorem refuse_sublist (before after : List (List Drawn)) (e : Error) (l : List Drawn) :
    (before.map List.tail ++ l :: after).flatten.Sublist
      (before ++ (.error e :: l) :: after).flatten := by
  rw [List.flatten_append, List.flatten_append]
  exact (flatten_tails_sublist before).append ((List.sublist_cons_self _ l).append (.refl _))

theorem length_tails_lt {p : Point} {l : List Drawn} (member : .ok p :: l ∈ ls) :
    (pointsOf (ls.map List.tail).flatten).length < (pointsOf ls.flatten).length := by
  have taken := (stock_start ls).length_eq
  have some_held : p ∈ (ls.map front).flatMap Option.toList :=
    List.mem_flatMap.mpr ⟨some p, List.mem_map_of_mem member, Option.mem_toList.mpr rfl⟩
  have positive := List.length_pos_of_mem some_held
  rw [stock, List.length_append] at taken
  omega

theorem not_failuresFirst {l : List Drawn} (listed : l ∈ ls) (ready : Ready l)
    (failing : ∃ x ∈ l, ¬ x.isOk) : ¬ FailuresFirst ls.flatten := by
  intro ordered
  obtain ⟨x, member, fails⟩ := failing
  have own : FailuresFirst l := ordered.sublist (List.sublist_flatten_of_mem listed)
  rcases l with _ | ⟨e | p, l⟩
  · cases member
  · exact ready e rfl
  · rcases List.mem_cons.mp member with rfl | later
    · exact fails rfl
    · exact fails (List.rel_of_pairwise_cons own later rfl)

namespace Opening

theorem subperm (run : Opening ascending ls out) :
    (pointsOf out).Subperm (pointsOf ls.flatten) := by
  induction run with
  | start ready later => exact later.subperm.trans (stock_start _).subperm
  | refuse ready later ih => exact ih.trans ((refuse_sublist ..).filterMap _).subperm

theorem perm_iff (run : Opening ascending ls out) :
    (pointsOf out).Perm (pointsOf ls.flatten) ↔ FailuresFirst ls.flatten := by
  induction run with
  | @start ls out ready later =>
    by_cases points : ∀ l ∈ ls, ∀ x ∈ l, x.isOk
    · have kept := later.perm (by simp) (Clean.start points)
      refine iff_of_true (kept.trans (stock_start ls)) ?_
      refine List.pairwise_of_forall_mem_list fun x _ y member _ => ?_
      obtain ⟨l, listed, among⟩ := List.mem_flatten.mp member
      exact points l listed y among
    · obtain ⟨l, listed, failing⟩ : ∃ l ∈ ls, ∃ x ∈ l, ¬ x.isOk := by
        simpa only [not_forall, exists_prop] using points
      have fewer := later.length_lt_of_failing listed (ready l listed) failing
      refine iff_of_false (fun kept => ?_) (not_failuresFirst listed (ready l listed) failing)
      rw [kept.length_eq] at fewer
      exact Nat.lt_irrefl _ fewer
  | @refuse before after e l out ready later ih =>
    by_cases empty : ∀ b ∈ before, b = []
    · -- Nothing was pulled before the failure, so the merge goes on with the same inputs.
      have nothing : before.flatten = [] := List.flatten_eq_nil_iff.mpr empty
      have still : (before.map List.tail).flatten = [] :=
        List.sublist_nil.mp (nothing ▸ flatten_tails_sublist before)
      rw [List.flatten_append, still, List.nil_append, List.flatten_cons] at ih
      rw [List.flatten_append, nothing, List.nil_append, List.flatten_cons, List.cons_append,
        pointsOf_error, pointsOf_error, ih, FailuresFirst, FailuresFirst, List.pairwise_cons]
      exact (and_iff_right fun _ _ ok => nomatch ok).symm
    · obtain ⟨b, listed, someItem⟩ : ∃ b ∈ before, b ≠ [] := by
        simpa only [not_forall, exists_prop] using empty
      rcases b with _ | ⟨d | p, b⟩
      · exact absurd rfl someItem
      · exact absurd rfl (ready _ listed d)
      · refine iff_of_false (fun kept => ?_) (fun ordered => ?_)
        · have most := later.subperm.length_le
          have fewer := length_tails_lt listed
          have same := kept.length_eq
          simp only [List.flatten_append, List.flatten_cons, List.cons_append, pointsOf_append,
            pointsOf_error, List.length_append] at most same
          omega
        · rw [FailuresFirst, List.flatten_append, List.pairwise_append] at ordered
          have first : (.ok p : Drawn) ∈ before.flatten :=
            List.mem_flatten.mpr ⟨_, listed, List.mem_cons_self⟩
          have failed : (.error e : Drawn) ∈ ((.error e :: l) :: after).flatten :=
            List.mem_flatten.mpr ⟨_, List.mem_cons_self, List.mem_cons_self⟩
          cases ordered.2.2 _ first _ failed rfl

end Opening

theorem exists_passing (ascending : Bool) (heads : List (Option Point)) (ls : List (List Drawn))
    (same : heads.length = ls.length) : ∃ out, Passing ascending heads ls out := by
  rcases first : least ascending heads with _ | ⟨i, p⟩
  · exact ⟨[], .done first⟩
  · have held := getElem?_of_least first
    have inside : i < ls.length := by
      rw [← same]
      exact (List.getElem?_eq_some_iff.mp held).1
    have here : ls[i]? = some ls[i] := List.getElem?_eq_getElem inside
    have fewer : (stock (heads.set i (front ls[i])) (ls.set i ls[i].tail)).length <
        (stock heads ls).length := by
      rw [(stock_take held here).length_eq]
      exact Nat.lt_succ_self _
    obtain ⟨out, later⟩ := exists_passing ascending (heads.set i (front ls[i]))
      (ls.set i ls[i].tail) (by rw [List.length_set, List.length_set, same])
    exact ⟨_, .take first here later⟩
termination_by (stock heads ls).length
decreasing_by exact fewer

theorem ready_or_refused (ls : List (List Drawn)) :
    (∀ l ∈ ls, Ready l) ∨ ∃ before e l after,
      ls = before ++ (.error e :: l) :: after ∧ ∀ b ∈ before, Ready b := by
  induction ls with
  | nil => exact .inl nofun
  | cons l ls ih =>
    by_cases ready : Ready l
    · rcases ih with all | ⟨before, e, m, after, rfl, others⟩
      · exact .inl (List.forall_mem_cons.mpr ⟨ready, all⟩)
      · exact .inr ⟨l :: before, e, m, after, rfl, List.forall_mem_cons.mpr ⟨ready, others⟩⟩
    · obtain ⟨e, first⟩ := not_forall_not.mp ready
      obtain ⟨m, rfl⟩ := List.head?_eq_some_iff.mp first
      exact .inr ⟨[], e, m, ls, rfl, nofun⟩

theorem exists_opening (ascending : Bool) (ls : List (List Drawn)) :
    ∃ out, Opening ascending ls out := by
  rcases ready_or_refused ls with ready | ⟨before, e, l, after, split, ready⟩
  · obtain ⟨out, later⟩ := exists_passing ascending (ls.map front) (ls.map List.tail) (by simp)
    exact ⟨out, .start ready later⟩
  · have shorter : (before.map List.tail ++ l :: after).flatten.length < ls.flatten.length := by
      have most := (flatten_tails_sublist before).length_le
      rw [split]
      simp only [List.flatten_append, List.flatten_cons, List.length_append, List.length_cons]
      omega
    obtain ⟨out, later⟩ := exists_opening ascending (before.map List.tail ++ l :: after)
    exact ⟨.error e :: out, split ▸ .refuse ready later⟩
termination_by ls.flatten.length
decreasing_by exact shorter

section Streams

variable {inputs : List PointStream}

theorem pullOf_of_ready {l : List Drawn} (ready : Ready l) : pullOf l = .ok (front l) := by
  rcases l with _ | ⟨e | p, l⟩
  · rfl
  · exact absurd rfl (ready e)
  · rfl

theorem pullAt_holds (holds : List.Forall₂ Holds inputs ls) {i : Nat} {l : List Drawn}
    (here : ls[i]? = some l) :
    ∃ inputs', pullAt next i inputs = (pullOf l, inputs') ∧
      List.Forall₂ Holds inputs' (ls.set i l.tail) := by
  induction holds generalizing i with
  | nil => cases here
  | @cons s m inputs ls first others ih =>
    cases i with
    | zero =>
      cases here
      obtain ⟨t, pulled, rest⟩ := first.next
      refine ⟨t :: inputs, ?_, .cons rest others⟩
      rw [pullAt, pulled]
    | succ i =>
      obtain ⟨inputs', pulled, rest⟩ := ih here
      refine ⟨s :: inputs', ?_, .cons first rest⟩
      rw [pullAt, pulled]

theorem prime_ready (holds : List.Forall₂ Holds inputs ls) (ready : ∀ l ∈ ls, Ready l)
    (same : heads.length = inputs.length) :
    ∃ inputs', prime next inputs heads = (none, inputs', ls.map front) ∧
      List.Forall₂ Holds inputs' (ls.map List.tail) := by
  induction holds generalizing heads with
  | nil =>
    cases List.length_eq_zero_iff.mp same
    exact ⟨[], rfl, .nil⟩
  | @cons s l inputs ls first others ih =>
    obtain ⟨head, heads, rfl⟩ := List.exists_cons_of_length_eq_add_one same
    rw [List.forall_mem_cons] at ready
    obtain ⟨t, pulled, rest⟩ := first.next
    obtain ⟨inputs', primed, later⟩ := ih ready.2 (Nat.succ.inj same)
    refine ⟨t :: inputs', ?_, .cons rest later⟩
    rw [prime, pulled, pullOf_of_ready ready.1]
    simp only [primed, List.map_cons]

theorem prime_refused {before after : List (List Drawn)} {e : Error} {l : List Drawn}
    (holds : List.Forall₂ Holds inputs (before ++ (.error e :: l) :: after))
    (ready : ∀ b ∈ before, Ready b) (same : heads.length = inputs.length) :
    ∃ inputs' heads', prime next inputs heads = (some e, inputs', heads') ∧
      List.Forall₂ Holds inputs' (before.map List.tail ++ l :: after) ∧
      heads'.length = inputs'.length := by
  induction before generalizing inputs heads with
  | nil =>
    rw [List.nil_append, List.forall₂_cons_right_iff] at holds
    obtain ⟨s, inputs, first, others, rfl⟩ := holds
    obtain ⟨head, heads, rfl⟩ := List.exists_cons_of_length_eq_add_one same
    obtain ⟨t, pulled, rest⟩ := first.next
    refine ⟨t :: inputs, none :: heads, ?_, .cons rest others, same⟩
    rw [prime, pulled]
    rfl
  | cons b before ih =>
    rw [List.cons_append, List.forall₂_cons_right_iff] at holds
    obtain ⟨s, inputs, first, others, rfl⟩ := holds
    obtain ⟨head, heads, rfl⟩ := List.exists_cons_of_length_eq_add_one same
    rw [List.forall_mem_cons] at ready
    obtain ⟨t, pulled, rest⟩ := first.next
    obtain ⟨inputs', heads', primed, later, same'⟩ := ih others ready.2 (Nat.succ.inj same)
    refine ⟨t :: inputs', front b :: heads', ?_, .cons rest later, congrArg (· + 1) same'⟩
    rw [prime, pulled, pullOf_of_ready ready.1]
    simp only [primed]

theorem Passing.holds (run : Passing ascending heads ls out)
    (holds : List.Forall₂ Holds inputs ls) : Holds (.merged ascending true inputs heads) out := by
  induction run generalizing inputs with
  | @done heads ls empty =>
    have ended : (merged ascending true inputs heads).next =
        (.ok none, merged ascending true inputs heads) := by
      rw [next_merged, advance, empty]
    exact ⟨_, .ended ended⟩
  | @take heads ls i p l out first here later ih =>
    obtain ⟨inputs', pulled, rest⟩ := pullAt_holds holds here
    obtain ⟨last, drains⟩ := ih rest
    refine ⟨last, .item ?_ drains⟩
    rw [next_merged, advance, first]
    rcases l with _ | ⟨e | q, l⟩
    · simp only [pulled, pullOf, handed, front, Except.map]
    · simp only [pulled, pullOf, handed, front, Except.map]
    · simp only [pulled, pullOf, handed, front, Except.map]

theorem Opening.holds (run : Opening ascending ls out) (holds : List.Forall₂ Holds inputs ls)
    (same : heads.length = inputs.length) : Holds (.merged ascending false inputs heads) out := by
  induction run generalizing inputs heads with
  | start ready later =>
    obtain ⟨inputs', primed, rest⟩ := prime_ready holds ready same
    obtain ⟨last, drains⟩ := later.holds rest
    refine ⟨last, drains.of_next_eq ?_⟩
    rw [next_unprimed, primed, next_merged]
  | refuse ready later ih =>
    obtain ⟨inputs', heads', primed, rest, same'⟩ := prime_refused holds ready same
    obtain ⟨last, drains⟩ := ih rest same'
    refine ⟨last, .item ?_ drains⟩
    rw [next_unprimed, primed]
    rfl

end Streams

end Run

theorem merge_loses_nothing_iff (ascending : Bool) {inputs : List PointStream}
    {lists : List (List Drawn)} (holds : List.Forall₂ Holds inputs lists) :
    ∃ (items : List Drawn) (last : PointStream),
      (∀ limit, items.length < limit →
        (merge ascending inputs).drain limit = (items.map (·.map some) ++ [.ok none], last)) ∧
      (pointsOf items).Subperm (pointsOf lists.flatten) ∧
      ((pointsOf items).Perm (pointsOf lists.flatten) ↔ FailuresFirst lists.flatten) := by
  obtain ⟨items, run⟩ := exists_opening ascending lists
  obtain ⟨last, drains⟩ := run.holds holds (List.length_map fun _ => none)
  exact ⟨items, last, fun limit enough => drains.drain_eq enough, run.subperm, run.perm_iff⟩

def refusing (text : String) : Drawn := .error (.remote text)

theorem merge_loses_nothing_iff_refusedFirst :
    List.Forall₂ Holds
        [listed { pulls := [refusing "busy", .ok (cpuAt 1)] }, listed { pulls := [.ok (cpuAt 2)] }]
        [[refusing "busy", .ok (cpuAt 1)], [.ok (cpuAt 2)]] ∧
      ∃ (items : List Drawn) (last : PointStream),
        (∀ limit, items.length < limit → (merge true [listed { pulls := [refusing "busy",
          .ok (cpuAt 1)] }, listed { pulls := [.ok (cpuAt 2)] }]).drain limit =
            (items.map (·.map some) ++ [.ok none], last)) ∧
        (pointsOf items).Perm [cpuAt 1, cpuAt 2] := by
  have holds : List.Forall₂ Holds
      [listed { pulls := [refusing "busy", .ok (cpuAt 1)] }, listed { pulls := [.ok (cpuAt 2)] }]
      [[refusing "busy", .ok (cpuAt 1)], [.ok (cpuAt 2)]] :=
    .cons (holds_listed _ _ _) (.cons (holds_listed _ _ _) .nil)
  obtain ⟨items, last, drained, -, complete⟩ := merge_loses_nothing_iff true holds
  have ordered : FailuresFirst [refusing "busy", .ok (cpuAt 1), .ok (cpuAt 2)] := by
    simp [FailuresFirst, refusing, Except.isOk, Except.toBool]
  exact ⟨holds, items, last, drained, complete.mpr ordered⟩

/-- A second input that fails costs the point already pulled from the first one; and an input that
fails behind its first point loses this point and all that it has left. -/
theorem merge_loses_points :
    ((merge true [listed { pulls := [.ok (cpuAt 1)] },
        listed { pulls := [refusing "x", .ok (cpuAt 2)] }]).drain 9).1 =
      [.error (.remote "x"), .ok (some (cpuAt 2)), .ok none] ∧
    ((merge true [listed { pulls := [.ok (cpuAt 1), refusing "x", .ok (cpuAt 2)] }]).drain 9).1 =
      [.error (.remote "x"), .ok none] := by
  exact ⟨rfl, rfl⟩

end SeriesCluster.PointStream
