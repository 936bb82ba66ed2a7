import SeriesCluster.Proofs.Topology.Lossless
import SeriesCluster.Topology.Command

namespace SeriesCluster

open Json

theorem Json.Value.Writable.isReadable {room : Nat} {v : Value} (writable : v.Writable room) :
    v.reread.isReadable = true := by
  induction writable with
  | null | bool | natural | negative | text => rfl
  | float =>
    rw [Value.reread]
    split <;> rfl
  | @array room elements each ih =>
    rw [Value.reread, Value.isReadable, Value.rereadAll_eq_map]
    clear each
    induction elements with
    | nil => rfl
    | cons v elements ihElements =>
      rw [List.map_cons, Value.allReadable, ih v List.mem_cons_self,
        ihElements fun w member => ih w (List.mem_cons_of_mem _ member)]
      rfl
  | @object room members each ih =>
    rw [Value.reread, Value.isReadable, Value.rereadMembers_eq_map]
    clear each
    induction members with
    | nil => rfl
    | cons m members ihMembers =>
      have named : m.1.reread.text?.isSome = true := by
        obtain ⟨name | name | _, v⟩ := m
        all_goals
          dsimp only [Name.reread]
          first | rfl | (split <;> rfl)
      rw [List.map_cons, Value.allMembersReadable, named, ih m List.mem_cons_self,
        ihMembers fun n member => ih n (List.mem_cons_of_mem _ member)]
      rfl

instance : NeverNull Duration := .ofRecord Duration.encode_eq

namespace PolicySpec

instance : NeverNull PolicySpec := .ofRecord fun _ => rfl

theorem decodeCount_encode (count : Option UInt64) :
    decodeCount (encode count).reread = .ok count := by
  cases count with
  | none => rfl
  | some n =>
    have bound : n.toNat ≤ UInt64.size - 1 := Nat.le_of_lt_succ n.toNat_lt
    change (decodeNat (UInt64.size - 1) "usize" (.int n.toNat)).map _ = _
    rw [decodeNat_natural _ bound, Except.map, UInt64.ofNat_toNat]

instance : Lossless PolicySpec :=
  .ofRecord 1 (fun _ => rfl) rfl (by decide)
    (fun s => .cons s.name rfl (by decide) <| .cons s.duration rfl (by decide) <|
      .cons s.shardGroupDuration rfl (by decide) <|
      .one rfl ((Lossless.writable s.replicaCount).mono (by decide))
        (decodeCount_encode s.replicaCount) .nil)
    fun _ => by
      simp [Members.get_later, Members.getBy_later, decodeCount_encode, bind, Except.bind, pure,
        Except.pure]

end PolicySpec

namespace Command

variable {room : Nat} {fields : List Field} {members : List (Name × Value)}

theorem takeName_parts (shape : Shape) (parts : Parts room fields members)
    (untyped : ∀ f ∈ fields, f.name ≠ "type") (arguments : List (Name × Value)) :
    takeName (some shape) arguments (rereadValues members) =
      .ok (shape, arguments.reverse ++ rereadValues members) := by
  induction parts generalizing arguments with
  | nil =>
    rw [rereadValues, List.map_nil, takeName, List.append_nil]
  | @one fields members β name v read b plain writable decoded rest ih =>
    have other : name ≠ "type" := untyped _ List.mem_cons_self
    have later := ih (fun f member => untyped f (List.mem_cons_of_mem _ member))
      ((.plain name, v.reread) :: arguments)
    rw [List.reverse_cons, List.append_assoc, List.singleton_append] at later
    rw [rereadValues, List.map_cons, takeName]
    simp only [Name.read, Name.text?, bind, Except.bind, other, if_false, writable.isReadable, if_true]
    exact later

theorem kept {c : Command} {shape : Shape} (named : shape? c.name = some shape)
    (parts : Parts room shape.fields c.encodeArguments)
    (distinct : (shape.fields.map (·.name)).Nodup) (untyped : ∀ f ∈ shape.fields, f.name ≠ "type")
    (built : shape.build ⟨rereadValues c.encodeArguments⟩ = .ok c) : Kept (room + 1) c where
  writable := by
    refine .object fun m member => ?_
    rcases List.mem_cons.mp member with rfl | member
    · exact .text c.name
    · cases parts.writable with
      | object each => exact each m member
  decoded := by
    have typed : Name.reread (.plain "type") = .plain "type" := rfl
    have read : decodeArguments shape (Value.object c.encodeArguments).reread = .ok c := by
      rw [decodeArguments, parts.checkRecord_eq _ _ _ distinct]
      exact built
    have taken : takeName none [] ((.plain "type", .text c.name) :: rereadValues c.encodeArguments) =
        .ok (shape, rereadValues c.encodeArguments) := by
      rw [takeName]
      simp only [Name.read, Name.text?, bind, Except.bind, decodeShape, named, if_true]
      exact takeName_parts shape parts untyped []
    change decodeCommand (Value.object ((.plain "type", .text c.name) :: c.encodeArguments)).reread = _
    have text : (Value.text c.name).reread = .text c.name := rfl
    rw [Value.reread, Value.rereadMembers, typed, text, parts.rereadMembers_eq, decodeCommand, taken]
    rw [Value.reread, parts.rereadMembers_eq] at read
    change (decodeArguments shape (.object (rereadValues c.encodeArguments))).mapError _ = _
    rw [read]
    rfl

theorem kept_three (c : Command) : Kept 3 c := by
  cases c with
  | createMetaNode host tcpHost | setMetaNode host tcpHost | createDataNode host tcpHost =>
    refine kept rfl (.cons host rfl (by decide) <| .cons tcpHost rfl (by decide) .nil) (by decide)
      (by decide) ?_
    simp [encodeArguments, Members.get_later, bind, Except.bind, pure, Except.pure]
  | deleteMetaNode id | deleteDataNode id | dropShard id =>
    refine kept rfl (.cons id rfl (by decide) .nil) (by decide) (by decide) ?_
    simp [encodeArguments, bind, Except.bind, pure, Except.pure]
  | createDatabase name policy =>
    refine kept rfl (.cons name rfl (by decide) <| .cons policy rfl (by decide) .nil) (by decide)
      (by decide) ?_
    simp [encodeArguments, Members.get_later, bind, Except.bind, pure, Except.pure]
  | dropDatabase name =>
    refine kept rfl (.cons name rfl (by decide) .nil) (by decide) (by decide) ?_
    simp [encodeArguments, bind, Except.bind, pure, Except.pure]
  | createPolicy database policy makeDefault =>
    refine kept rfl (.cons database rfl (by decide) <| .cons policy rfl (by decide) <|
      .cons makeDefault rfl (by decide) .nil) (by decide) (by decide) ?_
    simp [encodeArguments, Members.get_later, bind, Except.bind, pure, Except.pure]
  | dropPolicy database name | setDefaultPolicy database name =>
    refine kept rfl (.cons database rfl (by decide) <| .cons name rfl (by decide) .nil) (by decide)
      (by decide) ?_
    simp [encodeArguments, Members.get_later, bind, Except.bind, pure, Except.pure]
  | createShardGroup database policy timestamp =>
    refine kept rfl (.cons database rfl (by decide) <| .cons policy rfl (by decide) <|
      .cons timestamp rfl (by decide) .nil) (by decide) (by decide) ?_
    simp [encodeArguments, Members.get_later, bind, Except.bind, pure, Except.pure]
  | deleteShardGroup database policy id deletedAt =>
    refine kept rfl (.cons database rfl (by decide) <| .cons policy rfl (by decide) <|
      .cons id rfl (by decide) <| .cons deletedAt rfl (by decide) .nil) (by decide) (by decide) ?_
    simp [encodeArguments, Members.get_later, bind, Except.bind, pure, Except.pure]

instance : Lossless Command where
  room := 3
  writable c := c.kept_three.writable
  decoded c := c.kept_three.decoded

end Command

namespace Envelope

instance : Lossless Envelope :=
  .ofRecord 3 (fun _ => rfl) rfl (by decide)
    (fun e => .cons e.nonce rfl (by decide) <| .cons e.command rfl (by decide) .nil)
    fun _ => by simp [Members.get_later, bind, Except.bind, pure, Except.pure]

theorem ofBytes_toBytes (e : Envelope) : ofBytes e.toBytes = .ok e :=
  Json.ofBytes_toBytes (by decide) e

end Envelope

end SeriesCluster
