import SeriesCluster.Consensus.Entry
import SeriesCluster.Proofs.Json.Lossless

namespace SeriesCluster

open Json

instance : Lossless Leadership :=
  .ofRecord 0 (fun _ => rfl) rfl (by decide)
    (fun l => .cons l.term rfl (by decide) <| .cons l.node rfl (by decide) .nil)
    fun _ => by simp [Members.get_later, bind, Except.bind, pure, Except.pure]

instance : Lossless LogId :=
  .ofRecord 1 (fun _ => rfl) rfl (by decide)
    (fun i => .cons i.leader rfl (by decide) <| .cons i.index rfl (by decide) .nil)
    fun _ => by simp [Members.get_later, bind, Except.bind, pure, Except.pure]

instance : NeverNull LogId := .ofRecord fun _ => rfl

instance : Lossless Vote :=
  .ofRecord 1 (fun _ => rfl) rfl (by decide)
    (fun v => .cons v.leader rfl (by decide) <| .cons v.committed rfl (by decide) .nil)
    fun _ => by simp [Members.get_later, bind, Except.bind, pure, Except.pure]

instance : NeverNull Vote := .ofRecord fun _ => rfl

theorem readMagnitude_digits {limit n : Nat} {overflow : IntegerFault} {ds : List Char}
    (digits : ∀ c ∈ ds, c.isDigit) (bound : Nat.ofDigitChars 10 ds n ≤ limit) :
    Text.readMagnitude limit overflow n ds = .ok (Nat.ofDigitChars 10 ds n) := by
  induction ds generalizing n with
  | nil => rfl
  | cons c ds ih =>
    rw [Nat.ofDigitChars_cons] at bound ⊢
    -- The number does not fall as digits follow, so no digit on the way leaves the range.
    have within : 10 * n + (c.toNat - '0'.toNat) ≤ limit := by
      rw [Nat.ofDigitChars_eq_ofDigitChars_zero] at bound
      have grows := Nat.le_mul_of_pos_left (10 * n + (c.toNat - '0'.toNat))
        (Nat.pow_pos (n := ds.length) (show 0 < 10 by decide))
      omega
    rw [Text.readMagnitude, if_pos (digits c List.mem_cons_self)]
    dsimp only
    rw [if_pos within]
    exact ih (fun d member => digits d (List.mem_cons_of_mem _ member)) bound

theorem toList_toString (n : UInt64) : (toString n).toList = Nat.toDigits 10 n.toNat := by
  change (toString n.toNat).toList = _
  rw [Nat.toString_eq_ofList_toDigits, String.toList_ofList]

theorem readUInt64_toString (n : UInt64) : Text.readUInt64 (toString n) = .ok n := by
  have bound : n.toNat ≤ UInt64.size - 1 := Nat.le_of_lt_succ n.toNat_lt
  have value : Nat.ofDigitChars 10 (Nat.toDigits 10 n.toNat) 0 = n.toNat :=
    Nat.ofDigitChars_ten_toDigits
  have read : Text.readMagnitude (UInt64.size - 1) .tooLarge 0 (Nat.toDigits 10 n.toNat) =
      .ok (Nat.ofDigitChars 10 (Nat.toDigits 10 n.toNat) 0) :=
    readMagnitude_digits (fun _ => isDigit_of_mem_decimal) (value.symm ▸ bound)
  have natural : Text.readNatural (UInt64.size - 1) (toString n) = .ok n.toNat := by
    obtain ⟨d, ds, digits⟩ :=
      List.exists_cons_of_ne_nil (Nat.toDigits_ne_nil (n := n.toNat) (b := 10))
    have first : d.isDigit := isDigit_of_mem_decimal (n := n.toNat) (by simp [digits])
    rw [value, digits] at read
    unfold Text.readNatural
    rw [toList_toString, digits]
    split
    · rename_i none
      cases none
    · rename_i sign
      exact absurd (List.cons.inj sign).1 (ne_of_isDigit first (by decide))
    · rename_i sign
      exact absurd (List.cons.inj sign).1 (ne_of_isDigit first (by decide))
    · exact read
  rw [Text.readUInt64, natural]
  exact congrArg Except.ok UInt64.ofNat_toNat

namespace Membership

theorem reread_id (id : UInt64) : Name.reread (.plain (toString id)) = .plain (toString id) := by
  have plain : (toString id).toList.any needsEscape = false := by
    rw [toList_toString, List.any_eq_false]
    intro c member
    have digit := isDigit_of_mem_decimal member
    have bounds := toNat_of_isDigit digit
    have shown : ¬ c.toNat < 0x20 := by omega
    simp [needsEscape, ne_of_isDigit digit (d := '"') (by decide),
      ne_of_isDigit digit (d := '\\') (by decide), shown]
  rw [Name.reread, plain]
  rfl

theorem startsWith_id {id : UInt64} {c : Char}
    (other : (Nat.toDigits 10 id.toNat).head? ≠ some c) :
    (toString id).startsWith (String.singleton c) = false := by
  rw [String.startsWith_string_eq_false_iff, toList_toString, String.toList_singleton]
  rintro ⟨rest, same⟩
  exact other (by rw [← same]; rfl)

theorem memberOf?_id (id : UInt64) : memberOf? (.plain (toString id)) = some id := by
  by_cases zero : id = 0
  · subst zero
    rfl
  · have positive : 0 < id.toNat := Nat.pos_of_ne_zero fun none => zero (UInt64.toNat_inj.mp none)
    have leading : (toString id).startsWith "0" = false :=
      startsWith_id (c := '0') (head?_toDigits positive)
    have sign : (toString id).startsWith "+" = false := by
      refine startsWith_id (c := '+') fun first => ?_
      have digit := isDigit_of_mem_decimal (List.mem_of_mem_head? first)
      exact absurd digit (by decide)
    have nonzero : toString id ≠ "0" := by
      rintro same
      have first := head?_toDigits positive
      rw [← toList_toString, same] at first
      exact first rfl
    change (if toString id = "0" then some 0
      else if (toString id).startsWith "0" || (toString id).startsWith "+" then none
      else (Text.readUInt64 (toString id)).toOption) = some id
    rw [if_neg nonzero, leading, sign, readUInt64_toString]
    rfl

def written (node : UInt64 × String) : Name × Value :=
  (.plain (toString node.1), .object [("addr", .text node.2)])

theorem parts_written (addr : String) :
    Parts 0 [field String "addr"] [("addr", encode addr)] :=
  .cons addr rfl (by decide) .nil

theorem decodeNode_written (addr : String) :
    decodeNode (Value.object [("addr", .text addr)]).reread = .ok addr :=
  (parts_written addr).decodeRecord_eq (by decide) (by simp)

theorem decodeNodes_written (nodes : SortedMap UInt64 String) :
    decodeNodes (Value.object (nodes.toList.map written)).reread = .ok nodes := by
  rw [Value.reread, Value.rereadMembers_eq_map, List.map_map, decodeNodes, mapM_map_eq_ok]
  · exact congrArg Except.ok (SortedMap.ofList_toList nodes)
  · rintro ⟨id, addr⟩
    simp only [Function.comp, written, reread_id, memberOf?_id, decodeNode_written]
    rfl

theorem writable_written (nodes : List (UInt64 × String)) :
    (Value.object (nodes.map written)).Writable 2 :=
  .object fun m member => by
    obtain ⟨node, -, rfl⟩ := List.mem_map.mp member
    exact (parts_written node.2).writable

instance : Lossless Membership :=
  .ofRecord 2 (fun _ => rfl) rfl (by decide)
    (fun m => .cons m.configs rfl (by decide) <|
      .one rfl (writable_written m.nodes.toList) (decodeNodes_written m.nodes) .nil)
    fun m => by
      have nodes := decodeNodes_written m.nodes
      unfold written at nodes
      simp [Members.getBy_later, nodes, bind, Except.bind, pure, Except.pure]

end Membership

instance : Lossless StoredMembership :=
  .ofRecord 3 (fun _ => rfl) rfl (by decide)
    (fun m => .cons m.logId rfl (by decide) <| .cons m.membership rfl (by decide) .nil)
    fun _ => by simp [Members.get_later, bind, Except.bind, pure, Except.pure]

instance : Lossless Proposal :=
  .ofRecord 1 (fun _ => rfl) rfl (by decide)
    (fun p => .cons p.command rfl (by decide) .nil)
    fun _ => by simp [bind, Except.bind, pure, Except.pure]

instance : Lossless Payload where
  room := 4
  writable
    | .blank => .text "Blank"
    | .normal p => .object fun m member => by
      obtain rfl := List.mem_singleton.mp member
      exact (Lossless.writable p).mono (by decide)
    | .membership p => .object fun m member => by
      obtain rfl := List.mem_singleton.mp member
      exact (Lossless.writable p).mono (by decide)
  decoded
    | .blank => rfl
    | .normal p => by
      change Payload.decodePayload (.object [("Normal", (encode p).reread)]) = _
      refine decodeVariant_object.trans ?_
      change Except.map Payload.normal (decode (encode p).reread) = _
      rw [decoded]
      rfl
    | .membership m => by
      change Payload.decodePayload (.object [("Membership", (encode m).reread)]) = _
      refine decodeVariant_object.trans ?_
      change Except.map Payload.membership (decode (encode m).reread) = _
      rw [decoded]
      rfl

instance : Lossless Entry :=
  .ofRecord 4 (fun _ => rfl) rfl (by decide)
    (fun e => .cons e.id rfl (by decide) <| .cons e.payload rfl (by decide) .nil)
    fun _ => by simp [Members.get_later, bind, Except.bind, pure, Except.pure]

end SeriesCluster
