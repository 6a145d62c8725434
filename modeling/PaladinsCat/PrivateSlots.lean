import PaladinsCat.FactUpserts
import PaladinsCat.Ranking

/-!
The slots of private players (`assign_private_slots` in match_facts.rs) do not depend on the
order in which a match lists its players, as long as their sort keys differ.
-/

namespace PaladinsCat.Backend

open Hirez (Value)
open Ranking (rank)

def privateKeys (players : List Value) : List String := (players.filter isPrivatePlayer).map privateSortKey

/-- The private players' keys with their indices, as they are listed. -/
def privateEntries (players : List Value) : List (String × Nat) :=
  (players.zipIdx.filter fun entry => isPrivatePlayer entry.1).map fun entry => (privateSortKey entry.1, entry.2)

theorem privateEntries_keys (players : List Value) :
    (privateEntries players).map Prod.fst = privateKeys players := by
  have indexed : ∀ start, ((players.zipIdx start).filter fun entry => isPrivatePlayer entry.1).map
      (fun entry => privateSortKey entry.1) = (players.filter isPrivatePlayer).map privateSortKey := by
    induction players with
    | nil => intro start; rfl
    | cons player players ih =>
        intro start
        rw [List.zipIdx_cons]
        cases hidden : isPrivatePlayer player with
        | true => simp [hidden, ih]
        | false => simp [hidden, ih]
  rw [privateEntries, List.map_map]
  exact indexed 0

theorem privateEntries_indices (players : List Value) : ((privateEntries players).map Prod.snd).Nodup := by
  have indices : (players.zipIdx.map Prod.snd).Nodup := by
    rw [List.zipIdx_map_snd]
    exact List.nodup_range'
  have part : (privateEntries players).map Prod.snd =
      (players.zipIdx.filter fun entry => isPrivatePlayer entry.1).map Prod.snd := by
    rw [privateEntries, List.map_map]
    rfl
  rw [part]
  exact indices.sublist (List.filter_sublist.map Prod.snd)

/-- A private player's index is found where its key ranks. -/
theorem idxOf_privateOrder {players : List Value} (distinct : (privateKeys players).Nodup) {index : Nat}
    (bound : index < players.length) :
    (privateOrder players).idxOf? index =
      if isPrivatePlayer players[index] then some (rank (privateKeys players) (privateSortKey players[index]))
      else none := by
  have total : Std.Total fun left right : String × Nat => left.1 ≤ right.1 :=
    ⟨fun left right => le_total left.1 right.1⟩
  have trans : IsTrans (String × Nat) fun left right => left.1 ≤ right.1 := ⟨fun _ _ _ => le_trans⟩
  have order := List.perm_insertionSort (fun left right : String × Nat => left.1 ≤ right.1) (privateEntries players)
  have keys := order.map Prod.fst
  have strict : ((privateEntries players).insertionSort fun left right => left.1 ≤ right.1).Pairwise
      fun left right => left.1 < right.1 := by
    have different := keys.nodup_iff.mpr ((privateEntries_keys players).symm ▸ distinct)
    exact ((List.pairwise_insertionSort _ _).and (List.pairwise_map.mp different)).imp
      fun below => lt_of_le_of_ne below.1 below.2
  cases hidden : isPrivatePlayer players[index] with
  | true =>
      have entry : (privateSortKey players[index], index) ∈ privateEntries players :=
        List.mem_map.mpr ⟨(players[index], index),
          List.mem_filter.mpr ⟨List.mk_mem_zipIdx_iff_getElem?.mpr (List.getElem?_eq_getElem bound), hidden⟩, rfl⟩
      have place := Ranking.idxOf_sorted strict ((order.map Prod.snd).nodup_iff.mpr (privateEntries_indices players))
        (order.mem_iff.mpr entry)
      rw [Ranking.rank_of_perm keys, privateEntries_keys] at place
      exact place
  | false =>
      have absent : index ∉ privateOrder players := by
        intro member
        obtain ⟨entry, listed, rfl⟩ := List.mem_map.mp member
        obtain ⟨source, kept, rfl⟩ := List.mem_map.mp (order.mem_iff.mp listed)
        obtain ⟨inside, shown⟩ := List.mem_filter.mp kept
        have here := List.mk_mem_zipIdx_iff_getElem?.mp inside
        rw [List.getElem?_eq_getElem bound] at here
        rw [Option.some.inj here, shown] at hidden
        cases hidden
      exact List.idxOf?_eq_none_iff.mpr absent

def slotOf (players : List Value) (player : Value) : Nat := rank (privateKeys players) (privateSortKey player) + 1

theorem assignPrivateSlots_eq {players : List Value} (distinct : (privateKeys players).Nodup) :
    assignPrivateSlots players = players.map fun player =>
      if isPrivatePlayer player then player.insert "_private_slot" (.integer (slotOf players player)) else player := by
  refine List.ext_getElem (by simp [assignPrivateSlots]) fun index _ bound => ?_
  rw [List.length_map] at bound
  simp only [assignPrivateSlots, List.getElem_mapIdx, List.getElem_map, idxOf_privateOrder distinct bound]
  cases isPrivatePlayer players[index] with
  | true => simp [slotOf]
  | false => rfl

theorem privateKeys_perm {players others : List Value} (order : others.Perm players) :
    (privateKeys others).Perm (privateKeys players) := (order.filter _).map _

/-- A private player has fields. -/
theorem isObject_of_isPrivatePlayer {player : Value} (hidden : isPrivatePlayer player = true) :
    player.isObject = true := by
  cases player with
  | object fields => rfl
  | _ => cases hidden

/-- Every order of the players gives the private ones the same slots, from one to their number. -/
theorem assignPrivateSlots_canonical {players : List Value}
    (distinct : players.Pairwise fun left right =>
      isPrivatePlayer left = true → isPrivatePlayer right = true → privateSortKey left ≠ privateSortKey right) :
    ∃ slot : Value → Nat,
      ((players.filter isPrivatePlayer).map slot).Perm (List.range' 1 (players.filter isPrivatePlayer).length) ∧
      (∀ others : List Value, others.Perm players →
        assignPrivateSlots others = others.map fun player =>
          if isPrivatePlayer player then player.insert "_private_slot" (.integer (slot player)) else player) ∧
      ∀ player, isPrivatePlayer player = true →
        (player.insert "_private_slot" (.integer (slot player))).get "_private_slot" =
          some (.integer (slot player)) := by
  have keys : (privateKeys players).Nodup := by
    rw [privateKeys, List.Nodup, List.pairwise_map, List.pairwise_filter]
    exact distinct
  refine ⟨slotOf players, ?_, ?_, fun player hidden => get_insert_self (isObject_of_isPrivatePlayer hidden) _ _⟩
  · have ranks := (Ranking.map_rank_perm keys).map (· + 1)
    have slots : (players.filter isPrivatePlayer).map (slotOf players) =
        ((privateKeys players).map (rank (privateKeys players))).map (· + 1) := by
      rw [privateKeys, List.map_map, List.map_map]
      rfl
    have numbers : List.range' 1 (players.filter isPrivatePlayer).length =
        (List.range (privateKeys players).length).map (· + 1) := by
      rw [privateKeys, List.length_map, List.range'_eq_map_range]
      exact List.map_congr_left fun n _ => Nat.add_comm 1 n
    rw [slots, numbers]
    exact ranks
  · intro others order
    have sameKeys := privateKeys_perm order
    rw [assignPrivateSlots_eq (sameKeys.nodup_iff.mpr keys)]
    have same : slotOf others = slotOf players :=
      funext fun player => congrArg (· + 1) (Ranking.rank_of_perm sameKeys _)
    rw [same]

def hiddenRow (kills : Int) : Value :=
  .object [("player_id", .integer 0), ("player_name", .string "PrivateAccount"), ("kills", .integer kills)]

theorem assignPrivateSlots_canonical_rows :
    ∃ slot : Value → Nat, ([hiddenRow 7, hiddenRow 3].map slot).Perm [1, 2] ∧
      assignPrivateSlots [.object [("player_id", .integer 9)], hiddenRow 3, hiddenRow 7] =
        [.object [("player_id", .integer 9)],
          (hiddenRow 3).insert "_private_slot" (.integer (slot (hiddenRow 3))),
          (hiddenRow 7).insert "_private_slot" (.integer (slot (hiddenRow 7)))] := by
  have distinct : [hiddenRow 7, hiddenRow 3, .object [("player_id", .integer 9)]].Pairwise fun left right =>
      isPrivatePlayer left = true → isPrivatePlayer right = true → privateSortKey left ≠ privateSortKey right := by
    decide
  obtain ⟨slot, numbers, assigned, -⟩ := assignPrivateSlots_canonical distinct
  exact ⟨slot, numbers, assigned _ (List.reverse_perm [hiddenRow 7, hiddenRow 3, .object [("player_id", .integer 9)]])⟩

end PaladinsCat.Backend
