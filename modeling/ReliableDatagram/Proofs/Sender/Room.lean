import ReliableDatagram.Proofs.Sender.Moves
import ReliableDatagram.Proofs.Table.Contents

/-!
# Room for one more item

A sender whose queue is full gives up on items until there is room for the one that
comes.  While anything is pending there is an oldest item (`oldest?_isSome`), so each
eviction takes one item, and afterwards fewer items are pending than the limit
allows (`pendingCount_makeRoom_lt`).
-/

namespace ReliableDatagram

namespace Table

variable {α : Type} {table : Table α}

theorem length_toList (table : Table α) : table.toList.length = table.size :=
  Std.ExtTreeMap.length_toList

theorem size_remove {slot : Nat} {record : Record α}
    (found : table.record? slot = some record) :
    table.size = (table.remove slot).size + 1 := by
  have counted := congrArg Multiset.card (contents_remove id found)
  rw [Multiset.card_cons, contents, contents, Multiset.coe_card, Multiset.coe_card,
    List.length_map, List.length_map, length_toList, length_toList] at counted
  exact counted

theorem record?_of_size_eq_zero (none : table.size = 0) (slot : Nat) :
    table.record? slot = .none := by
  cases found : table.record? slot with
  | none => rfl
  | some record =>
      rw [size_remove found] at none
      cases none

theorem size_eq_zero_of_vacant (vacant : ∀ slot, table.record? slot = none) :
    table.size = 0 := by
  have none : table.toList = [] := by
    apply List.eq_nil_iff_forall_not_mem.mpr
    intro entry member
    have found := Arena.mem_toList.mp member
    have missing : table.records.get? entry.1 = .none := vacant entry.1
    rw [missing] at found
    cases found
  rw [← length_toList, none, List.length_nil]

/-- When all records are in one slot, there is one of them at most. -/
theorem size_le_one {slot : Nat}
    (only : ∀ other record, table.record? other = some record → other = slot) :
    table.size ≤ 1 := by
  cases found : table.record? slot with
  | none =>
      rw [size_eq_zero_of_vacant]
      · exact Nat.zero_le 1
      · intro other
        cases there : table.record? other with
        | none => rfl
        | some record =>
            rw [only other record there, found] at there
            cases there
  | some record =>
      rw [size_remove found, size_eq_zero_of_vacant]
      intro other
      rw [record?_remove]
      split
      · rfl
      · next different =>
        cases there : table.record? other with
        | none => rfl
        | some record => exact absurd (only other record there) different

end Table

namespace Sender

variable {config : Config}

/-- The older one of the item found so far and another one, by age and slot. -/
def older (sender : Sender config) (best : Option (Nat × Nat))
    (entry : Nat × Record PendingItem) : Option (Nat × Nat) :=
  match best with
  | none => some (sender.age entry.2.primary, entry.1)
  | some (bestAge, _) =>
      if bestAge ≤ sender.age entry.2.primary then some (sender.age entry.2.primary, entry.1)
      else best

theorem oldest?_eq (sender : Sender config) :
    sender.oldest? = (sender.pending.toList.foldl sender.older none).map (·.2) := rfl

/-- The older one is the item found so far or the other one. -/
theorem older_eq_or (sender : Sender config) (best : Option (Nat × Nat))
    (entry : Nat × Record PendingItem) :
    sender.older best entry = best ∨
      sender.older best entry = some (sender.age entry.2.primary, entry.1) := by
  cases best with
  | none => exact .inr rfl
  | some best =>
      simp only [older]
      split
      · exact .inr rfl
      · exact .inl rfl

/-- The item found is at least as old as the one found before and as all that were looked at
since. -/
theorem age_le_of_foldl_older (sender : Sender config)
    (entries : List (Nat × Record PendingItem)) {best : Option (Nat × Nat)}
    {chosen : Nat × Nat} (found : entries.foldl sender.older best = some chosen) :
    (∀ first ∈ best, first.1 ≤ chosen.1) ∧
      ∀ entry ∈ entries, sender.age entry.2.primary ≤ chosen.1 := by
  induction entries generalizing best with
  | nil =>
      rw [List.foldl_nil] at found
      subst found
      exact ⟨fun _ same => by cases same; exact Nat.le_refl _, nofun⟩
  | cons entry rest ih =>
      obtain ⟨since, others⟩ := ih found
      have both : (∀ first ∈ best, first.1 ≤ chosen.1) ∧
          sender.age entry.2.primary ≤ chosen.1 := by
        cases best with
        | none => exact ⟨nofun, since _ rfl⟩
        | some best =>
            simp only [older] at since
            split at since
            · next less =>
              have later := since _ rfl
              exact ⟨fun _ same => by cases same; exact Nat.le_trans less later, later⟩
            · next more =>
              have later := since _ rfl
              exact ⟨fun _ same => by cases same; exact later,
                Nat.le_trans (Nat.le_of_lt (Nat.lt_of_not_le more)) later⟩
      refine ⟨both.1, fun other member => ?_⟩
      rcases List.mem_cons.mp member with rfl | later
      · exact both.2
      · exact others other later

/-- The oldest item is pending, and none that is pending is older. -/
theorem oldest?_eq_some {sender : Sender config} {slot : Nat}
    (oldest : sender.oldest? = some slot) :
    ∃ record, sender.pending.record? slot = some record ∧
      ∀ other kept, sender.pending.record? other = some kept →
        sender.age kept.primary ≤ sender.age record.primary := by
  have among : ∀ best ∈ sender.pending.toList.foldl sender.older none,
      ∃ record, sender.pending.record? best.2 = some record ∧
        best.1 = sender.age record.primary := by
    refine List.foldlRecOn (motive := fun (chosen : Option (Nat × Nat)) =>
      ∀ best ∈ chosen, ∃ record, sender.pending.record? best.2 = some record ∧
        best.1 = sender.age record.primary) _ _ ?_ ?_
    · intro best member
      cases member
    · intro best known entry member
      rcases sender.older_eq_or best entry with same | other
      · rw [same]
        exact known
      · intro chosen equal
        rw [other, Option.mem_some] at equal
        rw [← equal]
        exact ⟨entry.2, Arena.mem_toList.mp member, rfl⟩
  rw [oldest?_eq] at oldest
  rcases Option.map_eq_some_iff.mp oldest with ⟨best, chosen, rfl⟩
  obtain ⟨record, found, age⟩ := among best chosen
  refine ⟨record, found, fun other kept there => ?_⟩
  rw [← age]
  exact (sender.age_le_of_foldl_older _ chosen).2 (other, kept) (Arena.mem_toList.mpr there)

theorem isSome_foldl_older (sender : Sender config) (entries : List (Nat × Record PendingItem))
    (best : Nat × Nat) : (entries.foldl sender.older (some best)).isSome := by
  refine List.foldlRecOn (motive := fun (chosen : Option (Nat × Nat)) => chosen.isSome)
    _ _ ?_ ?_
  · rfl
  · intro best known entry _
    rcases sender.older_eq_or best entry with same | other
    · rw [same]
      exact known
    · rw [other]
      rfl

theorem oldest?_isSome {sender : Sender config} (some : 0 < sender.pendingCount) :
    sender.oldest?.isSome := by
  have nonempty : 0 < sender.pending.toList.length := by
    rw [Table.length_toList]
    exact some
  rw [oldest?_eq, Option.isSome_map]
  cases entries : sender.pending.toList with
  | nil =>
      rw [entries] at nonempty
      cases nonempty
  | cons entry rest => exact sender.isSome_foldl_older rest _

theorem pendingCount_evictOldest (sender : Sender config) :
    (evictOldest sender ()).1.pendingCount = sender.pendingCount - 1 := by
  cases oldest : sender.oldest? with
  | none =>
      have empty : ¬ 0 < sender.pendingCount := by
        intro some
        have there := oldest?_isSome some
        rw [oldest] at there
        cases there
      simp only [evictOldest, oldest]
      omega
  | some slot =>
      obtain ⟨record, found, _⟩ := oldest?_eq_some oldest
      have counted : sender.pendingCount = (sender.pending.remove slot).size + 1 :=
        Table.size_remove found
      simp only [evictOldest, oldest]
      rw [giveUp_of_found found, counted]
      rfl

theorem pendingCount_run_evictOldest (sender : Sender config) (count : Nat) :
    (Transition.run evictOldest sender (List.replicate count ())).1.pendingCount =
      sender.pendingCount - count := by
  induction count generalizing sender with
  | zero => rfl
  | succ count ih =>
      rw [List.replicate_succ, Transition.run_cons, ih, pendingCount_evictOldest, Nat.sub_sub,
        Nat.add_comm]

theorem pendingCount_makeRoom_lt (sender : Sender config) (positive : 0 < config.queueLimit) :
    sender.makeRoom.1.pendingCount < config.queueLimit := by
  rw [makeRoom, pendingCount_run_evictOldest]
  omega

end Sender

end ReliableDatagram
