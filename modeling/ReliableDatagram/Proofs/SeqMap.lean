import ReliableDatagram.SeqMap

/-!
# Laws of maps keyed by sequence id

Look-up after each change of a map, with equality of ids as the only condition, and
the front of a forward walk: the entries within some distance of the origin are the
ones that the walk meets first (`mem_takeWhile_entriesFrom`).

The first entry past some distance is found by at most two searches in numeric order, of
which the second one starts over at the lowest id (`first?_eq_search?`).
-/

namespace ReliableDatagram

namespace SeqMap

variable {α : Type}

theorem compareRaw_eq_iff {left right : SeqId} :
    SeqId.compareRaw left right = .eq ↔ left = right := by
  constructor
  · exact Std.LawfulEqCmp.eq_of_compare
  · intro same
    rw [same]
    exact Std.ReflCmp.compare_self

theorem mem_keys {map : SeqMap α} {id : SeqId} :
    id ∈ map.keys ↔ ∃ value, map[id]? = some value := by
  rw [Std.ExtTreeMap.mem_keys, ← Std.ExtTreeMap.contains_iff_mem,
    Std.ExtTreeMap.contains_eq_isSome_getElem?, Option.isSome_iff_exists]

theorem getElem?_insert (map : SeqMap α) (id : SeqId) (value : α) (other : SeqId) :
    (map.insert id value)[other]? = if other = id then some value else map[other]? := by
  simp only [Std.ExtTreeMap.getElem?_insert, compareRaw_eq_iff, @eq_comm SeqId id]

theorem getElem?_erase (map : SeqMap α) (id other : SeqId) :
    (map.erase id)[other]? = if other = id then none else map[other]? := by
  simp only [Std.ExtTreeMap.getElem?_erase, compareRaw_eq_iff, @eq_comm SeqId id]

theorem getElem?_foldl_erase (ids : List SeqId) (map : SeqMap α) (id : SeqId) :
    (ids.foldl (fun map id => map.erase id) map)[id]? =
      if id ∈ ids then none else map[id]? := by
  induction ids generalizing map with
  | nil => rfl
  | cons first rest ih =>
      rw [List.foldl_cons, ih, getElem?_erase]
      cases Decidable.em (id ∈ rest) with
      | inl later => simp [later]
      | inr never => simp [never]

/-- In a list that gets ever farther from an origin, the entries within some distance are
those at its front. -/
theorem takeWhile_eq_filter {entries : List (SeqId × α)} {origin : SeqId}
    {selected : SeqId × α → Bool} {reach : Nat}
    (ordered : entries.Pairwise fun left right =>
      origin.distanceTo left.1 < origin.distanceTo right.1)
    (bounded : ∀ entry, selected entry = decide (origin.distanceTo entry.1 < reach)) :
    entries.takeWhile selected = entries.filter selected := by
  induction entries with
  | nil => rfl
  | cons entry rest ih =>
      rcases List.pairwise_cons.mp ordered with ⟨farther, ordered⟩
      cases first : selected entry with
      | true => rw [List.takeWhile_cons_of_pos first, List.filter_cons_of_pos first, ih ordered]
      | false =>
          have beyond : reach ≤ origin.distanceTo entry.1 := by
            rw [bounded] at first
            exact Nat.le_of_not_lt (of_decide_eq_false first)
          have none : rest.filter selected = [] := by
            apply List.filter_eq_nil_iff.mpr
            intro other member
            rw [bounded, decide_eq_true_eq]
            exact Nat.not_lt_of_le (Nat.le_trans beyond (Nat.le_of_lt (farther other member)))
          rw [List.takeWhile_cons_of_neg (by simp [first]),
            List.filter_cons_of_neg (by simp [first]), none]

theorem mem_takeWhile_entriesFrom {map : SeqMap α} {origin : SeqId}
    {selected : SeqId × α → Bool} {reach : Nat}
    (bounded : ∀ entry, selected entry = decide (origin.distanceTo entry.1 < reach))
    {id : SeqId} {value : α} :
    (id, value) ∈ (entriesFrom map origin).takeWhile selected ↔
      map[id]? = some value ∧ selected (id, value) := by
  rw [takeWhile_eq_filter (pairwise_entriesFrom map origin) bounded, List.mem_filter,
    mem_entriesFrom]

/-! ## Searches in numeric order -/

/-- The first entry in numeric order whose id is at least `low` and below `high`. -/
def firstBetween? (map : SeqMap α) (low high : Nat) : Option (SeqId × α) :=
  map.toList.find? fun entry => low ≤ entry.1.toNat && entry.1.toNat < high

/-- Look for the first entry that lies at least `distance` steps after `origin`.  The search
begins at the id that so many steps lead to, and starts over at the lowest id unless the steps
have passed it already. -/
def search? (map : SeqMap α) (origin : SeqId) (distance : Nat) : Option (SeqId × α) :=
  if SeqId.space ≤ distance then none
  else
    let low := (origin.advance distance).toNat
    if origin.toNat + distance < SeqId.space then
      (firstBetween? map low SeqId.space).or (firstBetween? map 0 origin.toNat)
    else firstBetween? map low origin.toNat

theorem find?_eq_firstBetween? {selected : SeqId × α → Bool} {low high : Nat}
    (bounds : ∀ entry, selected entry ↔ low ≤ entry.1.toNat ∧ entry.1.toNat < high) :
    map.toList.find? selected = firstBetween? map low high := by
  have same : selected = fun entry => low ≤ entry.1.toNat && entry.1.toNat < high := by
    funext entry
    rw [Bool.eq_iff_iff, bounds, Bool.and_eq_true, decide_eq_true_eq, decide_eq_true_eq]
  rw [same, firstBetween?]

theorem firstBetween?_eq_none {low high : Nat} (empty : high ≤ low) :
    firstBetween? map low high = none := by
  apply List.find?_eq_none.mpr
  intro entry _
  rw [Bool.and_eq_true, decide_eq_true_eq, decide_eq_true_eq]
  omega

/-- The ids from the origin on that are far enough are those from some id on, and so are those
below the origin. -/
theorem first?_eq_or (map : SeqMap α) (origin : SeqId) {distance : Nat}
    (near : distance < SeqId.space) :
    first? map origin distance =
      (firstBetween? map (origin.toNat + distance) SeqId.space).or
        (firstBetween? map (origin.toNat + distance - SeqId.space) origin.toNat) := by
  have originLt := origin.toNat_lt
  have above : ∀ entry : SeqId × α, (decide (origin.toNat ≤ entry.1.toNat) &&
      decide (distance ≤ origin.distanceTo entry.1)) = true ↔
        origin.toNat + distance ≤ entry.1.toNat ∧ entry.1.toNat < SeqId.space := by
    intro entry
    have idLt := entry.1.toNat_lt
    simp only [SeqId.distanceTo_eq, SeqId.space, Bool.and_eq_true, decide_eq_true_eq] at *
    omega
  have below : ∀ entry : SeqId × α, (decide (entry.1.toNat < origin.toNat) &&
      decide (distance ≤ origin.distanceTo entry.1)) = true ↔
        origin.toNat + distance - SeqId.space ≤ entry.1.toNat ∧
          entry.1.toNat < origin.toNat := by
    intro entry
    have idLt := entry.1.toNat_lt
    simp only [SeqId.distanceTo_eq, SeqId.space, Bool.and_eq_true, decide_eq_true_eq] at *
    omega
  simp only [first?, entriesFrom, List.find?_append, List.find?_filter, Bool.decide_and,
    Bool.decide_eq_true]
  rw [find?_eq_firstBetween? above, find?_eq_firstBetween? below]

theorem first?_eq_none (map : SeqMap α) (origin : SeqId) {distance : Nat}
    (far : SeqId.space ≤ distance) : first? map origin distance = none := by
  apply List.find?_eq_none.mpr
  intro entry _
  rw [decide_eq_true_eq, Nat.not_le]
  exact Nat.lt_of_lt_of_le (SeqId.distanceTo_lt origin entry.1) far

/-- What a walk meets first from some distance on is what the search finds. -/
theorem first?_eq_search? (map : SeqMap α) (origin : SeqId) (distance : Nat) :
    first? map origin distance = search? map origin distance := by
  have originLt := origin.toNat_lt
  unfold search?
  split
  · next far => exact first?_eq_none map origin far
  · next near =>
    rw [first?_eq_or map origin (Nat.lt_of_not_le near), SeqId.toNat_advance]
    split
    · next within =>
      rw [Nat.mod_eq_of_lt within, Nat.sub_eq_zero_of_le (Nat.le_of_lt within)]
    · next past =>
      have around := Nat.le_of_not_lt past
      have low : (origin.toNat + distance) % SeqId.space =
          origin.toNat + distance - SeqId.space := by
        rw [Nat.mod_eq_sub_mod around, Nat.mod_eq_of_lt (by omega)]
      rw [low, firstBetween?_eq_none around, Option.none_or]

theorem length_entriesFrom (map : SeqMap α) (origin : SeqId) :
    (entriesFrom map origin).length = map.size := by
  have parts : map.toList.filter (fun entry => entry.1.toNat < origin.toNat) =
      map.toList.filter fun entry => !decide (origin.toNat ≤ entry.1.toNat) := by
    apply List.filter_congr
    intro entry _
    rw [← decide_not, decide_eq_decide, Nat.not_le]
  rw [entriesFrom, parts, (List.filter_append_perm _ _).length_eq]
  exact Std.ExtTreeMap.length_toList

/-- Without the entries of some ids a walk meets the others as before. -/
theorem entriesFrom_of_getElem? {before after : SeqMap α} {gone : SeqId → Bool}
    (left : ∀ id, after[id]? = if gone id then none else before[id]?) (origin : SeqId) :
    entriesFrom after origin = (entriesFrom before origin).filter fun entry => !gone entry.1 := by
  have ordered := pairwise_entriesFrom after origin
  have kept := (pairwise_entriesFrom before origin).filter fun entry => !gone entry.1
  have apart : ∀ {entries : List (SeqId × α)}, (entries.Pairwise fun left right =>
      origin.distanceTo left.1 < origin.distanceTo right.1) → entries.Nodup := by
    intro entries farther
    refine farther.imp ?_
    rintro left right less rfl
    exact Nat.lt_irrefl _ less
  refine List.Perm.eq_of_pairwise ?_ ordered kept ?_
  · intro left right _ _ less more
    exact absurd less (Nat.lt_asymm more)
  · apply (List.perm_ext_iff_of_nodup (apart ordered) (apart kept)).mpr
    rintro ⟨id, value⟩
    rw [mem_entriesFrom, List.mem_filter, mem_entriesFrom, left]
    cases gone id with
    | true => simp
    | false => simp

end SeqMap

end ReliableDatagram
