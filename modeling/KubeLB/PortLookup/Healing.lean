import KubeLB.PortLookup.Effects

/-!
Contract: what `healLoadStateCollisions` leaves in a loaded table.

Owns: the loop facts of the healing pass and its specification: an entry
survives exactly when no smaller endpoint key holds the same port.

Does not own: duplicates inside one endpoint. The pass compares owners by
endpoint key, so it keeps them.
-/

set_option autoImplicit false

namespace KubeLB.PortLookup

open KubeLB.Library

def OwnedElsewhere (owners : GoMap Int String) (endpointKey : String) (port : Int) : Prop :=
  ∃ owner, owners.lookup port = some owner ∧ owner ≠ endpointKey

theorem ownedElsewhere_insert_self (owners : GoMap Int String) (endpointKey : String)
    {port : Int} (unowned : ¬OwnedElsewhere owners endpointKey port) (other : Int) :
    OwnedElsewhere (owners.insert port endpointKey) endpointKey other ↔
      OwnedElsewhere owners endpointKey other := by
  by_cases same : other = port
  · subst same
    simp only [unowned, iff_false]
    rintro ⟨owner, found, different⟩
    rw [Finmap.lookup_insert] at found
    cases found
    exact different rfl
  · simp only [OwnedElsewhere, Finmap.lookup_insert_of_ne _ same]

/-! ## One endpoint -/

theorem healPortKeys_cons (endpointKey portKey : String) (portKeys : List String)
    (ports : GoMap String Int) (owners : GoMap Int String) {port : Int}
    (held : ports.lookup portKey = some port) :
    (OwnedElsewhere owners endpointKey port ∧
      healPortKeys endpointKey (portKey :: portKeys) ports owners =
        healPortKeys endpointKey portKeys (ports.erase portKey) owners) ∨
    (¬OwnedElsewhere owners endpointKey port ∧
      healPortKeys endpointKey (portKey :: portKeys) ports owners =
        healPortKeys endpointKey portKeys ports (owners.insert port endpointKey)) := by
  have read : (ports.lookup portKey).getD 0 = port := by rw [held]; rfl
  rw [healPortKeys, read]
  cases isOwner : owners.lookup port with
  | none =>
      right
      refine ⟨?_, rfl⟩
      rintro ⟨owner, found, -⟩
      rw [isOwner] at found
      cases found
  | some owner =>
      by_cases foreign : owner ≠ endpointKey
      · left
        exact ⟨⟨owner, isOwner, foreign⟩, by simp [foreign]⟩
      · right
        refine ⟨?_, by simp [foreign]⟩
        rintro ⟨owner', found, different⟩
        rw [isOwner] at found
        cases found
        exact foreign different

/-- The effect of the inner loop on the ports and on the owners. -/
structure HealsPortKeys (endpointKey : String) (portKeys : List String)
    (ports : GoMap String Int) (owners : GoMap Int String)
    (healed : GoMap String Int × GoMap Int String) : Prop where
  survives : ∀ portKey port, healed.1.lookup portKey = some port ↔
    ports.lookup portKey = some port ∧
      (portKey ∈ portKeys → ¬OwnedElsewhere owners endpointKey port)
  owner : ∀ port owner, healed.2.lookup port = some owner ↔
    (owners.lookup port = some owner ∧ owner ≠ endpointKey) ∨
    (owner = endpointKey ∧ ¬OwnedElsewhere owners endpointKey port ∧
      (owners.lookup port = some endpointKey ∨
        ∃ portKey ∈ portKeys, ports.lookup portKey = some port))

theorem healPortKeys_effect (endpointKey : String) (portKeys : List String)
    (ports : GoMap String Int) (owners : GoMap Int String)
    (distinct : portKeys.Nodup)
    (held : ∀ portKey ∈ portKeys, ∃ port, ports.lookup portKey = some port) :
    HealsPortKeys endpointKey portKeys ports owners
      (healPortKeys endpointKey portKeys ports owners) := by
  induction portKeys generalizing ports owners with
  | nil =>
      refine ⟨by simp [healPortKeys], ?_⟩
      intro port owner
      simp only [healPortKeys, List.not_mem_nil, false_and, exists_false, or_false]
      constructor
      · intro found
        by_cases here : owner = endpointKey
        · subst here
          refine Or.inr ⟨rfl, ?_, found⟩
          rintro ⟨other, found', different⟩
          rw [found] at found'
          cases found'
          exact different rfl
        · exact Or.inl ⟨found, here⟩
      · rintro (⟨found, -⟩ | ⟨rfl, -, found⟩) <;> exact found
  | cons portKey portKeys ih =>
      obtain ⟨absent, distinctTail⟩ := List.nodup_cons.mp distinct
      obtain ⟨port, isPort⟩ := held portKey List.mem_cons_self
      have heldTail : ∀ later ∈ portKeys, ∃ value, ports.lookup later = some value :=
        fun later member => held later (List.mem_cons_of_mem _ member)
      have notHead {later : String} (member : later ∈ portKeys) : later ≠ portKey :=
        fun same => absent (same ▸ member)
      rcases healPortKeys_cons endpointKey portKey portKeys ports owners isPort with
        ⟨foreign, unfolded⟩ | ⟨unowned, unfolded⟩
      · -- the head is cleared; the rest does not see it
        have heldErased : ∀ later ∈ portKeys,
            ∃ value, (ports.erase portKey).lookup later = some value := by
          intro later member
          rw [Finmap.lookup_erase_ne (notHead member)]
          exact heldTail later member
        have effect := ih (ports.erase portKey) owners distinctTail heldErased
        rw [unfolded]
        refine ⟨?_, ?_⟩
        · intro other value
          rw [effect.survives]
          by_cases isHead : other = portKey
          · subst isHead
            simp only [Finmap.lookup_erase, reduceCtorEq, false_and, List.mem_cons_self,
              true_implies, false_iff, not_and, not_not]
            intro found
            rw [isPort] at found
            cases found
            exact foreign
          · simp [Finmap.lookup_erase_ne isHead, isHead]
        · intro value owner
          rw [effect.owner]
          have same : (∃ later ∈ portKeys, (ports.erase portKey).lookup later = some value) ↔
              ∃ later ∈ portKeys, ports.lookup later = some value := by
            constructor <;> rintro ⟨later, member, found⟩
            · exact ⟨later, member, by rwa [Finmap.lookup_erase_ne (notHead member)] at found⟩
            · exact ⟨later, member, by rwa [Finmap.lookup_erase_ne (notHead member)]⟩
          rw [same]
          refine or_congr_right (and_congr_right fun _ => and_congr_right fun free => ?_)
          refine or_congr_right ⟨?_, ?_⟩
          · rintro ⟨later, member, found⟩
            exact ⟨later, List.mem_cons_of_mem _ member, found⟩
          · rintro ⟨later, member, found⟩
            rcases List.mem_cons.mp member with rfl | member
            · rw [isPort] at found
              cases found
              exact absurd foreign free
            · exact ⟨later, member, found⟩
      · have effect := ih ports (owners.insert port endpointKey)
          distinctTail heldTail
        have foreignIff := ownedElsewhere_insert_self owners endpointKey unowned
        rw [unfolded]
        refine ⟨?_, ?_⟩
        · intro other value
          rw [effect.survives, foreignIff]
          refine and_congr_right fun found => ?_
          by_cases isHead : other = portKey
          · subst isHead
            rw [isPort] at found
            cases found
            simp [absent, unowned]
          · simp [isHead]
        · intro value owner
          rw [effect.owner, foreignIff]
          by_cases samePort : value = port
          · subst samePort
            have foreignOwner : ¬(owners.lookup value = some owner ∧ owner ≠ endpointKey) :=
              fun both => unowned ⟨owner, both⟩
            simp only [Finmap.lookup_insert, Option.some.injEq, true_or, and_true, foreignOwner,
              false_or, unowned, not_false_eq_true, List.mem_cons, exists_eq_or_imp,
              isPort, or_true]
            constructor
            · rintro (⟨same, different⟩ | same)
              · exact absurd same.symm different
              · exact same
            · exact Or.inr
          · have headOther : ports.lookup portKey ≠ some value := by
              rw [isPort]
              simpa using fun same => samePort same.symm
            simp only [Finmap.lookup_insert_of_ne _ samePort, List.mem_cons, exists_eq_or_imp,
              headOther, false_or]

/-! ## The whole table -/

/-- One round of the outer loop, read entry by entry. `outside` says that the
ports owned so far belong to endpoints before this one. -/
private theorem healEndpoint_effect (endpointKey : String) (table : LookupTable)
    (owners : GoMap Int String)
    (outside : ∀ port, owners.lookup port ≠ some endpointKey)
    (healed : GoMap String Int × GoMap Int String)
    (isHealed : healed = healPortKeys endpointKey
      (GoMap.sortedKeys (endpointPorts table endpointKey))
      (endpointPorts table endpointKey) owners) :
    (∀ portKey port, healed.1.lookup portKey = some port ↔
      cell table endpointKey portKey = some port ∧ owners.lookup port = none) ∧
    (∀ port owner, healed.2.lookup port = some owner →
      owners.lookup port = some owner ∨ owner = endpointKey) ∧
    (∀ port, healed.2.lookup port = none ↔
      owners.lookup port = none ∧ ∀ portKey, cell table endpointKey portKey ≠ some port) := by
  have effect := healPortKeys_effect endpointKey
    (GoMap.sortedKeys (endpointPorts table endpointKey)) (endpointPorts table endpointKey) owners
    (GoMap.nodup_sortedKeys _) (fun portKey member => (GoMap.mem_sortedKeys _ _).mp member)
  rw [← isHealed] at effect
  have foreignIff (port : Int) :
      OwnedElsewhere owners endpointKey port ↔ owners.lookup port ≠ none := by
    constructor
    · rintro ⟨owner, found, -⟩ absent
      rw [absent] at found
      cases found
    · intro present
      obtain ⟨owner, found⟩ := Option.ne_none_iff_exists'.mp present
      exact ⟨owner, found, fun same => outside port (same ▸ found)⟩
  have listed (portKey : String) (port : Int)
      (found : cell table endpointKey portKey = some port) :
      portKey ∈ GoMap.sortedKeys (endpointPorts table endpointKey) :=
    (GoMap.mem_sortedKeys _ _).mpr ⟨port, by rw [lookup_endpointPorts, found]⟩
  refine ⟨?_, ?_, ?_⟩
  · intro portKey port
    rw [effect.survives, lookup_endpointPorts, foreignIff, not_not]
    exact and_congr_right fun found =>
      ⟨fun clear => clear (listed portKey port found), fun clear _ => clear⟩
  · intro port owner found
    rcases (effect.owner port owner).mp found with ⟨prior, -⟩ | ⟨same, -⟩
    · exact Or.inl prior
    · exact Or.inr same
  · intro port
    constructor
    · intro absent
      have unowned : owners.lookup port = none := by
        by_contra present
        obtain ⟨owner, found⟩ := Option.ne_none_iff_exists'.mp present
        have owned := (effect.owner port owner).mpr
          (Or.inl ⟨found, fun same => outside port (same ▸ found)⟩)
        rw [absent] at owned
        cases owned
      refine ⟨unowned, fun portKey found => ?_⟩
      have owned := (effect.owner port endpointKey).mpr (Or.inr ⟨rfl,
        fun foreign => (foreignIff port).mp foreign unowned,
        Or.inr ⟨portKey, listed portKey port found, by rw [lookup_endpointPorts, found]⟩⟩)
      rw [absent] at owned
      cases owned
    · rintro ⟨unowned, unused⟩
      by_contra present
      obtain ⟨owner, found⟩ := Option.ne_none_iff_exists'.mp present
      rcases (effect.owner port owner).mp found with ⟨prior, -⟩ | ⟨-, -, prior | used⟩
      · rw [unowned] at prior
        cases prior
      · exact outside port prior
      · obtain ⟨portKey, -, used⟩ := used
        rw [lookup_endpointPorts] at used
        exact unused portKey used

private theorem healEndpoints_effect (endpointKeys : List String) (table : LookupTable)
    (owners : GoMap Int String)
    (sorted : endpointKeys.Pairwise (· < ·))
    (outside : ∀ port, ∀ owner ∈ endpointKeys, owners.lookup port ≠ some owner)
    (endpointKey portKey : String) (port : Int) :
    cell (healEndpoints endpointKeys table owners) endpointKey portKey = some port ↔
      cell table endpointKey portKey = some port ∧
        (endpointKey ∈ endpointKeys → owners.lookup port = none ∧
          ∀ other ∈ endpointKeys, ∀ portKey', cell table other portKey' = some port →
            endpointKey ≤ other) := by
  induction endpointKeys generalizing table owners with
  | nil => simp [healEndpoints]
  | cons head rest ih =>
      obtain ⟨headFirst, sortedRest⟩ := List.pairwise_cons.mp sorted
      have headAbsent : head ∉ rest := fun member => lt_irrefl _ (headFirst head member)
      generalize isHealed : healPortKeys head (GoMap.sortedKeys (endpointPorts table head))
        (endpointPorts table head) owners = healed
      obtain ⟨survives, owner, unowned⟩ := healEndpoint_effect head table owners
        (fun port => outside port head List.mem_cons_self) healed isHealed.symm
      have outsideRest : ∀ port, ∀ key ∈ rest, healed.2.lookup port ≠ some key := by
        intro port key member found
        rcases owner port key found with prior | same
        · exact outside port key (List.mem_cons_of_mem _ member) prior
        · exact headAbsent (same ▸ member)
      have unfolded : healEndpoints (head :: rest) table owners =
          healEndpoints rest (table.insert head healed.1) healed.2 := by
        rw [healEndpoints, isHealed]
      rw [unfolded, ih _ _ sortedRest outsideRest, cell_insert]
      by_cases isHead : endpointKey = head
      · subst isHead
        simp only [if_true, headAbsent, false_implies, and_true, survives, List.mem_cons,
          true_or, true_implies]
        refine and_congr_right fun _ => ⟨fun free => ⟨free, ?_⟩, fun both => both.1⟩
        rintro other (rfl | member) _ _
        · exact le_rfl
        · exact le_of_lt (headFirst other member)
      · have elsewhere : ∀ other ∈ rest, ∀ key,
            cell (table.insert head healed.1) other key = cell table other key := by
          intro other member key
          have different : other ≠ head := fun same => headAbsent (same ▸ member)
          rw [cell_insert, if_neg different]
        rw [if_neg isHead]
        simp only [List.mem_cons, isHead, false_or, unowned]
        refine and_congr_right fun found => forall_congr' fun member => ?_
        have later : head < endpointKey := headFirst endpointKey member
        constructor
        · rintro ⟨⟨free, unused⟩, smallest⟩
          refine ⟨free, ?_⟩
          rintro other (rfl | otherMember) key held
          · exact absurd held (unused key)
          · exact smallest other otherMember key (by rw [elsewhere other otherMember, held])
        · rintro ⟨free, smallest⟩
          refine ⟨⟨free, fun key held => ?_⟩, fun other otherMember key held => ?_⟩
          · exact absurd (smallest head (Or.inl rfl) key held) (not_le.mpr later)
          · rw [elsewhere other otherMember] at held
            exact smallest other (Or.inr otherMember) key held

/-- An entry survives healing exactly when no smaller endpoint key holds its
port. -/
theorem cell_healLoadStateCollisions (table : LookupTable) (endpointKey portKey : String)
    (port : Int) :
    cell (healLoadStateCollisions table) endpointKey portKey = some port ↔
      cell table endpointKey portKey = some port ∧
        ∀ other portKey', cell table other portKey' = some port → endpointKey ≤ other := by
  have listed {other portKey' : String} {value : Int}
      (found : cell table other portKey' = some value) :
      other ∈ GoMap.sortedKeys table := by
    obtain ⟨ports, held, -⟩ := Option.bind_eq_some_iff.mp found
    exact (GoMap.mem_sortedKeys _ _).mpr ⟨ports, held⟩
  unfold healLoadStateCollisions
  rw [healEndpoints_effect _ _ _ (GoMap.pairwise_sortedKeys table) (by simp)]
  refine and_congr_right fun found => ?_
  constructor
  · intro condition other portKey' held
    exact (condition (listed found)).2 other (listed held) portKey' held
  · intro smallest _
    exact ⟨by simp, fun other _ portKey' held => smallest other portKey' held⟩

private theorem healEndpoints_present (endpointKeys : List String) (table : LookupTable)
    (owners : GoMap Int String)
    (present : ∀ key ∈ endpointKeys, table.lookup key ≠ none) (endpointKey : String) :
    (healEndpoints endpointKeys table owners).lookup endpointKey = none ↔
      table.lookup endpointKey = none := by
  induction endpointKeys generalizing table owners with
  | nil => rfl
  | cons head rest ih =>
      have inserted (ports : GoMap String Int) (key : String) :
          (table.insert head ports).lookup key = none ↔ table.lookup key = none := by
        by_cases isHead : key = head
        · subst isHead
          simp [present key List.mem_cons_self]
        · rw [Finmap.lookup_insert_of_ne _ isHead]
      rw [healEndpoints, ih, inserted]
      intro key member absent
      exact present key (List.mem_cons_of_mem _ member) ((inserted _ _).mp absent)

theorem lookup_healLoadStateCollisions_eq_none (table : LookupTable) (endpointKey : String) :
    (healLoadStateCollisions table).lookup endpointKey = none ↔
      table.lookup endpointKey = none := by
  apply healEndpoints_present
  intro key member absent
  obtain ⟨ports, held⟩ := (GoMap.mem_sortedKeys _ _).mp member
  rw [absent] at held
  cases held

theorem healLoadStateCollisions_endpoint {table : LookupTable}
    {endpointKey endpointKey' portKey portKey' : String} {port : Int}
    (found : cell (healLoadStateCollisions table) endpointKey portKey = some port)
    (found' : cell (healLoadStateCollisions table) endpointKey' portKey' = some port) :
    endpointKey = endpointKey' := by
  obtain ⟨held, smallest⟩ := (cell_healLoadStateCollisions _ _ _ _).mp found
  obtain ⟨held', smallest'⟩ := (cell_healLoadStateCollisions _ _ _ _).mp found'
  exact le_antisymm (smallest _ _ held') (smallest' _ _ held)

/-! ## Iteration orders -/

/-- The outer loop, with the order in which the port keys of each endpoint are collected. -/
def healEndpointsBy (inner : String → GoMap.RangeOrder String) :
    List String → LookupTable → GoMap Int String → LookupTable
  | [], table, _ => table
  | endpointKey :: endpointKeys, table, owners =>
      let ports := endpointPorts table endpointKey
      let healed := healPortKeys endpointKey (ports.collectSorted (inner endpointKey)) ports owners
      healEndpointsBy inner endpointKeys (table.insert endpointKey healed.1) healed.2

/-- `healLoadStateCollisions` in a run whose `range` loops enumerate keys in these orders. -/
def healLoadStateCollisionsBy (outer : GoMap.RangeOrder String)
    (inner : String → GoMap.RangeOrder String) (table : LookupTable) : LookupTable :=
  healEndpointsBy inner (table.collectSorted outer) table ∅

theorem healLoadStateCollisionsBy_eq (outer : GoMap.RangeOrder String)
    (inner : String → GoMap.RangeOrder String) (table : LookupTable) :
    healLoadStateCollisionsBy outer inner table = healLoadStateCollisions table := by
  have sameLoop (endpointKeys : List String) (table : LookupTable) (owners : GoMap Int String) :
      healEndpointsBy inner endpointKeys table owners =
        healEndpoints endpointKeys table owners := by
    induction endpointKeys generalizing table owners with
    | nil => rfl
    | cons endpointKey endpointKeys ih =>
        rw [healEndpointsBy, GoMap.collectSorted_eq_sortedKeys, ih, healEndpoints]
  rw [healLoadStateCollisionsBy, GoMap.collectSorted_eq_sortedKeys, sameLoop]
  rfl

/-! ## What healing is for -/

/-- The smallest endpoint key that holds a port. -/
structure FirstOwner (table : LookupTable) (port : Int) (owner : String) : Prop where
  holds : ∃ portKey, cell table owner portKey = some port
  smallest : ∀ endpointKey portKey, cell table endpointKey portKey = some port →
    owner ≤ endpointKey

theorem exists_firstOwner {table : LookupTable} {endpointKey portKey : String} {port : Int}
    (found : cell table endpointKey portKey = some port) :
    ∃ owner, FirstOwner table port owner := by
  classical
  have isKey {key portKey : String} (held : cell table key portKey = some port) :
      key ∈ table.keys.filter (fun key => ∃ portKey, cell table key portKey = some port) := by
    obtain ⟨ports, isPorts, -⟩ := Option.bind_eq_some_iff.mp held
    exact Finset.mem_filter.mpr
      ⟨Finmap.mem_keys.mpr (Finmap.mem_of_lookup_eq_some isPorts), portKey, held⟩
  obtain ⟨owner, isOwner, smallest⟩ := Finset.exists_min_image _ id ⟨endpointKey, isKey found⟩
  exact ⟨owner, (Finset.mem_filter.mp isOwner).2, fun key portKey held => smallest key (isKey held)⟩

/-- No port is held by two endpoint keys. -/
def OwnersDiffer (table : LookupTable) : Prop :=
  ∀ endpointKey portKey endpointKey' portKey' port,
    cell table endpointKey portKey = some port →
      cell table endpointKey' portKey' = some port → endpointKey = endpointKey'

/-- Healing is a removal of entries that leaves each port with its first owner. -/
structure HealsTable (table healed : LookupTable) : Prop where
  removes : ∀ endpointKey portKey port, cell healed endpointKey portKey = some port →
    cell table endpointKey portKey = some port
  ownersDiffer : OwnersDiffer healed
  firstOwner : ∀ endpointKey portKey port, cell table endpointKey portKey = some port →
    ∃ owner, FirstOwner table port owner ∧ FirstOwner healed port owner
  keeps : ∀ port owner, FirstOwner table port owner → ∀ portKey,
    cell table owner portKey = some port → cell healed owner portKey = some port
  unchanged : OwnersDiffer table → healed = table

theorem healLoadStateCollisions_of_ownersDiffer {table : LookupTable}
    (ownersDiffer : OwnersDiffer table) : healLoadStateCollisions table = table := by
  have sameCells (endpointKey portKey : String) :
      cell (healLoadStateCollisions table) endpointKey portKey =
        cell table endpointKey portKey := by
    refine Option.ext (fun port => ?_)
    rw [cell_healLoadStateCollisions]
    constructor
    · exact And.left
    · intro found
      exact ⟨found, fun other portKey' held => (ownersDiffer _ _ _ _ _ found held).le⟩
  refine Finmap.ext_lookup (fun endpointKey => ?_)
  have present := lookup_healLoadStateCollisions_eq_none table endpointKey
  cases isHealed : (healLoadStateCollisions table).lookup endpointKey with
  | none => exact (present.mp isHealed).symm
  | some healed =>
      cases isPorts : table.lookup endpointKey with
      | none =>
          rw [present.mpr isPorts] at isHealed
          cases isHealed
      | some ports =>
          refine congrArg some (Finmap.ext_lookup (fun portKey => ?_))
          have same := sameCells endpointKey portKey
          rwa [cell, cell, isHealed, isPorts] at same

/-- Every run of `healLoadStateCollisions` only removes entries and leaves every port with the
smallest endpoint key that held it, which keeps all its entries of the port. -/
theorem healLoadStateCollisions_heals (outer : GoMap.RangeOrder String)
    (inner : String → GoMap.RangeOrder String) (table : LookupTable) :
    HealsTable table (healLoadStateCollisionsBy outer inner table) := by
  rw [healLoadStateCollisionsBy_eq]
  have keeps (port : Int) (owner : String) (isFirst : FirstOwner table port owner)
      (portKey : String) (found : cell table owner portKey = some port) :
      cell (healLoadStateCollisions table) owner portKey = some port :=
    (cell_healLoadStateCollisions _ _ _ _).mpr ⟨found, isFirst.smallest⟩
  refine ⟨?_, ?_, ?_, keeps, healLoadStateCollisions_of_ownersDiffer⟩
  · intro endpointKey portKey port found
    exact ((cell_healLoadStateCollisions _ _ _ _).mp found).1
  · intro endpointKey portKey endpointKey' portKey' port found found'
    exact healLoadStateCollisions_endpoint found found'
  · intro endpointKey portKey port found
    obtain ⟨owner, isFirst⟩ := exists_firstOwner found
    obtain ⟨ownKey, held⟩ := isFirst.holds
    refine ⟨owner, isFirst, ⟨ownKey, keeps port owner isFirst ownKey held⟩, ?_⟩
    intro other otherKey otherFound
    exact isFirst.smallest other otherKey
      ((cell_healLoadStateCollisions _ _ _ _).mp otherFound).1

/-- Two routes of one Service share port 12345; the second has a port of its own. -/
def sharedPortTable : LookupTable :=
  setPort (setPort (setPort ∅ "tenant-a-route-1" "80-TCP" 12345)
    "tenant-a-route-2" "80-TCP" 12345) "tenant-a-route-2" "81-TCP" 12346

/-- The first owner of a port loses its entry of a port that a smaller endpoint key holds. -/
theorem first_owner_loses_other_entry :
    FirstOwner sharedPortTable 12346 "tenant-a-route-2" ∧
      cell sharedPortTable "tenant-a-route-2" "80-TCP" = some 12345 ∧
      cell (healLoadStateCollisionsBy (GoMap.RangeOrder.increasing String)
        (fun _ => GoMap.RangeOrder.increasing String) sharedPortTable)
        "tenant-a-route-2" "80-TCP" = none := by
  refine ⟨⟨⟨"81-TCP", by decide +kernel⟩, ?_⟩, by decide +kernel, by decide +kernel⟩
  intro endpointKey portKey found
  by_contra different
  have notSecond : endpointKey ≠ "tenant-a-route-2" := fun same => different same.symm.le
  rw [sharedPortTable, cell_setPort, cell_setPort, cell_setPort] at found
  simp [notSecond] at found

end KubeLB.PortLookup
