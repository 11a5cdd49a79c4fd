import KubeLB.PortLookup.Invariant

/-!
Contract: one `AllocatePorts` call as its caller sees it.

Owns: the postcondition of a call that returns, and which calls return when the draws
leave out no number.

Does not own: who makes the calls, and what a reload puts into the table.
-/

set_option autoImplicit false

namespace KubeLB.PortLookup

open KubeLB.Library

/-! ## Postcondition -/

/-- A call at an endpoint, with the result it reports. -/
structure AllocatesExactly (pa : PortAllocator) (endpointKey : String) (portKeys : List String)
    (pa' : PortAllocator) (updated : Bool) : Prop where
  keys : ∀ portKey, (pa'.lookup endpointKey portKey).isSome ↔ portKey ∈ portKeys
  kept : ∀ portKey ∈ portKeys, ∀ port, pa.lookup endpointKey portKey = some port →
    pa'.lookup endpointKey portKey = some port
  inRange : ∀ portKey port, pa.lookup endpointKey portKey = none →
    pa'.lookup endpointKey portKey = some port → startPort ≤ port ∧ port < endPort
  unheld : ∀ portKey port, pa.lookup endpointKey portKey = none →
    pa'.lookup endpointKey portKey = some port →
      ∀ other otherKey, pa.lookup other otherKey ≠ some port
  distinct : ∀ portKey otherKey port, pa.lookup endpointKey portKey = none →
    pa.lookup endpointKey otherKey = none → pa'.lookup endpointKey portKey = some port →
      pa'.lookup endpointKey otherKey = some port → portKey = otherKey
  elsewhere : ∀ other, other ≠ endpointKey →
    pa'.portLookup.lookup other = pa.portLookup.lookup other
  reported : updated = true ↔ ∃ portKey,
    ¬((pa.lookup endpointKey portKey).isSome ↔ (pa'.lookup endpointKey portKey).isSome)

theorem allocateMissing_updated {portKeys : List String} {before after : AllocationLoop}
    {draws rest : List Draw}
    (allocated : allocateMissing portKeys before draws = some (after, rest)) :
    after.updated = true ↔
      before.updated = true ∨ ∃ portKey ∈ portKeys, before.ports.lookup portKey = none := by
  induction portKeys generalizing before draws with
  | nil =>
      cases allocated
      simp
  | cons portKey portKeys ih =>
      simp only [allocateMissing] at allocated
      split at allocated
      · next held isHeld =>
          rw [ih allocated]
          simp [isHeld]
      · next missing =>
          split at allocated
          · cases allocated
          · rw [ih allocated]
            simp [missing]

theorem allocatePorts_updated {pa pa' : PortAllocator} {endpointKey : String}
    {portKeys : List String} {draws rest : List Draw} {updated : Bool}
    (allocated : pa.allocatePorts endpointKey portKeys draws = some (pa', updated, rest)) :
    updated = true ↔ (∃ portKey ∈ portKeys, pa.lookup endpointKey portKey = none) ∨
      ∃ portKey, portKey ∉ portKeys ∧ (pa.lookup endpointKey portKey).isSome := by
  unfold PortAllocator.allocatePorts at allocated
  split at allocated
  · cases allocated
  · next loop left isLoop =>
      cases allocated
      have effect := allocateMissing_effect isLoop
      have before (portKey : String) : (endpointPorts pa.portLookup endpointKey).lookup portKey =
          pa.lookup endpointKey portKey := lookup_endpointPorts _ _ _
      have added := allocateMissing_updated isLoop
      simp only [Bool.false_eq_true, false_or, before] at added
      rw [Bool.or_eq_true, decide_eq_true_eq, added]
      refine or_congr_right ?_
      rw [Ne, GoMap.retain_eq_self_iff]
      push Not
      -- the loop only adds listed keys, so a key that is dropped was there before
      refine exists_congr (fun portKey => ?_)
      rw [List.contains_eq_mem, Ne, decide_eq_true_eq, and_comm]
      refine and_congr_right (fun notListed => ?_)
      rw [← before portKey]
      constructor
      · intro isHeld
        obtain ⟨port, found⟩ := Option.isSome_iff_exists.mp isHeld
        by_contra absent
        exact notListed (effect.fresh (Option.not_isSome_iff_eq_none.mp absent) found).1
      · intro wasHeld
        obtain ⟨port, found⟩ := Option.isSome_iff_exists.mp wasHeld
        exact Option.isSome_of_eq_some (effect.kept found)

theorem draw_inRange (draw : Draw) : (startPort : Int) ≤ draw.port ∧ draw.port < endPort := by
  have bound := draw.isLt
  simp only [Draw.port, startPort, endPort] at bound ⊢
  omega

theorem allocatesExactly {pa pa' : PortAllocator} {endpointKey : String} {portKeys : List String}
    {draws rest : List Draw} {updated : Bool} (exact : ReverseExact pa)
    (allocated : pa.allocatePorts endpointKey portKeys draws = some (pa', updated, rest)) :
    AllocatesExactly pa endpointKey portKeys pa' updated := by
  have effect := allocatePorts_effect allocated
  have keys (portKey : String) :
      (pa'.lookup endpointKey portKey).isSome ↔ portKey ∈ portKeys := by
    constructor
    · intro isHeld
      by_contra notListed
      rw [effect.dropped notListed] at isHeld
      cases isHeld
    · intro isListed
      exact Option.isSome_iff_exists.mpr (effect.filled isListed)
  refine ⟨keys, ?_, ?_, ?_, ?_, ?_, ?_⟩
  · intro portKey isListed port found
    exact effect.kept isListed found
  · intro portKey port missing found
    obtain ⟨-, draw, -, rfl⟩ := effect.fresh missing found
    exact draw_inRange draw
  · intro portKey port missing found other otherKey held
    exact (effect.fresh missing found).1 ((exact.mem_iff port).mpr ⟨other, otherKey, held⟩)
  · intro portKey otherKey port missing otherMissing found otherFound
    exact effect.distinct missing otherMissing found otherFound
  · intro other different
    exact effect.elsewhere different
  · rw [allocatePorts_updated allocated]
    simp only [keys]
    constructor
    · rintro (⟨portKey, isListed, missing⟩ | ⟨portKey, notListed, held⟩)
      · exact ⟨portKey, by simp [isListed, missing]⟩
      · exact ⟨portKey, by simp [notListed, held]⟩
    · rintro ⟨portKey, changed⟩
      by_cases isListed : portKey ∈ portKeys
      · refine Or.inl ⟨portKey, isListed, ?_⟩
        simpa [isListed] using changed
      · refine Or.inr ⟨portKey, isListed, ?_⟩
        simpa [isListed, Option.isSome_iff_ne_none] using changed

/-- A call that returns leaves exactly the listed keys at its endpoint, in every state that
the allocator can be in. -/
theorem allocatePorts_exact (calls : List Call) (pa pa' : PortAllocator)
    (endpointKey : String) (portKeys : List String) (draws rest : List Draw) (updated : Bool)
    (run : runFrom PortAllocator.step newPortAllocator calls = some pa)
    (allocated : pa.allocatePorts endpointKey portKeys draws = some (pa', updated, rest)) :
    AllocatesExactly pa endpointKey portKeys pa' updated := by
  exact allocatesExactly (reached_uniqueBeyond run).exact allocated

/-- A request with a repeated key drops one key, keeps one and adds one: the draw of the held
port is skipped. -/
theorem allocatePorts_exact_repeated :
    ∃ pa pa' updated rest,
      runFrom PortAllocator.step newPortAllocator
        [.allocatePorts "tenant-a-web-ep-0" ["80-TCP", "81-TCP"] [3, 4]] = some pa ∧
      pa.allocatePorts "tenant-a-web-ep-0" ["81-TCP", "82-TCP", "82-TCP"] [4, 5] =
        some (pa', updated, rest) ∧
      AllocatesExactly pa "tenant-a-web-ep-0" ["81-TCP", "82-TCP", "82-TCP"] pa' updated := by
  have evaluated : ((runFrom PortAllocator.step newPortAllocator
      [.allocatePorts "tenant-a-web-ep-0" ["80-TCP", "81-TCP"] [3, 4]]).bind (fun pa =>
        pa.allocatePorts "tenant-a-web-ep-0" ["81-TCP", "82-TCP", "82-TCP"] [4, 5])).isSome =
      true := by
    decide +kernel
  obtain ⟨⟨pa', updated, rest⟩, isBound⟩ := Option.isSome_iff_exists.mp evaluated
  obtain ⟨pa, run, allocated⟩ := Option.bind_eq_some_iff.mp isBound
  exact ⟨pa, pa', updated, rest, run, allocated,
    allocatePorts_exact _ pa pa' _ _ _ rest updated run allocated⟩

/-! ## Termination -/

def freePorts (used : Finset Int) : Finset Int :=
  (Finset.univ.image Draw.port) \ used

def missingKeys (ports : GoMap String Int) (portKeys : List String) : Finset String :=
  portKeys.toFinset.filter (fun portKey => ports.lookup portKey = none)

theorem mem_freePorts {used : Finset Int} {port : Int} :
    port ∈ freePorts used ↔ (∃ draw : Draw, draw.port = port) ∧ port ∉ used := by
  simp [freePorts]

theorem mem_missingKeys {ports : GoMap String Int} {portKeys : List String} {portKey : String} :
    portKey ∈ missingKeys ports portKeys ↔ portKey ∈ portKeys ∧ ports.lookup portKey = none := by
  simp [missingKeys]

/-- Every number whose port is free is among the draws. -/
def DrawsFree (used : Finset Int) (draws : List Draw) : Prop :=
  ∀ draw : Draw, draw.port ∉ used → draw ∈ draws

/-- A free port is found, and the numbers of the other free ports are still to be drawn:
what was drawn before it was used. -/
theorem allocatePort_of_drawsFree {used : Finset Int} {draws : List Draw}
    (drawsFree : DrawsFree used draws) (hasFree : (freePorts used).Nonempty) :
    ∃ port rest, allocatePort used draws = some (port, rest) ∧ port ∈ freePorts used ∧
      DrawsFree (insert port used) rest := by
  induction draws with
  | nil =>
      obtain ⟨port, isFree⟩ := hasFree
      obtain ⟨⟨draw, rfl⟩, unused⟩ := mem_freePorts.mp isFree
      exact absurd (drawsFree draw unused) List.not_mem_nil
  | cons draw draws ih =>
      by_cases isUsed : draw.port ∈ used
      · have laterFree : DrawsFree used draws := by
          intro other unused
          rcases List.mem_cons.mp (drawsFree other unused) with rfl | later
          · exact absurd isUsed unused
          · exact later
        obtain ⟨port, rest, allocated, isFree, restFree⟩ := ih laterFree
        exact ⟨port, rest, by rw [allocatePort, if_pos isUsed, allocated], isFree, restFree⟩
      · refine ⟨draw.port, draws, by rw [allocatePort, if_neg isUsed],
          mem_freePorts.mpr ⟨⟨draw, rfl⟩, isUsed⟩, ?_⟩
        intro other unused
        rw [Finset.mem_insert, not_or] at unused
        refine (List.mem_cons.mp (drawsFree other unused.2)).resolve_left ?_
        rintro rfl
        exact unused.1 rfl

theorem freePorts_insert {used : Finset Int} {port : Int} (isFree : port ∈ freePorts used) :
    (freePorts (insert port used)).card + 1 = (freePorts used).card := by
  rw [freePorts, Finset.sdiff_insert, ← freePorts, Finset.card_erase_add_one isFree]

theorem missingKeys_cons_of_held {ports : GoMap String Int} {portKey : String} {port : Int}
    (isHeld : ports.lookup portKey = some port) (portKeys : List String) :
    missingKeys ports (portKey :: portKeys) = missingKeys ports portKeys := by
  ext key
  rw [mem_missingKeys, mem_missingKeys, List.mem_cons]
  constructor
  · rintro ⟨rfl | later, missing⟩
    · rw [isHeld] at missing
      cases missing
    · exact ⟨later, missing⟩
  · rintro ⟨later, missing⟩
    exact ⟨Or.inr later, missing⟩

theorem missingKeys_cons_of_missing {ports : GoMap String Int} {portKey : String}
    (missing : ports.lookup portKey = none) (portKeys : List String) (port : Int) :
    (missingKeys (ports.insert portKey port) portKeys).card + 1 =
      (missingKeys ports (portKey :: portKeys)).card := by
  have isMissing : portKey ∈ missingKeys ports (portKey :: portKeys) :=
    mem_missingKeys.mpr ⟨List.mem_cons_self, missing⟩
  rw [← Finset.card_erase_add_one isMissing]
  congr 2
  ext key
  rw [Finset.mem_erase, mem_missingKeys, mem_missingKeys, List.mem_cons]
  by_cases isHead : key = portKey
  · subst isHead
    simp [Finmap.lookup_insert]
  · simp [isHead, Finmap.lookup_insert_of_ne _ isHead]

theorem allocateMissing_isSome {portKeys : List String} {loop : AllocationLoop}
    {draws : List Draw} (drawsFree : DrawsFree loop.used draws)
    (enough : (missingKeys loop.ports portKeys).card ≤ (freePorts loop.used).card) :
    (allocateMissing portKeys loop draws).isSome := by
  induction portKeys generalizing loop draws with
  | nil => rfl
  | cons portKey portKeys ih =>
      rw [allocateMissing]
      split
      · next held isHeld =>
          rw [missingKeys_cons_of_held isHeld] at enough
          exact ih drawsFree enough
      · next missing =>
          have counted := missingKeys_cons_of_missing missing portKeys
          have hasFree : (freePorts loop.used).Nonempty := by
            rw [← Finset.card_pos]
            have oneMissing := counted 0
            omega
          obtain ⟨port, rest, allocated, isFree, restFree⟩ :=
            allocatePort_of_drawsFree drawsFree hasFree
          rw [allocated]
          refine ih restFree ?_
          have oneMissing := counted port
          have oneFree := freePorts_insert isFree
          dsimp only
          omega

def firstDraws (source : Nat → Draw) (count : Nat) : List Draw :=
  (List.range count).map source

theorem exists_firstDraws {source : Nat → Draw} (drawsAll : Function.Surjective source) :
    ∃ count, ∀ draw, draw ∈ firstDraws source count := by
  choose position isDrawn using drawsAll
  obtain ⟨count, isBefore⟩ := (Finset.univ.image position).exists_nat_subset_range
  refine ⟨count, fun draw => List.mem_map.mpr ⟨position draw, ?_, isDrawn draw⟩⟩
  have inImage : position draw ∈ Finset.univ.image position :=
    Finset.mem_image_of_mem _ (Finset.mem_univ draw)
  exact List.mem_range.mpr (Finset.mem_range.mp (isBefore inImage))

theorem missingKeys_card_le {pa pa' : PortAllocator} {endpointKey : String}
    {portKeys : List String} {draws : List Draw}
    (effect : AllocatesPorts pa endpointKey portKeys draws pa') :
    (missingKeys (endpointPorts pa.portLookup endpointKey) portKeys).card ≤
      (freePorts pa.portLookupReverse).card := by
  have added {portKey : String}
      (isMissing : portKey ∈ missingKeys (endpointPorts pa.portLookup endpointKey) portKeys) :
      pa.lookup endpointKey portKey = none ∧
        ∃ port, pa'.lookup endpointKey portKey = some port := by
    obtain ⟨isListed, missing⟩ := mem_missingKeys.mp isMissing
    exact ⟨(lookup_endpointPorts _ _ _).symm.trans missing, effect.filled isListed⟩
  refine Finset.card_le_card_of_injOn (fun key => (pa'.lookup endpointKey key).getD 0) ?_ ?_
  · intro portKey isMissing
    obtain ⟨missing, port, found⟩ := added isMissing
    obtain ⟨unused, draw, -, isPort⟩ := effect.fresh missing found
    simp only [found, Option.getD_some]
    exact mem_freePorts.mpr ⟨⟨draw, isPort.symm⟩, unused⟩
  · intro portKey isMissing otherKey otherIsMissing samePort
    obtain ⟨missing, port, found⟩ := added isMissing
    obtain ⟨otherMissing, otherPort, otherFound⟩ := added otherIsMissing
    simp only [found, otherFound, Option.getD_some] at samePort
    exact effect.distinct missing otherMissing found (samePort ▸ otherFound)

theorem allocatePorts_isSome {pa : PortAllocator} {endpointKey : String} {portKeys : List String}
    {draws : List Draw} (drawsAll : ∀ draw, draw ∈ draws)
    (enough : (missingKeys (endpointPorts pa.portLookup endpointKey) portKeys).card ≤
      (freePorts pa.portLookupReverse).card) :
    (pa.allocatePorts endpointKey portKeys draws).isSome := by
  have allocated : (allocateMissing portKeys
      { ports := endpointPorts pa.portLookup endpointKey
        used := pa.portLookupReverse
        updated := false } draws).isSome :=
    allocateMissing_isSome (fun draw _ => drawsAll draw) enough
  obtain ⟨⟨loop, rest⟩, isLoop⟩ := Option.isSome_iff_exists.mp allocated
  rw [PortAllocator.allocatePorts, isLoop]
  rfl

/-- Under draws that leave out no number, a call returns exactly when its endpoint's missing
keys are not more than the free ports. -/
theorem allocatePorts_returns_iff (pa : PortAllocator) (endpointKey : String)
    (portKeys : List String) (source : Nat → Draw) (drawsAll : Function.Surjective source) :
    (∃ count, (pa.allocatePorts endpointKey portKeys (firstDraws source count)).isSome) ↔
      (missingKeys (endpointPorts pa.portLookup endpointKey) portKeys).card ≤
        (freePorts pa.portLookupReverse).card := by
  constructor
  · rintro ⟨count, returns⟩
    obtain ⟨⟨pa', updated, rest⟩, allocated⟩ := Option.isSome_iff_exists.mp returns
    exact missingKeys_card_le (allocatePorts_effect allocated)
  · intro enough
    obtain ⟨count, drawn⟩ := exists_firstDraws drawsAll
    exact ⟨count, allocatePorts_isSome drawn enough⟩

def roundSource (position : Nat) : Draw := Fin.ofNat _ position

theorem roundSource_surjective : Function.Surjective roundSource := by
  intro draw
  exact ⟨draw.val, Fin.ofNat_val_eq_self draw⟩

theorem card_freePorts_empty : (freePorts ∅).card = endPort - startPort := by
  have injective : Function.Injective Draw.port := by
    intro draw other same
    simp only [Draw.port, Int.add_left_inj, Int.natCast_inj] at same
    exact Fin.ext same
  rw [freePorts, Finset.sdiff_empty, Finset.card_image_of_injective _ injective, Finset.card_univ,
    Fintype.card_fin]

theorem allocatePorts_returns_first :
    Function.Surjective roundSource ∧
      ((∃ count, (newPortAllocator.allocatePorts "tenant-a-web-ep-0" ["80-TCP"]
          (firstDraws roundSource count)).isSome) ↔
        (missingKeys (endpointPorts newPortAllocator.portLookup "tenant-a-web-ep-0")
          ["80-TCP"]).card ≤ (freePorts newPortAllocator.portLookupReverse).card) :=
  ⟨roundSource_surjective, allocatePorts_returns_iff _ _ _ _ roundSource_surjective⟩

def everyKey : List String :=
  (List.range (endPort - startPort)).map toString

theorem card_everyKey : everyKey.toFinset.card = endPort - startPort := by
  have nodup : everyKey.Nodup :=
    List.nodup_range.map (fun number other same => natText_injective same)
  rw [List.toFinset_card_of_nodup nodup, everyKey, List.length_map, List.length_range]

theorem freePorts_eq_empty {pa : PortAllocator} {draws : List Draw} {endpointKey : String}
    (effect : AllocatesPorts newPortAllocator endpointKey everyKey draws pa) :
    freePorts pa.portLookupReverse = ∅ := by
  have missing (portKey : String) : newPortAllocator.lookup endpointKey portKey = none :=
    cell_empty _ _
  have held {portKey : String} (isKey : portKey ∈ everyKey.toFinset) :
      ∃ port, pa.lookup endpointKey portKey = some port ∧ port ∈ freePorts ∅ := by
    obtain ⟨port, found⟩ := effect.filled (List.mem_toFinset.mp isKey)
    obtain ⟨-, draw, -, isPort⟩ := effect.fresh (missing portKey) found
    exact ⟨port, found, mem_freePorts.mpr ⟨⟨draw, isPort.symm⟩, Finset.notMem_empty _⟩⟩
  -- the ports of the keys are different, so they are all ports of the range
  have allHeld : everyKey.toFinset.image (fun key => (pa.lookup endpointKey key).getD 0) =
      freePorts ∅ := by
    apply Finset.eq_of_subset_of_card_le
    · intro port isImage
      obtain ⟨portKey, isKey, rfl⟩ := Finset.mem_image.mp isImage
      obtain ⟨port, found, inRange⟩ := held isKey
      rwa [found]
    · rw [card_freePorts_empty, Finset.card_image_of_injOn, card_everyKey]
      intro portKey isKey otherKey isOther samePort
      obtain ⟨port, found, -⟩ := held isKey
      obtain ⟨otherPort, otherFound, -⟩ := held isOther
      simp only [found, otherFound, Option.getD_some] at samePort
      exact effect.distinct (missing _) (missing _) found (samePort ▸ otherFound)
  rw [Finset.eq_empty_iff_forall_notMem]
  intro port isFree
  obtain ⟨isDrawn, unused⟩ := mem_freePorts.mp isFree
  have inRange : port ∈ freePorts ∅ := mem_freePorts.mpr ⟨isDrawn, Finset.notMem_empty _⟩
  rw [← allHeld] at inRange
  obtain ⟨portKey, isKey, rfl⟩ := Finset.mem_image.mp inRange
  obtain ⟨port, found, -⟩ := held isKey
  rw [found, Option.getD_some] at unused
  exact unused ((effect.exact.mem_iff port).mpr ⟨endpointKey, portKey, found⟩)

/-- One tenant holds every port of the range; the request of another one never returns. -/
theorem full_range_never_returns :
    ∃ calls pa, runFrom PortAllocator.step newPortAllocator calls = some pa ∧
      Function.Surjective roundSource ∧
      ∀ count, pa.allocatePorts "tenant-b-web-ep-0" ["80-TCP"] (firstDraws roundSource count) =
        none := by
  obtain ⟨count, drawn⟩ := exists_firstDraws roundSource_surjective
  have enough : (missingKeys (endpointPorts newPortAllocator.portLookup "tenant-a-web-ep-0")
      everyKey).card ≤ (freePorts newPortAllocator.portLookupReverse).card := by
    calc (missingKeys (endpointPorts newPortAllocator.portLookup "tenant-a-web-ep-0")
          everyKey).card
        ≤ everyKey.toFinset.card := Finset.card_filter_le _ _
      _ = (freePorts newPortAllocator.portLookupReverse).card := by
          rw [card_everyKey, ← card_freePorts_empty]
          rfl
  obtain ⟨⟨pa, updated, rest⟩, allocated⟩ :=
    Option.isSome_iff_exists.mp (allocatePorts_isSome drawn enough)
  refine ⟨[.allocatePorts "tenant-a-web-ep-0" everyKey (firstDraws roundSource count)], pa, ?_,
    roundSource_surjective, fun later => ?_⟩
  · simp only [runFrom, PortAllocator.step, allocated, Option.map_some]
  · by_contra returns
    obtain ⟨⟨pa', updated', rest'⟩, allocated'⟩ := Option.ne_none_iff_exists'.mp returns
    have fits := missingKeys_card_le (allocatePorts_effect allocated')
    have effect := allocatePorts_effect allocated
    rw [freePorts_eq_empty effect, Finset.card_empty, Nat.le_zero, Finset.card_eq_zero] at fits
    have isMissing : "80-TCP" ∈ missingKeys (endpointPorts pa.portLookup "tenant-b-web-ep-0")
        ["80-TCP"] := by
      refine mem_missingKeys.mpr ⟨List.mem_singleton_self _, ?_⟩
      rw [lookup_endpointPorts]
      have different : "tenant-b-web-ep-0" ≠ "tenant-a-web-ep-0" := by decide
      exact (effect.lookup_elsewhere different "80-TCP").trans (cell_empty _ _)
    rw [fits] at isMissing
    cases isMissing

end KubeLB.PortLookup
