import KubeLB.Conversion.Grouping

/-!
Contract: the groups of `groupHostsByRules` are a partition of the hosts by their rules.

Owns: the names of routes, how many groups there are, that no `range` order shows in the
groups, and what the groups are, when equal signatures tell equal rules.

Does not own: which rules the hosts of an Ingress have, or what signatures collide.
-/

set_option autoImplicit false

namespace KubeLB.Conversion

open KubeLB.Library KubeLB.Networking KubeLB.GatewayApi

/-! ## Names of routes -/

theorem generateRouteName_injective {ingressName : String} {index other totalGroups : Nat}
    (several : totalGroups ≠ 1)
    (sameName : generateRouteName ingressName index totalGroups =
      generateRouteName ingressName other totalGroups) :
    index = other := by
  simp only [generateRouteName, if_neg several, String.append_assoc] at sameName
  have sameText := (String.append_right_inj "-").mp ((String.append_right_inj _).mp sameName)
  have sameNumber := natText_injective sameText
  omega

theorem nodup_map_generateRouteName (ingressName : String) (count : Nat) :
    ((List.range count).map (fun index => generateRouteName ingressName index count)).Nodup := by
  by_cases single : count = 1
  · simp [single]
  · refine List.Nodup.map ?_ List.nodup_range
    intro index other sameName
    exact generateRouteName_injective single sameName

section Groups

variable {ρ : Type} {signature : List ρ → String} {defaultRule : Option ρ}
  {hostRules : GoMap String (List ρ)}

/-- The groups are the hosts of the map, divided by their rules; the empty host, which
stands for no host, is kept apart. -/
structure PartitionsHosts (hostRules : GoMap String (List ρ)) (defaultRule : Option ρ)
    (groups : List (HostRuleGroup ρ)) : Prop where
  nonempty : ∀ group ∈ groups, group.hosts ≠ []
  distinct : (groups.flatMap HostRuleGroup.hosts).Nodup
  covers : ∀ host, host ∈ groups.flatMap HostRuleGroup.hosts ↔ host ∈ hostRules
  rules : ∀ group ∈ groups, ∀ host ∈ group.hosts,
    ∃ own, hostRules.lookup host = some own ∧ group.rules = own ++ defaultRule.toList
  shared : ∀ host ∈ hostRules, ∀ other ∈ hostRules, host ≠ "" → other ≠ "" →
    ((∃ group ∈ groups, host ∈ group.hosts ∧ other ∈ group.hosts) ↔
      hostRules.lookup host = hostRules.lookup other)
  alone : ∀ group ∈ groups, "" ∈ group.hosts → group.hosts = [""]

/-! ## Iteration orders -/

theorem perm_signatureBucket (order other : GoMap.RangeOrder String) (sig : String) :
    (signatureBucket signature defaultRule (hostRules.rangeBy order) sig).Perm
      (signatureBucket signature defaultRule (hostRules.rangeBy other) sig) :=
  (GoMap.perm_rangeBy hostRules order other).filter _

theorem splitNoHost_of_perm {hosts hosts' : List String} (permuted : hosts.Perm hosts')
    (rules : List ρ) : splitNoHost hosts rules = splitNoHost hosts' rules := by
  simp only [splitNoHost, GoMap.insertionSort_eq_of_perm permuted]

theorem rules_of_signature (tells : SignaturesTell signature hostRules defaultRule)
    {order : GoMap.RangeOrder String} {host sig : String} {rules : List ρ}
    (inBucket :
      (host, rules) ∈ signatureBucket signature defaultRule (hostRules.rangeBy order) sig) :
    (indexSignatures signature defaultRule (hostRules.rangeBy order)).2.lookup sig =
      some (finalRules defaultRule rules) := by
  obtain ⟨isRules, isSignature⟩ := mem_signatureBucket.mp inBucket
  have served : servedRules signature order hostRules defaultRule host =
      some (finalRules defaultRule rules) := servedRules_of_tells tells isRules
  rwa [servedRules, isRules, Option.bind_some, isSignature] at served

theorem groupHostsByRules_order (tells : SignaturesTell signature hostRules defaultRule)
    (order other : GoMap.RangeOrder String) :
    groupHostsByRules signature order hostRules defaultRule =
      groupHostsByRules signature other hostRules defaultRule := by
  have sameSignatures : GoMap.sortedKeys
      (indexSignatures signature defaultRule (hostRules.rangeBy order)).1 =
      GoMap.sortedKeys (indexSignatures signature defaultRule (hostRules.rangeBy other)).1 := by
    refine GoMap.sortedKeys_eq_of_isSome (fun sig => ?_)
    have permuted : (signatureBucket signature defaultRule (hostRules.rangeBy order) sig).Perm
        (signatureBucket signature defaultRule (hostRules.rangeBy other) sig) :=
      perm_signatureBucket order other sig
    rw [(lookup_indexSignatures _ sig).1, (lookup_indexSignatures _ sig).1]
    by_cases empty : signatureBucket signature defaultRule (hostRules.rangeBy order) sig = []
    · rw [if_pos empty, if_pos (List.perm_nil.mp (empty ▸ permuted.symm))]
    · have nonempty : signatureBucket signature defaultRule (hostRules.rangeBy other) sig ≠ [] :=
        fun isNil => empty (List.perm_nil.mp (isNil ▸ permuted))
      rw [if_neg empty, if_neg nonempty]
      rfl
  simp only [groupHostsByRules]
  rw [sameSignatures]
  refine List.flatMap_congr (fun sig isSignature => ?_)
  have permuted : (signatureBucket signature defaultRule (hostRules.rangeBy order) sig).Perm
      (signatureBucket signature defaultRule (hostRules.rangeBy other) sig) :=
    perm_signatureBucket order other sig
  have hasHosts := hosts_ne_nil_of_signature isSignature
  rw [hosts_of_signature] at hasHosts
  obtain ⟨⟨host, rules⟩, inBucket⟩ := List.exists_mem_of_ne_nil _
    (fun isNil => hasHosts (List.map_eq_nil_iff.mpr isNil))
  rw [rules_of_signature tells inBucket, rules_of_signature tells (permuted.mem_iff.mpr inBucket),
    hosts_of_signature, hosts_of_signature]
  exact splitNoHost_of_perm (permuted.map Prod.fst) _

/-! ## The partition -/

theorem GroupsServe.nodup_hosts {groups : List (HostRuleGroup ρ)}
    {served : String → Option (List ρ)} (groupsServe : GroupsServe groups served)
    (nodupHosts : ∀ group ∈ groups, group.hosts.Nodup) :
    (groups.flatMap HostRuleGroup.hosts).Nodup := by
  refine List.nodup_flatMap.mpr ⟨nodupHosts, List.pairwise_iff_forall_sublist.mpr ?_⟩
  intro first second isSublist host inFirst inSecond
  -- both groups pass the filter for the host, which leaves at most one
  have both := (isSublist.filter (fun group => decide (host ∈ group.hosts))).length_le
  have atMostOne := congrArg List.length (groupsServe.serves host)
  rw [List.length_map] at atMostOne
  simp only [inFirst, inSecond, decide_true, List.filter_cons_of_pos, List.filter_nil,
    List.length_cons, List.length_nil, atMostOne] at both
  cases isServed : served host <;> simp [isServed] at both

/-- The groups partition the hosts by their rules. -/
theorem groupHostsByRules_partitionsHosts (order : GoMap.RangeOrder String)
    (tells : SignaturesTell signature hostRules defaultRule) :
    PartitionsHosts hostRules defaultRule
      (groupHostsByRules signature order hostRules defaultRule) := by
  have serve : GroupsServe (groupHostsByRules signature order hostRules defaultRule)
      (servedRules signature order hostRules defaultRule) := groupsServe
  have covers (host : String) :
      (∃ group ∈ groupHostsByRules signature order hostRules defaultRule, host ∈ group.hosts) ↔
        host ∈ hostRules := by
    rw [serve.exists_mem_iff, isSome_servedRules, Finmap.mem_iff, Option.isSome_iff_exists]
  refine ⟨serve.nonempty, ?_, ?_, ?_, ?_, ?_⟩
  · exact serve.nodup_hosts (fun group isGroup => (hosts_of_mem_groups isGroup).1)
  · intro host
    rw [List.mem_flatMap]
    exact covers host
  · intro group isGroup host isHost
    obtain ⟨-, sig, inGroup⟩ := hosts_of_mem_groups isGroup
    obtain ⟨⟨own, isOwn, -⟩, -⟩ := (inGroup host).mp isHost
    refine ⟨own, isOwn, Option.some.inj ?_⟩
    rw [← serve.served_of_mem isGroup isHost]
    exact servedRules_of_tells tells isOwn
  · intro host isHost other isOther named otherNamed
    constructor
    · rintro ⟨group, isGroup, hostIn, otherIn⟩
      obtain ⟨-, sig, inGroup⟩ := hosts_of_mem_groups isGroup
      obtain ⟨⟨own, isOwn, ownSignature⟩, -⟩ := (inGroup host).mp hostIn
      obtain ⟨⟨otherOwn, isOtherOwn, otherSignature⟩, -⟩ := (inGroup other).mp otherIn
      rw [isOwn, isOtherOwn,
        tells host own other otherOwn isOwn isOtherOwn (ownSignature.trans otherSignature.symm)]
    · intro sameRules
      obtain ⟨group, isGroup, hostIn⟩ := (covers host).mpr isHost
      obtain ⟨-, sig, inGroup⟩ := hosts_of_mem_groups isGroup
      obtain ⟨⟨own, isOwn, ownSignature⟩, emptyIn⟩ := (inGroup host).mp hostIn
      refine ⟨group, isGroup, hostIn, (inGroup other).mpr ⟨⟨own, ?_, ownSignature⟩, ?_⟩⟩
      · rw [← sameRules, isOwn]
      · exact iff_of_false otherNamed (fun isEmpty => named (emptyIn.mpr isEmpty))
  · intro group isGroup isEmpty
    have nodupHosts := (hosts_of_mem_groups isGroup).1
    have onlyEmpty := serve.alone group isGroup isEmpty
    rw [List.eq_replicate_of_mem onlyEmpty] at nodupHosts ⊢
    have lengthLe := List.nodup_replicate.mp nodupHosts
    have nonempty := List.length_pos_of_mem isEmpty
    rw [show group.hosts.length = 1 by omega]
    rfl

/-- `groupHostsByRules` and `groupGRPCHostsByRules`, each with its encoding and the text of
its fallback: every iteration order gives the same groups, which partition the hosts by their
rules, and the routes of the groups have different names. -/
theorem groupHostsByRules_partition (marshal : List ρ → Option (List UInt8)) (fallback : String)
    (hostRules : GoMap String (List ρ)) (defaultRule : Option ρ) (ingressName : String)
    (tells : SignaturesTell (rulesSignature marshal fallback) hostRules defaultRule) :
    ∃ groups, (∀ order,
        groupHostsByRules (rulesSignature marshal fallback) order hostRules defaultRule = groups) ∧
      PartitionsHosts hostRules defaultRule groups ∧
      ((List.range groups.length).map
        (fun index => generateRouteName ingressName index groups.length)).Nodup :=
  ⟨groupHostsByRules _ (GoMap.RangeOrder.sorted String) hostRules defaultRule,
    fun order => groupHostsByRules_order tells order _,
    groupHostsByRules_partitionsHosts _ tells, nodup_map_generateRouteName _ _⟩

end Groups

/-! ## The number of groups -/

section Counting

variable {ρ : Type} (signature : List ρ → String) (defaultRule : Option ρ)
  (transform : String → String) (convertPath : HTTPIngressPath → ρ) (rules : List IngressRule)

/-- What decides on the group of a host: the signature of the rules for its paths, and
whether it is the empty host. -/
def hostGroupKey (host : String) : String × Bool :=
  (signature (finalRules defaultRule ((hostPaths transform rules host).map convertPath)),
    decide (host = ""))

/-- In how many groups the hosts fall. -/
def ruleGroupCount : Nat :=
  ((hostsWithRules transform rules).map
    (hostGroupKey signature defaultRule transform convertPath rules)).dedup.length

variable {signature defaultRule transform convertPath rules} {order : GoMap.RangeOrder String}

theorem mem_hosts_iff_hostGroupKey {group : HostRuleGroup ρ} {host : String}
    (isGroup : group ∈ groupHostsByRules signature order
      (collectHostRules transform convertPath rules) defaultRule)
    (isHost : host ∈ group.hosts) (other : String) :
    other ∈ group.hosts ↔ Tracked transform rules other ∧
      hostGroupKey signature defaultRule transform convertPath rules other =
        hostGroupKey signature defaultRule transform convertPath rules host := by
  obtain ⟨-, sig, inGroup⟩ := hosts_of_mem_groups isGroup
  have inGroup_iff (host : String) : host ∈ group.hosts ↔ Tracked transform rules host ∧
      signature (finalRules defaultRule ((hostPaths transform rules host).map convertPath)) = sig ∧
      (host = "" ↔ "" ∈ group.hosts) := by
    rw [inGroup, lookup_collectHostRules]
    by_cases tracked : Tracked transform rules host <;> simp [tracked]
  obtain ⟨-, isSignature, isEmpty⟩ := (inGroup_iff host).mp isHost
  rw [inGroup_iff other, hostGroupKey, hostGroupKey, Prod.mk.injEq, isSignature,
    decide_eq_decide, isEmpty]

theorem length_groupHostsByRules :
    (groupHostsByRules signature order (collectHostRules transform convertPath rules)
        defaultRule).length =
      ruleGroupCount signature defaultRule transform convertPath rules := by
  have serve : GroupsServe (groupHostsByRules signature order
      (collectHostRules transform convertPath rules) defaultRule)
      (servedRules signature order (collectHostRules transform convertPath rules) defaultRule) :=
    groupsServe
  have disjoint := (List.nodup_flatMap.mp (serve.nodup_hosts
    (fun group isGroup => (hosts_of_mem_groups isGroup).1))).2
  have head_mem (group : HostRuleGroup ρ) (isGroup : group ∈ groupHostsByRules signature order
      (collectHostRules transform convertPath rules) defaultRule) :
      group.hosts.headI ∈ group.hosts := by
    obtain ⟨host, hosts, isCons⟩ := List.exists_cons_of_ne_nil (serve.nonempty group isGroup)
    rw [isCons]
    exact List.mem_cons_self
  -- each group stands for the key of its first host
  have keys : ((groupHostsByRules signature order (collectHostRules transform convertPath rules)
      defaultRule).map fun group => hostGroupKey signature defaultRule transform convertPath rules
        group.hosts.headI).Perm ((hostsWithRules transform rules).map
          (hostGroupKey signature defaultRule transform convertPath rules)).dedup := by
    refine (List.perm_ext_iff_of_nodup ?_ (List.nodup_dedup _)).mpr (fun key => ?_)
    · rw [List.Nodup, List.pairwise_map]
      refine disjoint.imp_of_mem (fun {first second} isFirst isSecond apart same => ?_)
      have tracked := ((mem_hosts_iff_hostGroupKey isFirst (head_mem first isFirst) _).mp
        (head_mem first isFirst)).1
      exact apart (head_mem first isFirst) ((mem_hosts_iff_hostGroupKey isSecond
        (head_mem second isSecond) _).mpr ⟨tracked, same⟩)
    · rw [List.mem_dedup, List.mem_map, List.mem_map]
      constructor
      · rintro ⟨group, isGroup, rfl⟩
        refine ⟨group.hosts.headI, (mem_hostsWithRules _ _).mpr ?_, rfl⟩
        exact ((mem_hosts_iff_hostGroupKey isGroup (head_mem group isGroup) _).mp
          (head_mem group isGroup)).1
      · rintro ⟨host, isHost, rfl⟩
        rw [mem_hostsWithRules] at isHost
        obtain ⟨group, isGroup, inGroup⟩ := serve.exists_mem_iff.mpr (isSome_servedRules.mpr
          (by rw [lookup_collectHostRules, if_pos isHost]; rfl))
        exact ⟨group, isGroup,
          ((mem_hosts_iff_hostGroupKey isGroup inGroup _).mp (head_mem group isGroup)).2⟩
  rw [ruleGroupCount, ← keys.length_eq, List.length_map]

theorem ruleGroupCount_le_one_iff :
    ruleGroupCount signature defaultRule transform convertPath rules ≤ 1 ↔
      ∀ host other, Tracked transform rules host → Tracked transform rules other →
        hostGroupKey signature defaultRule transform convertPath rules host =
          hostGroupKey signature defaultRule transform convertPath rules other := by
  rw [ruleGroupCount, ← List.card_toFinset, Finset.card_le_one]
  simp only [List.mem_toFinset, List.mem_map, mem_hostsWithRules, forall_exists_index, and_imp,
    forall_apply_eq_imp_iff₂]
  exact ⟨fun same host other tracked => same host tracked other,
    fun same host tracked other => same host other tracked⟩

end Counting

def shopHostRules : GoMap String (List HTTPRouteRule) :=
  (((∅ : GoMap String (List HTTPRouteRule)).insert "a.example" [{ }]).insert
    "b.example" [{ }]).insert "" []

def encodeLength (rules : List HTTPRouteRule) : Option (List UInt8) :=
  some [UInt8.ofNat rules.length]

theorem shopHostRules_partition :
    SignaturesTell (rulesSignature encodeLength "rules-") shopHostRules (some { }) ∧
      ∃ groups, (∀ order, groupHostsByRules (rulesSignature encodeLength "rules-") order
          shopHostRules (some { }) = groups) ∧
        PartitionsHosts shopHostRules (some { }) groups ∧
        ((List.range groups.length).map
          (fun index => generateRouteName "shop" index groups.length)).Nodup := by
  have different : rulesSignature encodeLength "rules-" [{ }, { }] ≠
      rulesSignature encodeLength "rules-" [{ }] := by decide +kernel
  have stored (host : String) (rules : List HTTPRouteRule)
      (isRules : shopHostRules.lookup host = some rules) : rules = [{ }] ∨ rules = [] := by
    unfold shopHostRules at isRules
    by_cases isEmpty : host = ""
    · rw [isEmpty, Finmap.lookup_insert] at isRules
      exact Or.inr (Option.some.inj isRules).symm
    · rw [Finmap.lookup_insert_of_ne _ isEmpty] at isRules
      by_cases isB : host = "b.example"
      · rw [isB, Finmap.lookup_insert] at isRules
        exact Or.inl (Option.some.inj isRules).symm
      · rw [Finmap.lookup_insert_of_ne _ isB] at isRules
        by_cases isA : host = "a.example"
        · rw [isA, Finmap.lookup_insert] at isRules
          exact Or.inl (Option.some.inj isRules).symm
        · rw [Finmap.lookup_insert_of_ne _ isA] at isRules
          cases isRules
  have tells : SignaturesTell (rulesSignature encodeLength "rules-") shopHostRules
      (some { }) := by
    intro host rules other otherRules isRules isOther same
    rcases stored host rules isRules with rfl | rfl <;>
      rcases stored other otherRules isOther with rfl | rfl
    · rfl
    · exact absurd same different
    · exact absurd same.symm different
    · rfl
  exact ⟨tells, groupHostsByRules_partition _ _ _ _ "shop" tells⟩

end KubeLB.Conversion
