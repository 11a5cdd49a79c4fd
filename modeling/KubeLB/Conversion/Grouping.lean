import KubeLB.Conversion.Converter

/-!
Contract: which rules serve a host after hosts were grouped by signatures.

Owns: what the loops of `convertToHTTPRoutes` and `groupHostsByRules` leave in their
maps, and that each host is in one group, with the rules of its signature.

Does not own: what the rules match.
-/

set_option autoImplicit false

namespace KubeLB.Conversion

open KubeLB.Library KubeLB.Core KubeLB.Networking KubeLB.GatewayApi

section Collect

variable {ρ : Type} (transform : String → String) (convertPath : HTTPIngressPath → ρ)

/-- What one Ingress rule adds to the rules of a host; `none` leaves the host as it is. -/
def hostContribution (host : String) (rule : IngressRule) : Option (List ρ) :=
  if transform rule.host = host then
    match rule.http with
    | none => if host = "" then none else some []
    | some [] => none
    | some paths => some (paths.map convertPath)
  else none

def addContribution (rules : Option (List ρ)) : Option (List ρ) → Option (List ρ)
  | none => rules
  | some added => some (rules.getD [] ++ added)

variable {transform convertPath}

theorem lookup_addPaths (hostRules : GoMap String (List ρ)) (host : String)
    (paths : List HTTPIngressPath) (searched : String) :
    (paths.foldl (fun hostRules path =>
        hostRules.insert host ((hostRules.lookup host).getD [] ++ [convertPath path]))
      hostRules).lookup searched =
      if searched = host ∧ paths ≠ [] then
        some ((hostRules.lookup host).getD [] ++ paths.map convertPath)
      else hostRules.lookup searched := by
  induction paths generalizing hostRules with
  | nil => simp
  | cons path paths ih =>
      rw [List.foldl_cons, ih]
      by_cases same : searched = host
      · subst same
        rw [Finmap.lookup_insert]
        cases paths <;> simp
      · simp [same, Finmap.lookup_insert_of_ne _ same]

theorem lookup_addHostRules (hostRules : GoMap String (List ρ)) (rule : IngressRule)
    (host : String) :
    (addHostRules transform convertPath hostRules rule).lookup host =
      addContribution (hostRules.lookup host)
        (hostContribution transform convertPath host rule) := by
  unfold addHostRules hostContribution
  cases isHTTP : rule.http with
  | none =>
      by_cases same : transform rule.host = host
      · subst same
        by_cases known : transform rule.host = "" ∨
            (hostRules.lookup (transform rule.host)).isSome
        · simp only [if_pos known, if_true]
          by_cases empty : transform rule.host = ""
          · rw [if_pos empty, addContribution]
          · obtain ⟨rules, isRules⟩ := Option.isSome_iff_exists.mp (known.resolve_left empty)
            rw [if_neg empty, isRules, addContribution, Option.getD_some, List.append_nil]
        · simp only [if_neg known, if_true]
          rw [not_or, Option.not_isSome_iff_eq_none] at known
          rw [Finmap.lookup_insert, if_neg known.1, known.2]
          rfl
      · simp only [if_neg same, addContribution]
        split
        · rfl
        · exact Finmap.lookup_insert_of_ne _ (Ne.symm same)
  | some paths =>
      simp only [lookup_addPaths]
      by_cases same : transform rule.host = host
      · subst same
        cases paths <;> simp [addContribution]
      · simp [same, Ne.symm same, addContribution]

def hostPaths (transform : String → String) (rules : List IngressRule) (host : String) :
    List HTTPIngressPath :=
  ingressPaths (rules.filter (fun rule => transform rule.host = host))

/-- Some rule adds to the host. -/
def Tracked (transform : String → String) (rules : List IngressRule) (host : String) : Prop :=
  ∃ rule ∈ rules, transform rule.host = host ∧
    (rule.http = none ∧ host ≠ "" ∨ ∃ paths, rule.http = some paths ∧ paths ≠ [])

instance (rules : List IngressRule) (host : String) : Decidable (Tracked transform rules host) :=
  decidable_of_iff (∃ rule ∈ rules, transform rule.host = host ∧
    (rule.http = none ∧ host ≠ "" ∨ rule.http.getD [] ≠ [])) <| by
    refine exists_congr (fun rule => and_congr_right (fun _ => and_congr_right (fun _ =>
      or_congr_right ?_)))
    cases rule.http <;> simp

theorem hostContribution_eq_some_iff {host : String} {rule : IngressRule} {added : List ρ} :
    hostContribution transform convertPath host rule = some added ↔
      transform rule.host = host ∧
        (rule.http = none ∧ host ≠ "" ∨ ∃ paths, rule.http = some paths ∧ paths ≠ []) ∧
        added = (rule.http.getD []).map convertPath := by
  unfold hostContribution
  by_cases same : transform rule.host = host
  · rw [if_pos same]
    cases rule.http with
    | none => by_cases empty : host = "" <;> simp [same, empty, eq_comm]
    | some paths => cases paths <;> simp [same, eq_comm]
  · simp [same]

theorem paths_of_hostContribution_none {host : String} {rule : IngressRule}
    (isNone : hostContribution transform convertPath host rule = none) :
    (if transform rule.host = host then rule.http.getD [] else []) = [] := by
  unfold hostContribution at isNone
  split at isNone
  · next same =>
      rw [if_pos same]
      cases isHTTP : rule.http with
      | none => rfl
      | some paths => cases paths <;> simp_all
  · next different => exact if_neg different

theorem hostPaths_append (rules : List IngressRule) (rule : IngressRule) (host : String) :
    hostPaths transform (rules ++ [rule]) host =
      hostPaths transform rules host ++
        (if transform rule.host = host then rule.http.getD [] else []) := by
  simp only [hostPaths, ingressPaths, List.filter_append, List.flatMap_append,
    List.filter_singleton]
  by_cases same : transform rule.host = host <;> simp [same]

theorem hostPaths_of_not_tracked {rules : List IngressRule} {host : String}
    (notTracked : ¬ Tracked transform rules host) : hostPaths transform rules host = [] := by
  simp only [hostPaths, ingressPaths, List.flatMap_eq_nil_iff, List.mem_filter, decide_eq_true_eq]
  rintro rule ⟨isMember, same⟩
  by_contra hasPaths
  cases isHTTP : rule.http with
  | none => simp [isHTTP] at hasPaths
  | some paths =>
      rw [isHTTP, Option.getD_some] at hasPaths
      exact notTracked ⟨rule, isMember, same, Or.inr ⟨paths, isHTTP, hasPaths⟩⟩

theorem mem_ingressPaths_of_hostPaths {rules : List IngressRule}
    {host : String} {path : HTTPIngressPath} (isPath : path ∈ hostPaths transform rules host) :
    path ∈ ingressPaths rules := by
  simp only [hostPaths, ingressPaths, List.mem_flatMap, List.mem_filter] at isPath ⊢
  obtain ⟨rule, ⟨isRule, -⟩, isMember⟩ := isPath
  exact ⟨rule, isRule, isMember⟩

variable (convertPath) in
theorem tracked_append {rules : List IngressRule} {rule : IngressRule} {host : String} :
    Tracked transform (rules ++ [rule]) host ↔
      Tracked transform rules host ∨
        (hostContribution transform convertPath host rule).isSome := by
  have last : (hostContribution transform convertPath host rule).isSome ↔
      transform rule.host = host ∧
        (rule.http = none ∧ host ≠ "" ∨ ∃ paths, rule.http = some paths ∧ paths ≠ []) := by
    rw [Option.isSome_iff_exists]
    simp only [hostContribution_eq_some_iff]
    constructor
    · rintro ⟨_, same, adds, -⟩
      exact ⟨same, adds⟩
    · rintro ⟨same, adds⟩
      exact ⟨_, same, adds, rfl⟩
  rw [last]
  simp only [Tracked, List.mem_append, List.mem_singleton, or_and_right, exists_or, exists_eq_left]

theorem lookup_collectHostRules (rules : List IngressRule) (host : String) :
    (collectHostRules transform convertPath rules).lookup host =
      if Tracked transform rules host then
        some ((hostPaths transform rules host).map convertPath)
      else none := by
  induction rules using List.reverseRecOn with
  | nil => simp [collectHostRules, Tracked]
  | append_singleton rules rule ih =>
      have step : (collectHostRules transform convertPath (rules ++ [rule])).lookup host =
          addContribution ((collectHostRules transform convertPath rules).lookup host)
            (hostContribution transform convertPath host rule) := by
        rw [collectHostRules, List.foldl_append]
        exact lookup_addHostRules _ _ _
      rw [step, ih, hostPaths_append]
      cases contributed : hostContribution transform convertPath host rule with
      | none =>
          have same : Tracked transform (rules ++ [rule]) host ↔ Tracked transform rules host := by
            rw [tracked_append convertPath, contributed]
            simp
          have noPaths := paths_of_hostContribution_none contributed
          simp only [same, noPaths, List.append_nil, addContribution]
      | some added =>
          obtain ⟨sameHost, -, rfl⟩ := hostContribution_eq_some_iff.mp contributed
          have tracked : Tracked transform (rules ++ [rule]) host := by
            rw [tracked_append convertPath, contributed]
            simp
          rw [if_pos tracked, if_pos sameHost, addContribution, List.map_append]
          by_cases trackedBefore : Tracked transform rules host
          · rw [if_pos trackedBefore, Option.getD_some]
          · rw [if_neg trackedBefore, hostPaths_of_not_tracked trackedBefore]
            rfl

end Collect

section Signatures

variable {ρ : Type} (signature : List ρ → String) (defaultRule : Option ρ)

/-- The rules of a host with the default rule at their end. -/
def finalRules (rules : List ρ) : List ρ := rules ++ defaultRule.toList

/-- The entries whose rules have the signature. -/
def signatureBucket (entries : List (String × List ρ)) (sig : String) : List (String × List ρ) :=
  entries.filter (fun entry => signature (finalRules defaultRule entry.2) = sig)

variable {signature defaultRule}

theorem lookup_indexSignatures (entries : List (String × List ρ)) (sig : String) :
    (indexSignatures signature defaultRule entries).1.lookup sig =
        (if signatureBucket signature defaultRule entries sig = [] then none
        else some ((signatureBucket signature defaultRule entries sig).map Prod.fst)) ∧
      (indexSignatures signature defaultRule entries).2.lookup sig =
        (signatureBucket signature defaultRule entries sig).getLast?.map
          (fun entry => finalRules defaultRule entry.2) := by
  induction entries using List.reverseRecOn with
  | nil => simp [indexSignatures, signatureBucket]
  | append_singleton entries entry ih =>
      have step : indexSignatures signature defaultRule (entries ++ [entry]) =
          (((indexSignatures signature defaultRule entries).1.insert
              (signature (finalRules defaultRule entry.2))
              (((indexSignatures signature defaultRule entries).1.lookup
                (signature (finalRules defaultRule entry.2))).getD [] ++ [entry.1])),
            (indexSignatures signature defaultRule entries).2.insert
              (signature (finalRules defaultRule entry.2)) (finalRules defaultRule entry.2)) := by
        rw [indexSignatures, List.foldl_append]
        rfl
      have bucket : signatureBucket signature defaultRule (entries ++ [entry]) sig =
          signatureBucket signature defaultRule entries sig ++
            (if signature (finalRules defaultRule entry.2) = sig then [entry] else []) := by
        simp only [signatureBucket, List.filter_append, List.filter_singleton]
        by_cases same : signature (finalRules defaultRule entry.2) = sig <;> simp [same]
      rw [step, bucket]
      by_cases same : signature (finalRules defaultRule entry.2) = sig
      · subst same
        simp only [Finmap.lookup_insert, if_true, ih.1]
        constructor
        · by_cases empty : signatureBucket signature defaultRule entries
              (signature (finalRules defaultRule entry.2)) = []
          · simp [empty]
          · simp [empty]
        · simp
      · rw [Finmap.lookup_insert_of_ne _ (Ne.symm same),
          Finmap.lookup_insert_of_ne _ (Ne.symm same), if_neg same, List.append_nil]
        exact ih

theorem mem_sorted {hosts : List String} {host : String} :
    host ∈ hosts.insertionSort (· ≤ ·) ↔ host ∈ hosts :=
  (List.perm_insertionSort _ hosts).mem_iff

/-- Of the groups of one signature exactly one has a given host. -/
theorem filter_splitNoHost (hosts : List String) (rules : List ρ) (host : String) :
    ((splitNoHost hosts rules).filter (fun group => host ∈ group.hosts)).map HostRuleGroup.rules =
      if host ∈ hosts then [rules] else [] := by
  have ofSorted (sorted : List String) :
      ((if "" ∈ sorted ∧ sorted.filter (· ≠ "") ≠ [] then
          [⟨[""], rules⟩, ⟨sorted.filter (· ≠ ""), rules⟩]
        else [⟨sorted, rules⟩] : List (HostRuleGroup ρ)).filter
          (fun group => host ∈ group.hosts)).map HostRuleGroup.rules =
        if host ∈ sorted then [rules] else [] := by
    split
    · next isSplit =>
        by_cases empty : host = ""
        · simp [empty, isSplit.1]
        · by_cases isMember : host ∈ sorted <;> simp [empty, isMember]
    · by_cases isMember : host ∈ sorted <;> simp [isMember]
  refine (ofSorted (hosts.insertionSort (· ≤ ·))).trans ?_
  simp only [mem_sorted]

/-- No group is without a host, and the empty host is never with another one. -/
theorem hosts_of_mem_splitNoHost {hosts : List String} {rules : List ρ} {group : HostRuleGroup ρ}
    (nonempty : hosts ≠ []) (isGroup : group ∈ splitNoHost hosts rules) :
    group.hosts ≠ [] ∧ ("" ∈ group.hosts → ∀ host ∈ group.hosts, host = "") := by
  simp only [splitNoHost] at isGroup
  split at isGroup
  · next isSplit =>
      rcases List.mem_pair.mp isGroup with rfl | rfl
      · simp
      · refine ⟨isSplit.2, fun isMember => ?_⟩
        simp at isMember
  · next notSplit =>
      cases List.mem_singleton.mp isGroup
      constructor
      · intro empty
        apply nonempty
        have sameLength := (List.perm_insertionSort (· ≤ ·) hosts).length_eq
        rw [show hosts.insertionSort (· ≤ ·) = [] from empty] at sameLength
        exact List.eq_nil_of_length_eq_zero sameLength.symm
      · intro isMember host isHost
        by_contra notEmpty
        refine notSplit ⟨isMember, fun isNil => ?_⟩
        have kept : host ∈ (hosts.insertionSort (· ≤ ·)).filter (· ≠ "") :=
          List.mem_filter.mpr ⟨isHost, by simpa using notEmpty⟩
        rw [isNil] at kept
        cases kept

/-- The hosts of a group: the empty one alone, or all others of the signature. -/
theorem mem_hosts_of_mem_splitNoHost {hosts : List String} {rules : List ρ}
    {group : HostRuleGroup ρ} (isGroup : group ∈ splitNoHost hosts rules) {host : String} :
    host ∈ group.hosts ↔ host ∈ hosts ∧ (host = "" ↔ "" ∈ group.hosts) := by
  simp only [splitNoHost] at isGroup
  split at isGroup
  · next isSplit =>
      have hasEmpty : "" ∈ hosts := mem_sorted.mp isSplit.1
      rcases List.mem_pair.mp isGroup with rfl | rfl
      · simp only [List.mem_singleton, iff_true]
        exact ⟨fun isEmpty => ⟨isEmpty ▸ hasEmpty, isEmpty⟩, And.right⟩
      · simp
  · next notSplit =>
      cases List.mem_singleton.mp isGroup
      simp only [mem_sorted]
      constructor
      · intro isHost
        refine ⟨isHost, fun isEmpty => isEmpty ▸ isHost, fun hasEmpty => ?_⟩
        by_contra notEmpty
        refine notSplit ⟨mem_sorted.mpr hasEmpty, List.ne_nil_of_mem (a := host) ?_⟩
        exact List.mem_filter.mpr ⟨mem_sorted.mpr isHost, by simpa using notEmpty⟩
      · exact And.left

theorem nodup_hosts_of_mem_splitNoHost {hosts : List String} {rules : List ρ}
    {group : HostRuleGroup ρ} (distinct : hosts.Nodup) (isGroup : group ∈ splitNoHost hosts rules) :
    group.hosts.Nodup := by
  have sortedDistinct : (hosts.insertionSort (· ≤ ·)).Nodup :=
    (List.perm_insertionSort _ hosts).nodup_iff.mpr distinct
  simp only [splitNoHost] at isGroup
  split at isGroup
  · rcases List.mem_pair.mp isGroup with rfl | rfl
    · exact List.nodup_singleton _
    · exact sortedDistinct.filter _
  · cases List.mem_singleton.mp isGroup
    exact sortedDistinct

variable {order : GoMap.RangeOrder String} {hostRules : GoMap String (List ρ)}

theorem mem_signatureBucket {sig host : String} {rules : List ρ} :
    (host, rules) ∈ signatureBucket signature defaultRule (hostRules.rangeBy order) sig ↔
      hostRules.lookup host = some rules ∧ signature (finalRules defaultRule rules) = sig := by
  rw [signatureBucket, List.mem_filter, GoMap.mem_rangeBy, decide_eq_true_eq]

theorem ownBucket_ne_nil {host : String} {rules : List ρ}
    (isRules : hostRules.lookup host = some rules) :
    signatureBucket signature defaultRule (hostRules.rangeBy order)
      (signature (finalRules defaultRule rules)) ≠ [] :=
  List.ne_nil_of_mem (mem_signatureBucket.mpr ⟨isRules, rfl⟩)

/-- The rules that serve a host: those stored last under its signature. -/
def servedRules (signature : List ρ → String) (order : GoMap.RangeOrder String)
    (hostRules : GoMap String (List ρ)) (defaultRule : Option ρ) (host : String) :
    Option (List ρ) :=
  (hostRules.lookup host).bind (fun rules =>
    (indexSignatures signature defaultRule (hostRules.rangeBy order)).2.lookup
      (signature (finalRules defaultRule rules)))

/-- The groups of a run: every host is in one group, with the rules that serve it. -/
structure GroupsServe (groups : List (HostRuleGroup ρ)) (served : String → Option (List ρ)) :
    Prop where
  nonempty : ∀ group ∈ groups, group.hosts ≠ []
  alone : ∀ group ∈ groups, "" ∈ group.hosts → ∀ host ∈ group.hosts, host = ""
  serves : ∀ host, (groups.filter (fun group => host ∈ group.hosts)).map HostRuleGroup.rules =
    (served host).toList

theorem hosts_of_signature (entries : List (String × List ρ)) (sig : String) :
    ((indexSignatures signature defaultRule entries).1.lookup sig).getD [] =
      (signatureBucket signature defaultRule entries sig).map Prod.fst := by
  rw [(lookup_indexSignatures _ sig).1]
  split
  · next empty =>
      rw [empty]
      rfl
  · rfl

theorem mem_hosts_of_signature {sig host : String} :
    host ∈ ((indexSignatures signature defaultRule (hostRules.rangeBy order)).1.lookup sig).getD []
      ↔ ∃ rules, hostRules.lookup host = some rules ∧
          signature (finalRules defaultRule rules) = sig := by
  rw [hosts_of_signature]
  simp only [List.mem_map, Prod.exists, mem_signatureBucket, exists_eq_right, exists_and_right]

theorem nodup_hosts_of_signature (sig : String) :
    (((indexSignatures signature defaultRule (hostRules.rangeBy order)).1.lookup sig).getD
      []).Nodup := by
  rw [hosts_of_signature]
  exact (GoMap.nodup_keys_rangeBy hostRules order).sublist (List.filter_sublist.map Prod.fst)

theorem hosts_ne_nil_of_signature {sig : String}
    (isSignature : sig ∈ GoMap.sortedKeys
      (indexSignatures signature defaultRule (hostRules.rangeBy order)).1) :
    ((indexSignatures signature defaultRule (hostRules.rangeBy order)).1.lookup sig).getD [] ≠
      [] := by
  obtain ⟨hosts, isHosts⟩ := (GoMap.mem_sortedKeys _ _).mp isSignature
  rw [(lookup_indexSignatures _ sig).1] at isHosts ⊢
  split at isHosts
  · cases isHosts
  · next nonempty =>
      rw [if_neg nonempty, Option.getD_some]
      simpa using nonempty

theorem isSome_servedRules {host : String} :
    (servedRules signature order hostRules defaultRule host).isSome ↔
      (hostRules.lookup host).isSome := by
  cases isRules : hostRules.lookup host with
  | none => simp [servedRules, isRules]
  | some rules =>
      rw [servedRules, isRules, Option.bind_some, (lookup_indexSignatures _ _).2,
        List.getLast?_eq_some_getLast (ownBucket_ne_nil isRules)]
      rfl

theorem GroupsServe.served_of_mem {groups : List (HostRuleGroup ρ)}
    {served : String → Option (List ρ)} (groupsServe : GroupsServe groups served)
    {group : HostRuleGroup ρ} (isGroup : group ∈ groups) {host : String}
    (isHost : host ∈ group.hosts) : served host = some group.rules := by
  rw [← Option.mem_toList, ← groupsServe.serves host]
  exact List.mem_map_of_mem (List.mem_filter.mpr ⟨isGroup, decide_eq_true isHost⟩)

theorem GroupsServe.exists_mem_iff {groups : List (HostRuleGroup ρ)}
    {served : String → Option (List ρ)} (groupsServe : GroupsServe groups served)
    {host : String} : (∃ group ∈ groups, host ∈ group.hosts) ↔ (served host).isSome := by
  constructor
  · rintro ⟨group, isGroup, isHost⟩
    rw [groupsServe.served_of_mem isGroup isHost]
    rfl
  · intro isServed
    obtain ⟨rules, isRules⟩ := Option.isSome_iff_exists.mp isServed
    have hasGroup := groupsServe.serves host
    rw [isRules, Option.toList_some] at hasGroup
    obtain ⟨group, inFilter, -⟩ := List.mem_map.mp
      (hasGroup ▸ List.mem_singleton_self rules : rules ∈ List.map _ _)
    obtain ⟨isGroup, isHost⟩ := List.mem_filter.mp inFilter
    exact ⟨group, isGroup, of_decide_eq_true isHost⟩

theorem GroupsServe.eq_nil_iff {groups : List (HostRuleGroup ρ)}
    {served : String → Option (List ρ)} (groupsServe : GroupsServe groups served) :
    groups = [] ↔ ∀ host, served host = none := by
  constructor
  · rintro rfl host
    have noRules := groupsServe.serves host
    simpa using noRules.symm
  · intro unserved
    by_contra hasGroups
    obtain ⟨group, isGroup⟩ := List.exists_mem_of_ne_nil groups hasGroups
    obtain ⟨host, isHost⟩ := List.exists_mem_of_ne_nil _ (groupsServe.nonempty group isGroup)
    have isServed := groupsServe.served_of_mem isGroup isHost
    rw [unserved host] at isServed
    cases isServed

theorem groupsServe : GroupsServe (groupHostsByRules signature order hostRules defaultRule)
    (servedRules signature order hostRules defaultRule) where
  nonempty group isGroup := by
    obtain ⟨sig, isSignature, isSplit⟩ := List.mem_flatMap.mp isGroup
    exact (hosts_of_mem_splitNoHost (hosts_ne_nil_of_signature isSignature) isSplit).1
  alone group isGroup := by
    obtain ⟨sig, isSignature, isSplit⟩ := List.mem_flatMap.mp isGroup
    exact (hosts_of_mem_splitNoHost (hosts_ne_nil_of_signature isSignature) isSplit).2
  serves host := by
    simp only [groupHostsByRules, List.filter_flatMap, List.map_flatMap, filter_splitNoHost,
      mem_hosts_of_signature]
    cases isRules : hostRules.lookup host with
    | none => simp [servedRules, isRules]
    | some rules =>
        -- only the signature of the host's own rules has the host
        have nonempty : signatureBucket signature defaultRule (hostRules.rangeBy order)
            (signature (finalRules defaultRule rules)) ≠ [] := ownBucket_ne_nil isRules
        have isSignature : signature (finalRules defaultRule rules) ∈ GoMap.sortedKeys
            (indexSignatures signature defaultRule (hostRules.rangeBy order)).1 := by
          rw [GoMap.mem_sortedKeys, (lookup_indexSignatures _ _).1, if_neg nonempty]
          exact ⟨_, rfl⟩
        simp only [Option.some.injEq, exists_eq_left']
        rw [flatMap_ite_eq (GoMap.nodup_sortedKeys _) isSignature, servedRules, isRules,
          Option.bind_some, (lookup_indexSignatures _ _).2, List.getLast?_eq_some_getLast nonempty]
        rfl

/-- The hosts of a group have one signature, and all hosts of the signature are in the
group but for the empty one, which is alone. -/
theorem hosts_of_mem_groups {group : HostRuleGroup ρ}
    (isGroup : group ∈ groupHostsByRules signature order hostRules defaultRule) :
    group.hosts.Nodup ∧ ∃ sig, ∀ host, host ∈ group.hosts ↔
      (∃ rules, hostRules.lookup host = some rules ∧
        signature (finalRules defaultRule rules) = sig) ∧ (host = "" ↔ "" ∈ group.hosts) := by
  obtain ⟨sig, -, isSplit⟩ := List.mem_flatMap.mp isGroup
  refine ⟨nodup_hosts_of_mem_splitNoHost (nodup_hosts_of_signature sig) isSplit, sig, ?_⟩
  intro host
  rw [mem_hosts_of_mem_splitNoHost isSplit, mem_hosts_of_signature]

/-- The default rule and the host's own rules serve it unless another host's rules have
the same signature. -/
theorem servedRules_of_separated {host : String} {rules : List ρ}
    (isRules : hostRules.lookup host = some rules)
    (separated : ∀ other rules', hostRules.lookup other = some rules' →
      signature (finalRules defaultRule rules') = signature (finalRules defaultRule rules) →
        finalRules defaultRule rules' = finalRules defaultRule rules) :
    servedRules signature order hostRules defaultRule host =
      some (finalRules defaultRule rules) := by
  have nonempty : signatureBucket signature defaultRule (hostRules.rangeBy order)
      (signature (finalRules defaultRule rules)) ≠ [] := ownBucket_ne_nil isRules
  rw [servedRules, isRules, Option.bind_some, (lookup_indexSignatures _ _).2,
    List.getLast?_eq_some_getLast nonempty, Option.map_some]
  obtain ⟨isOther, sameSignature⟩ := mem_signatureBucket.mp (List.getLast_mem nonempty)
  rw [separated _ _ isOther sameSignature]

/-! ## Routes of groups -/

def routeHosts (hostnames : List String) : List String :=
  if hostnames = [] then [""] else hostnames

theorem mem_routeHosts_group {group : HostRuleGroup ρ} (nonempty : group.hosts ≠ [])
    (alone : "" ∈ group.hosts → ∀ host ∈ group.hosts, host = "") {host : String} :
    host ∈ routeHosts (if group.hosts.head? = some "" then [] else group.hosts) ↔
      host ∈ group.hosts := by
  split
  · next isEmpty =>
      have isMember := List.mem_of_head? isEmpty
      simp only [routeHosts, if_true, List.mem_singleton]
      exact ⟨fun same => same ▸ isMember, alone isMember host⟩
  · rw [routeHosts, if_neg nonempty]

variable (defaultRule) in
theorem filter_routesOfGroups {groups : List (HostRuleGroup ρ)}
    {served : String → Option (List ρ)} (groupsServe : GroupsServe groups served)
    (hasGroups : groups ≠ []) (ingressName : String) (host : String) :
    ((routesOfGroups ingressName groups defaultRule).filter
        (fun route => host ∈ routeHosts route.2.1)).map (fun route => route.2.2) =
      (served host).toList := by
  have grouped : routesOfGroups ingressName groups defaultRule =
      groups.zipIdx.map (fun entry =>
        (generateRouteName ingressName entry.2 groups.length,
          if entry.1.hosts.head? = some "" then [] else entry.1.hosts, entry.1.rules)) := by
    unfold routesOfGroups
    cases groups with
    | nil => exact absurd rfl hasGroups
    | cons group groups => rfl
  rw [← groupsServe.serves host, grouped, List.filter_map, List.map_map]
  conv_rhs => rw [← List.zipIdx_map_fst 0 groups, List.filter_map, List.map_map]
  refine congrArg _ (List.filter_congr (fun entry isEntry => ?_))
  have isGroup : entry.1 ∈ groups := by
    have mapped := List.mem_map_of_mem (f := Prod.fst) isEntry
    rwa [List.zipIdx_map_fst] at mapped
  simp only [Function.comp, decide_eq_decide]
  exact mem_routeHosts_group (groupsServe.nonempty _ isGroup) (groupsServe.alone _ isGroup)

/-- A property of all routes, by groups. -/
theorem forall_routesOfGroups_iff {groups : List (HostRuleGroup ρ)} {ingressName : String}
    (P : List String → List ρ → Prop) :
    (∀ route ∈ routesOfGroups ingressName groups defaultRule, P route.2.1 route.2.2) ↔
      (∀ group ∈ groups,
        P (if group.hosts.head? = some "" then [] else group.hosts) group.rules) ∧
        (groups = [] → ∀ rule, defaultRule = some rule → P [] [rule]) := by
  have grouped : (∀ route ∈ groups.zipIdx.map (fun entry =>
      (generateRouteName ingressName entry.2 groups.length,
        if entry.1.hosts.head? = some "" then [] else entry.1.hosts, entry.1.rules)),
        P route.2.1 route.2.2) ↔
      ∀ group ∈ groups, P (if group.hosts.head? = some "" then [] else group.hosts)
        group.rules := by
    conv_rhs => rw [← List.zipIdx_map_fst 0 groups]
    simp only [List.forall_mem_map]
  unfold routesOfGroups
  cases groups with
  | cons group groups => simpa using grouped
  | nil => cases defaultRule <;> simp

end Signatures

/-! ## Rules of converted routes -/

section Rules

variable {ρ : Type} {signature : List ρ → String} {order : GoMap.RangeOrder String}
  {transform : String → String} {convertPath : HTTPIngressPath → ρ} {rules : List IngressRule}
  {defaultRule : Option ρ}

variable (transform rules) in
def hostsWithRules : List String :=
  (rules.map (fun rule => transform rule.host)).filter (fun host => Tracked transform rules host)

variable (transform rules) in
theorem mem_hostsWithRules {host : String} :
    host ∈ hostsWithRules transform rules ↔ Tracked transform rules host := by
  rw [hostsWithRules, List.mem_filter, decide_eq_true_eq, and_iff_right_iff_imp]
  rintro ⟨rule, isRule, isHost, -⟩
  exact List.mem_map.mpr ⟨rule, isRule, isHost⟩

/-- No two rule lists of the hosts have one signature. -/
def SignaturesTell (signature : List ρ → String) (hostRules : GoMap String (List ρ))
    (defaultRule : Option ρ) : Prop :=
  ∀ host rules other otherRules,
    hostRules.lookup host = some rules → hostRules.lookup other = some otherRules →
      signature (finalRules defaultRule rules) = signature (finalRules defaultRule otherRules) →
        rules = otherRules

/-- Without a collision a host is served by its own rules. -/
theorem servedRules_of_tells {hostRules : GoMap String (List ρ)}
    (tells : SignaturesTell signature hostRules defaultRule) {host : String} {own : List ρ}
    (isOwn : hostRules.lookup host = some own) :
    servedRules signature order hostRules defaultRule host = some (finalRules defaultRule own) := by
  refine servedRules_of_separated isOwn ?_
  intro other otherRules isOther sameSignature
  rw [tells other otherRules host own isOther isOwn sameSignature]

/-- The rules of a group are those of one of the Ingress's hosts, which it serves. -/
theorem rules_of_mem_groups {group : HostRuleGroup ρ}
    (isGroup : group ∈ groupHostsByRules signature order
      (collectHostRules transform convertPath rules) defaultRule) :
    ∃ host, Tracked transform rules host ∧
      servedRules signature order (collectHostRules transform convertPath rules) defaultRule host =
        some group.rules ∧
      group.rules = finalRules defaultRule ((hostPaths transform rules host).map convertPath) := by
  have serve : GroupsServe (groupHostsByRules signature order
      (collectHostRules transform convertPath rules) defaultRule)
      (servedRules signature order (collectHostRules transform convertPath rules) defaultRule) :=
    groupsServe
  obtain ⟨host, isHost⟩ := List.exists_mem_of_ne_nil _ (serve.nonempty group isGroup)
  have isServed := serve.served_of_mem isGroup isHost
  rw [servedRules, Option.bind_eq_some_iff] at isServed
  obtain ⟨own, -, isStored⟩ := isServed
  have isLast := isStored
  rw [(lookup_indexSignatures _ _).2, Option.map_eq_some_iff] at isLast
  obtain ⟨⟨last, lastRules⟩, isLast, isRules⟩ := isLast
  -- the host whose rules were stored last under the signature
  obtain ⟨isEntry, sameSignature⟩ := mem_signatureBucket.mp (List.mem_of_getLast? isLast)
  have lastServed : servedRules signature order (collectHostRules transform convertPath rules)
      defaultRule last = some group.rules := by
    rw [servedRules, isEntry, Option.bind_some, sameSignature, isStored]
  rw [lookup_collectHostRules] at isEntry
  split at isEntry
  · next tracked =>
      cases isEntry
      exact ⟨last, tracked, lastServed, isRules.symm⟩
  · cases isEntry

theorem routesOfGroups_eq_nil_iff {groups : List (HostRuleGroup ρ)} {ingressName : String} :
    routesOfGroups ingressName groups defaultRule = [] ↔ groups = [] ∧ defaultRule = none := by
  cases groups <;> cases defaultRule <;> simp [routesOfGroups]

theorem groups_eq_nil_iff :
    groupHostsByRules signature order (collectHostRules transform convertPath rules) defaultRule =
      [] ↔ ∀ host, ¬ Tracked transform rules host := by
  rw [GroupsServe.eq_nil_iff groupsServe]
  refine forall_congr' (fun host => ?_)
  rw [← Option.not_isSome_iff_eq_none, isSome_servedRules, lookup_collectHostRules]
  split <;> simp_all

end Rules

/-! ## Rules of an Ingress -/

section Inputs

variable (surroundings : Surroundings) (input : Input)

def Input.transformHost (host : String) : String :=
  transformHostname host input.domainReplace input.domainSuffix

def Input.hasDefaultService : Bool :=
  (input.ingress.spec.defaultBackend.bind IngressBackend.service).isSome

def grpcPathRule (path : HTTPIngressPath) : GRPCRouteRule :=
  (convertPathToGRPCRule surroundings.text input.ingress.metadata.ns input.services path).1

def defaultGRPCRule : Option GRPCRouteRule :=
  (input.ingress.spec.defaultBackend.map (fun backend => convertDefaultBackendToGRPCRule
    surroundings.text input.ingress.metadata.ns input.services backend)).bind Prod.fst

variable {surroundings input}

theorem isSome_convertDefaultReference (φ : Type) (text : GoText) (texts : PortWarnings)
    (backend : IngressBackend) (ns : String)
    (services : Option (GoMap Controllers.ObjectKey Service)) :
    (convertDefaultReference φ text texts backend ns services).1.isSome =
      backend.service.isSome := by
  unfold convertDefaultReference
  cases backend.service <;> cases backend.resource <;> rfl

theorem isSome_defaultHTTPRule (filters : List HTTPRouteFilter) :
    (defaultHTTPRule surroundings input filters).isSome = input.hasDefaultService := by
  unfold defaultHTTPRule Input.hasDefaultService
  cases input.ingress.spec.defaultBackend with
  | none => rfl
  | some backend =>
      simp only [Option.bind_some, Option.isSome_map, convertDefaultBackendWithServices,
        isSome_convertDefaultReference]

theorem isSome_defaultGRPCRule :
    (defaultGRPCRule surroundings input).isSome = input.hasDefaultService := by
  unfold defaultGRPCRule Input.hasDefaultService
  cases input.ingress.spec.defaultBackend with
  | none => rfl
  | some backend =>
      simp only [Option.map_some, Option.bind_some, convertDefaultBackendToGRPCRule,
        Option.isSome_map, isSome_convertDefaultReference]

end Inputs

end KubeLB.Conversion
