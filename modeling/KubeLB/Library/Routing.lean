import Mathlib.Data.List.MinMax
import Mathlib.Data.List.Basic
import Mathlib.Order.WithBot

/-!
Contract: the choice of an answer for a request by host and path.

Owns: host patterns with wildcards, path patterns, the most specific of several host
patterns, the best of several path rules, and tables of rules under hosts. The front
that a wildcard stands for is judged by a parameter, and so are regular expressions.

Does not own: which answers there are.
-/

set_option autoImplicit false

namespace KubeLB.Library

/-! ## Hosts -/

def wildcardDomain (pattern : String) : Option (List Char) :=
  match pattern.toList with
  | '*' :: '.' :: domain => some domain
  | _ => none

def frontOf (domain host : List Char) : Option (List Char) :=
  if '.' :: domain <:+ host then some (host.take (host.length - (domain.length + 1))) else none

/-- The empty pattern matches every host. -/
def hostMatches (admits : List Char → Bool) (pattern host : String) : Bool :=
  if pattern = "" then true
  else
    match wildcardDomain pattern with
    | some domain => (frontOf domain host.toList).any admits
    | none => decide (pattern = host)

/-- A precise host before a longer domain before a shorter one. -/
def hostRank (pattern : String) : WithTop ℕ :=
  if pattern = "" then WithTop.some 0
  else
    match wildcardDomain pattern with
    | some domain => WithTop.some (domain.length + 1)
    | none => ⊤

theorem pattern_of_wildcardDomain {pattern : String} {domain : List Char}
    (isWildcard : wildcardDomain pattern = some domain) :
    pattern.toList = '*' :: '.' :: domain := by
  unfold wildcardDomain at isWildcard
  split at isWildcard
  · next isList =>
      cases isWildcard
      exact isList
  · cases isWildcard

theorem frontOf_eq_some {domain host front : List Char}
    (isFront : frontOf domain host = some front) :
    host = front ++ '.' :: domain := by
  unfold frontOf at isFront
  split at isFront
  · next isSuffix =>
      cases isFront
      obtain ⟨rest, rfl⟩ := isSuffix
      simp
  · cases isFront

theorem frontOf_append (front domain : List Char) :
    frontOf domain (front ++ '.' :: domain) = some front := by
  unfold frontOf
  rw [if_pos (List.suffix_append _ _)]
  simp

theorem ne_empty_of_wildcardDomain {pattern : String} {domain : List Char}
    (isWildcard : wildcardDomain pattern = some domain) : pattern ≠ "" := by
  rintro rfl
  cases isWildcard

section Matches

variable {admits : List Char → Bool} {pattern host : String}

theorem hostMatches_wildcard {domain : List Char}
    (isWildcard : wildcardDomain pattern = some domain) :
    hostMatches admits pattern host ↔
      ∃ front, host.toList = front ++ '.' :: domain ∧ admits front := by
  rw [hostMatches, if_neg (ne_empty_of_wildcardDomain isWildcard), isWildcard]
  simp only [Option.any_eq_true]
  constructor
  · rintro ⟨front, isFront, admitted⟩
    exact ⟨front, frontOf_eq_some isFront, admitted⟩
  · rintro ⟨front, isHost, admitted⟩
    rw [isHost, frontOf_append]
    exact ⟨front, rfl, admitted⟩

theorem hostMatches_precise (nonempty : pattern ≠ "") (isPrecise : wildcardDomain pattern = none) :
    hostMatches admits pattern host ↔ pattern = host := by
  rw [hostMatches, if_neg nonempty, isPrecise]
  exact decide_eq_true_iff

theorem hostRank_wildcard {domain : List Char} (isWildcard : wildcardDomain pattern = some domain) :
    hostRank pattern = WithTop.some (domain.length + 1) := by
  rw [hostRank, if_neg (ne_empty_of_wildcardDomain isWildcard), isWildcard]

theorem hostRank_precise (nonempty : pattern ≠ "") (isPrecise : wildcardDomain pattern = none) :
    hostRank pattern = ⊤ := by
  rw [hostRank, if_neg nonempty, isPrecise]

theorem eq_empty_of_hostRank (isZero : hostRank pattern = WithTop.some 0) : pattern = "" := by
  by_contra nonempty
  cases isWildcard : wildcardDomain pattern with
  | some domain =>
      rw [hostRank_wildcard isWildcard] at isZero
      exact absurd (WithTop.coe_inj.mp isZero) (Nat.succ_ne_zero _)
  | none =>
      rw [hostRank_precise nonempty isWildcard] at isZero
      cases isZero

/-- Two patterns of one rank that match one host are the same. -/
theorem eq_of_hostRank_eq {pattern' : String} (isMatch : hostMatches admits pattern host)
    (isMatch' : hostMatches admits pattern' host)
    (sameRank : hostRank pattern = hostRank pattern') : pattern = pattern' := by
  by_cases empty : pattern = ""
  · rw [empty] at sameRank ⊢
    exact (eq_empty_of_hostRank sameRank.symm).symm
  by_cases empty' : pattern' = ""
  · rw [empty'] at sameRank ⊢
    exact eq_empty_of_hostRank sameRank
  cases isWildcard : wildcardDomain pattern with
  | none =>
      cases isWildcard' : wildcardDomain pattern' with
      | none =>
          rw [(hostMatches_precise empty isWildcard).mp isMatch,
            (hostMatches_precise empty' isWildcard').mp isMatch']
      | some domain' =>
          rw [hostRank_precise empty isWildcard, hostRank_wildcard isWildcard'] at sameRank
          cases sameRank
  | some domain =>
      cases isWildcard' : wildcardDomain pattern' with
      | none =>
          rw [hostRank_precise empty' isWildcard', hostRank_wildcard isWildcard] at sameRank
          cases sameRank
      | some domain' =>
          rw [hostRank_wildcard isWildcard, hostRank_wildcard isWildcard'] at sameRank
          have sameLength : domain.length + 1 = domain'.length + 1 := WithTop.coe_inj.mp sameRank
          obtain ⟨front, isHost, -⟩ := (hostMatches_wildcard isWildcard).mp isMatch
          obtain ⟨front', isHost', -⟩ := (hostMatches_wildcard isWildcard').mp isMatch'
          have sameDomain := (List.append_inj' (isHost.symm.trans isHost') sameLength).2
          apply String.toList_inj.mp
          rw [pattern_of_wildcardDomain isWildcard, pattern_of_wildcardDomain isWildcard',
            (List.cons.inj sameDomain).2]

end Matches

/-- The most specific of the patterns that match. -/
def mostSpecific (admits : List Char → Bool) (patterns : List String) (host : String) :
    Option String :=
  (patterns.filter (fun pattern => hostMatches admits pattern host)).argmax hostRank

section MostSpecific

variable {admits admits' : List Char → Bool} {patterns patterns' : List String}
  {host pattern : String}

theorem mostSpecific_eq_some_iff :
    mostSpecific admits patterns host = some pattern ↔
      pattern ∈ patterns ∧ hostMatches admits pattern host ∧
        ∀ other ∈ patterns, hostMatches admits other host → hostRank other ≤ hostRank pattern := by
  unfold mostSpecific
  constructor
  · intro isChosen
    obtain ⟨isMember, isMatch⟩ := List.mem_filter.mp (List.argmax_mem isChosen)
    refine ⟨isMember, isMatch, fun other isOther otherMatch => ?_⟩
    exact List.le_of_mem_argmax (List.mem_filter.mpr ⟨isOther, otherMatch⟩) isChosen
  · rintro ⟨isMember, isMatch, isGreatest⟩
    have candidate : pattern ∈ patterns.filter (fun pattern => hostMatches admits pattern host) :=
      List.mem_filter.mpr ⟨isMember, isMatch⟩
    cases isChosen : (patterns.filter (fun pattern => hostMatches admits pattern host)).argmax
        hostRank with
    | none =>
        rw [List.argmax_eq_none.mp isChosen] at candidate
        cases candidate
    | some chosen =>
        obtain ⟨isChosenMember, chosenMatch⟩ := List.mem_filter.mp (List.argmax_mem isChosen)
        have sameRank := le_antisymm (isGreatest chosen isChosenMember chosenMatch)
          (List.le_of_mem_argmax candidate isChosen)
        rw [eq_of_hostRank_eq chosenMatch isMatch sameRank]

theorem mostSpecific_eq_none_iff :
    mostSpecific admits patterns host = none ↔
      ∀ pattern ∈ patterns, ¬ hostMatches admits pattern host := by
  rw [mostSpecific, List.argmax_eq_none, List.filter_eq_nil_iff]

/-- Neither order nor repetition of the patterns counts, and only how they match. -/
theorem mostSpecific_congr (sameMembers : ∀ pattern, pattern ∈ patterns ↔ pattern ∈ patterns')
    (sameMatches : ∀ pattern ∈ patterns,
      hostMatches admits pattern host = hostMatches admits' pattern host) :
    mostSpecific admits patterns host = mostSpecific admits' patterns' host := by
  ext pattern
  rw [mostSpecific_eq_some_iff, mostSpecific_eq_some_iff, ← sameMembers]
  apply and_congr_right
  intro isMember
  rw [sameMatches pattern isMember]
  apply and_congr_right
  intro _
  refine forall_congr' (fun other => ?_)
  rw [← sameMembers]
  exact forall_congr' (fun isOther => by rw [sameMatches other isOther])

end MostSpecific

/-! ## Paths -/

inductive PathPattern where
  | exact (path : String)
  | pathPrefix (path : String)
  | regularExpression (expression : String)
  deriving DecidableEq, Repr

structure Expressions where
  accepts : String → String → Bool
  rank : String → WithTop ℕ

/-- The elements of a path between its slashes. -/
def pathElements (path : List Char) : List (List Char) := path.splitOn '/'

def trimTrailingSlash (path : List Char) : List Char :=
  if path.getLast? = some '/' then path.dropLast else path

/-- A prefix matches element by element. -/
def PathPattern.accepts (expressions : Expressions) : PathPattern → String → Bool
  | .exact value, path => decide (value = path)
  | .pathPrefix value, path =>
      (pathElements (trimTrailingSlash value.toList)).isPrefixOf (pathElements path.toList)
  | .regularExpression expression, path => expressions.accepts expression path

/-- An exact path before a longer prefix before a shorter one. -/
def PathPattern.rank (expressions : Expressions) : PathPattern → WithTop ℕ
  | .exact _ => ⊤
  | .pathPrefix value => WithTop.some value.length
  | .regularExpression expression => expressions.rank expression

/-- An answer for the requests that a path pattern accepts. -/
structure PathRule (α : Type*) where
  pattern : PathPattern
  answer : α

section Paths

variable {α β : Type*} (expressions : Expressions)

/-- The answer of the best rule, the first of several equal ones. -/
def choosePath (rules : List (PathRule α)) (path : String) : Option α :=
  ((rules.filter (fun rule => rule.pattern.accepts expressions path)).argmax
    (fun rule => rule.pattern.rank expressions)).map PathRule.answer

def rootRule (answer : α) : PathRule α := ⟨.pathPrefix "/", answer⟩

variable {expressions}

theorem rootRule_accepts {answer : α} {path : String} (absolute : path.toList.head? = some '/') :
    (rootRule answer).pattern.accepts expressions path = true := by
  obtain ⟨rest, isPath⟩ : ∃ rest, path.toList = [] ++ '/' :: rest := by
    cases chars : path.toList with
    | nil =>
        rw [chars] at absolute
        cases absolute
    | cons first rest =>
        rw [chars] at absolute
        cases absolute
        exact ⟨rest, rfl⟩
  have isRoot : pathElements (trimTrailingSlash "/".toList) = [[]] := by decide
  rw [rootRule, PathPattern.accepts, isRoot, isPath, pathElements,
    List.splitOn_append_cons_self, List.splitOn_nil]
  rfl

/-- A root rule at the end answers what no other rule does. -/
theorem choosePath_append_rootRule {rules : List (PathRule α)} {answer : α} {path : String}
    (absolute : path.toList.head? = some '/')
    (nonempty : ∀ rule ∈ rules, WithTop.some 1 ≤ rule.pattern.rank expressions) :
    choosePath expressions (rules ++ [rootRule answer]) path =
      (choosePath expressions rules path).or (some answer) := by
  have accepted : [rootRule answer].filter (fun rule => rule.pattern.accepts expressions path) =
      [rootRule answer] := by
    rw [List.filter_singleton, rootRule_accepts absolute]
    rfl
  simp only [choosePath, List.filter_append, accepted]
  rw [List.argmax_concat]
  cases isBest : (rules.filter (fun rule => rule.pattern.accepts expressions path)).argmax
      (fun rule => rule.pattern.rank expressions) with
  | none => rfl
  | some best =>
      -- the root rule ranks lowest, and of equal rules the first counts
      have isRule := (List.mem_filter.mp (List.argmax_mem isBest)).1
      have notBelow : ¬ best.pattern.rank expressions <
          (rootRule answer).pattern.rank expressions := not_lt.mpr (nonempty best isRule)
      simp only [if_neg notBelow]
      rfl

/-- Of rules that accept every path the first answers. -/
theorem choosePath_map_rootRule {path : String} (absolute : path.toList.head? = some '/')
    (answers : List α) :
    choosePath expressions (answers.map rootRule) path = answers.head? := by
  have accepted : (answers.map rootRule).filter
      (fun rule => rule.pattern.accepts expressions path) = answers.map rootRule := by
    refine List.filter_eq_self.mpr (List.forall_mem_map.mpr (fun answer _ => ?_))
    exact rootRule_accepts absolute
  rw [choosePath, accepted]
  cases answers with
  | nil => rfl
  | cons answer answers =>
      rw [List.map_cons, List.argmax_cons]
      cases isBest : (answers.map rootRule).argmax
          (fun rule => rule.pattern.rank expressions) with
      | none => rfl
      | some best =>
          -- all of them have one rank
          obtain ⟨other, -, rfl⟩ := List.mem_map.mp (List.argmax_mem isBest)
          simp only [rootRule, lt_irrefl, if_false]
          rfl

end Paths

/-! ## Tables -/

structure HostTable (α : Type*) where
  hosts : List String
  rules : List (PathRule α)

section Tables

variable {α : Type*} (expressions : Expressions) (admits : List Char → Bool)

/-- The rules of all tables with the pattern. -/
def rulesAt (tables : List (HostTable α)) (pattern : String) : List (PathRule α) :=
  (tables.filter (fun table => pattern ∈ table.hosts)).flatMap HostTable.rules

/-- The most specific pattern decides; what its rules do not answer has no answer. -/
def routeRequest (tables : List (HostTable α)) (host path : String) : Option α :=
  (mostSpecific admits (tables.flatMap HostTable.hosts) host).bind
    (fun pattern => choosePath expressions (rulesAt tables pattern) path)

variable {expressions admits}

theorem routeRequest_everyHost (rules : List (PathRule α)) (host path : String) :
    routeRequest expressions admits [⟨[""], rules⟩] host path =
      choosePath expressions rules path := by
  have isChosen : mostSpecific admits [""] host = some "" := by
    rw [mostSpecific_eq_some_iff]
    simp [hostMatches]
  have isRules : rulesAt [(⟨[""], rules⟩ : HostTable α)] "" = rules := by
    simp [rulesAt]
  simp only [routeRequest, List.flatMap_singleton, isChosen, Option.bind_some, isRules]

end Tables

end KubeLB.Library
