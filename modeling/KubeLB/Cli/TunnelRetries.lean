import KubeLB.Cli.TunnelEvents
import KubeLB.Library.Separators
import Mathlib.Data.List.Infix

/-!
Contract: how long a tunnel client keeps connecting.

Owns: one connection with its error, `isNonRecoverableError`, the loop of
`EstablishTunnel` over its attempts, the reasons for which it may end, and the outcomes
of connections for which it ends for no other reason.

Does not own: the delay before an attempt, which only takes time.
-/

set_option autoImplicit false

namespace KubeLB.Cli.Tunnel

open KubeLB.Library

/-! ## One connection -/

/-- `strings.Contains`. -/
def containsText (text searched : GoString) : Bool := decide (searched <:+: text)

/-- What happens to the request of an attempt. -/
inductive Connection where
  /-- The request could not be made, or has characters that no header may have. -/
  | unsent (error : GoString)
  /-- The request failed; the flag tells if the context was cancelled. -/
  | unanswered (error : GoString) (cancelled : Bool)
  | refused (status : Nat) (body : GoString)
  | connected (stream : EventStream)

/-- An error, and whether it wraps `context.Canceled`. -/
structure ConnectionError where
  text : GoString
  isCancelled : Bool := false
  deriving DecidableEq, Repr

/-- The error of `handleSSEEvents`. -/
def StreamEnd.error : StreamEnd → ConnectionError
  | serverError data => { text := GoString.ofText "server error: " ++ data }
  | interrupted .cancelled => { text := GoString.ofText "context canceled", isCancelled := true }
  | interrupted .shutdown => { text := GoString.ofText "client shutdown" }
  | readError error => { text := GoString.ofText "error reading SSE stream: " ++ error }
  | unexpected => { text := GoString.ofText "SSE stream ended unexpectedly" }

/-- `establishSingleConnection`. -/
def Connection.error : Connection → ConnectionError
  | unsent error => { text := error }
  | unanswered error cancelled =>
      { text := GoString.ofText "failed to connect to tunnel server: " ++ error
        isCancelled := cancelled }
  | refused status body =>
      { text := GoString.ofText "tunnel connection failed: " ++ body ++
          GoString.ofText (" (status: " ++ toString status ++ ")") }
  | connected stream => (handleSSEEvents stream).2.error

def isNonRecoverableError (text : GoString) : Bool :=
  containsText text (GoString.ofText "401") || containsText text (GoString.ofText "403") ||
    containsText text (GoString.ofText "invalid token") ||
    containsText text (GoString.ofText "authentication failed")

/-! ## Attempts -/

structure Attempt where
  connection : Connection
  /-- What the check before the attempt sees. -/
  before : Option Interrupt := none
  /-- What ends the delay, which the first attempt does not have. -/
  delayed : Option Interrupt := none
  /-- Who has ended the client when the connection is over. -/
  after : Option Interrupt := none

inductive TunnelEnd where
  | interrupted (interrupt : Interrupt)
  | nonRecoverable (error : GoString)
  | exhausted
  deriving DecidableEq, Repr

/-- The checks of `EstablishTunnel` after a connection is over; `none` if it goes on. -/
def errorEnd (error : ConnectionError) (after : Option Interrupt) : Option TunnelEnd :=
  if error.isCancelled then some (.interrupted .cancelled)
  else if (containsText error.text (GoString.ofText "response body closed") ||
      containsText error.text (GoString.ofText "http2: response body closed")) &&
      decide (after = some .cancelled) then some (.interrupted .cancelled)
  else if isNonRecoverableError error.text then some (.nonRecoverable error.text)
  else none

/-- The body of the loop of `EstablishTunnel`; `none` if it goes on. -/
def attemptEnd (isFirst : Bool) (attempt : Attempt) : Option TunnelEnd :=
  match attempt.before, (if isFirst then none else attempt.delayed) with
  | some interrupt, _ => some (.interrupted interrupt)
  | none, some interrupt => some (.interrupted interrupt)
  | none, none => errorEnd attempt.connection.error attempt.after

def maxRetries : Nat := 10

/-- The loop of `EstablishTunnel` with the attempts that are left: how it ends, and at
which attempt. -/
def establishFrom (attempts : Nat → Attempt) : Nat → Nat → TunnelEnd × Nat
  | 0, attempt => (.exhausted, attempt)
  | left + 1, attempt =>
      match attemptEnd (decide (attempt = 0)) (attempts attempt) with
      | some stop => (stop, attempt)
      | none => establishFrom attempts left (attempt + 1)

def establishTunnel (attempts : Nat → Attempt) : TunnelEnd × Nat :=
  establishFrom attempts maxRetries 0

/-! ## Reasons to stop -/

/-- The server answered with the status 401 or 403. -/
def Connection.isDenied : Connection → Bool
  | refused status _ => decide (status = 401 ∨ status = 403)
  | _ => false

def Connection.isConnected : Connection → Bool
  | connected _ => true
  | _ => false

def Connection.isInterrupted : Connection → Bool
  | unanswered _ cancelled => cancelled
  | connected stream =>
      match (handleSSEEvents stream).2 with
      | .interrupted _ => true
      | _ => false
  | _ => false

def Attempt.isInterrupted (attempt : Attempt) : Bool :=
  attempt.connection.isInterrupted || attempt.after.isSome

/-- The client was ended from outside or denied, or none of ten attempts was ever
connected. The loop does not always notice at once that the client was ended. -/
def StopsRightly (attempts : Nat → Attempt) : Prop :=
  match establishTunnel attempts with
  | (.interrupted _, _) => True
  | (.nonRecoverable _, last) =>
      (attempts last).connection.isDenied = true ∨
        ∃ attempt ≤ last, (attempts attempt).isInterrupted = true
  | (.exhausted, _) =>
      (∀ attempt < maxRetries, (attempts attempt).connection.isConnected = false) ∨
        ∃ attempt < maxRetries, (attempts attempt).isInterrupted = true

/-! ## Texts of a denial -/

/-- The texts that `isNonRecoverableError` searches for. -/
def denialTexts : List GoString :=
  ["401", "403", "invalid token", "authentication failed"].map GoString.ofText

def MentionsDenial (text : GoString) : Prop := ∃ denial ∈ denialTexts, denial <:+: text

instance (text : GoString) : Decidable (MentionsDenial text) :=
  inferInstanceAs (Decidable (∃ denial ∈ denialTexts, denial <:+: text))

/-- A text that came with the outcome of the connection mentions a denial: the transport
error, the status or the body of a refusal, the data of the server's error event, or the
error that ended the stream. -/
def Connection.LooksDenied : Connection → Prop
  | unsent error => MentionsDenial error
  | unanswered error _ => MentionsDenial error
  | refused status body =>
      MentionsDenial (GoString.ofText (toString status)) ∨ MentionsDenial body
  | connected stream =>
      match (handleSSEEvents stream).2 with
      | .serverError data => MentionsDenial data
      | .readError error => MentionsDenial error
      | _ => False

theorem isNonRecoverableError_iff (text : GoString) :
    isNonRecoverableError text = true ↔ MentionsDenial text := by
  simp [isNonRecoverableError, containsText, MentionsDenial, denialTexts, or_assoc]

/-- No denial text runs over a colon or a bracket. -/
theorem mentionsDenial_append_separator_iff {separator : UInt8}
    (isSeparator : separator = 40 ∨ separator = 41 ∨ separator = 58) (before after : GoString) :
    MentionsDenial (before ++ separator :: after) ↔
      MentionsDenial before ∨ MentionsDenial after := by
  have lacking : ∀ denial ∈ denialTexts, separator ∉ denial := by
    rcases isSeparator with rfl | rfl | rfl <;> decide +kernel
  simp only [MentionsDenial, ← exists_or, ← and_or_left]
  refine exists_congr fun denial => and_congr_right fun isDenial => ?_
  exact infix_append_separator_iff (lacking denial isDenial)

theorem mentionsDenial_blank_cons (text : GoString) :
    MentionsDenial (32 :: text) ↔ MentionsDenial text := by
  have heads : ∀ denial ∈ denialTexts, denial ≠ [] ∧ denial.head? ≠ some 32 := by decide +kernel
  refine exists_congr fun denial => and_congr_right fun isDenial => ?_
  rw [List.infix_cons_iff, List.prefix_cons_iff, or_iff_right]
  rintro (empty | ⟨rest, rfl, -⟩)
  · exact (heads denial isDenial).1 empty
  · exact (heads _ isDenial).2 rfl

theorem mentionsDenial_concat_blank (text : GoString) :
    MentionsDenial (text ++ [32]) ↔ MentionsDenial text := by
  have lasts : ∀ denial ∈ denialTexts, denial ≠ [] ∧ denial.getLast? ≠ some 32 := by
    decide +kernel
  refine exists_congr fun denial => and_congr_right fun isDenial => ?_
  rw [List.infix_concat_iff, List.suffix_concat_iff, or_iff_right]
  rintro (empty | ⟨rest, rfl, -⟩)
  · exact (lasts denial isDenial).1 empty
  · exact (lasts _ isDenial).2 List.getLast?_concat

/-- What the client writes in front of a text mentions no denial of its own. -/
theorem mentionsDenial_labelled {label : GoString} (plain : ¬ MentionsDenial label)
    (text : GoString) : MentionsDenial (label ++ 58 :: 32 :: text) ↔ MentionsDenial text := by
  rw [mentionsDenial_append_separator_iff (by simp), mentionsDenial_blank_cons,
    or_iff_right plain]

theorem mentionsDenial_refusal (status : Nat) (body : GoString) :
    MentionsDenial (Connection.refused status body).error.text ↔
      (Connection.refused status body).LooksDenied := by
  have text : (Connection.refused status body).error.text =
      GoString.ofText "tunnel connection failed" ++ 58 :: 32 :: ((body ++ [32]) ++
        40 :: ((GoString.ofText "status" ++ 58 :: 32 :: GoString.ofText (toString status)) ++
          41 :: [])) := by
    have opening : GoString.ofText "tunnel connection failed: " =
      GoString.ofText "tunnel connection failed" ++ [58, 32] := by decide +kernel
    have closing : GoString.ofText " (status: " =
      32 :: 40 :: (GoString.ofText "status" ++ [58, 32]) := by decide +kernel
    have last : GoString.ofText ")" = [41] := by decide +kernel
    simp only [Connection.error, GoString.ofText_append, opening, closing, last,
      List.append_assoc, List.cons_append, List.nil_append]
  rw [text, mentionsDenial_labelled (by decide +kernel),
    mentionsDenial_append_separator_iff (by simp), mentionsDenial_concat_blank,
    mentionsDenial_append_separator_iff (by simp), mentionsDenial_labelled (by decide +kernel),
    or_iff_left (by decide +kernel : ¬ MentionsDenial []), or_comm, Connection.LooksDenied]

theorem isCancelled_error_of_undisturbed {connection : Connection}
    (undisturbed : connection.isInterrupted = false) : connection.error.isCancelled = false := by
  cases connection with
  | unsent error => rfl
  | unanswered error cancelled => exact undisturbed
  | refused status body => rfl
  | connected stream =>
      rw [Connection.isInterrupted] at undisturbed
      rw [Connection.error]
      cases ends : (handleSSEEvents stream).2 with
      | interrupted interrupt =>
          rw [ends] at undisturbed
          exact Bool.noConfusion undisturbed
      | serverError data => rfl
      | readError error => rfl
      | unexpected => rfl

/-- The error of a connection that nobody interrupted mentions a denial exactly if its
outcome does. -/
theorem isNonRecoverableError_error_iff {connection : Connection}
    (undisturbed : connection.isInterrupted = false) :
    isNonRecoverableError connection.error.text = true ↔ connection.LooksDenied := by
  rw [isNonRecoverableError_iff]
  cases connection with
  | unsent error => rfl
  | unanswered error cancelled =>
      have label : GoString.ofText "failed to connect to tunnel server: " =
        GoString.ofText "failed to connect to tunnel server" ++ [58, 32] := by decide +kernel
      rw [Connection.error, label, List.append_assoc]
      exact mentionsDenial_labelled (by decide +kernel) error
  | refused status body => exact mentionsDenial_refusal status body
  | connected stream =>
      rw [Connection.isInterrupted] at undisturbed
      rw [Connection.error, Connection.LooksDenied]
      cases ends : (handleSSEEvents stream).2 with
      | serverError data =>
          have label : GoString.ofText "server error: " =
            GoString.ofText "server error" ++ [58, 32] := by decide +kernel
          rw [StreamEnd.error, label, List.append_assoc]
          exact mentionsDenial_labelled (by decide +kernel) data
      | interrupted interrupt =>
          rw [ends] at undisturbed
          exact Bool.noConfusion undisturbed
      | readError error =>
          have label : GoString.ofText "error reading SSE stream: " =
            GoString.ofText "error reading SSE stream" ++ [58, 32] := by decide +kernel
          rw [StreamEnd.error, label, List.append_assoc]
          exact mentionsDenial_labelled (by decide +kernel) error
      | unexpected => exact iff_of_false (by decide +kernel) id

/-! ## Runs that nobody disturbs -/

def Undisturbed (attempts : Nat → Attempt) (attempt : Nat) : Prop :=
  (attempts attempt).before = none ∧ (attempt ≠ 0 → (attempts attempt).delayed = none) ∧
    (attempts attempt).isInterrupted = false

section Loop

variable {attempts : Nat → Attempt}

def GoesOn (attempts : Nat → Attempt) (attempt : Nat) : Prop :=
  attemptEnd (decide (attempt = 0)) (attempts attempt) = none

/-- The attempt at which the loop ends is the first one that does not go on. -/
theorem establishFrom_spec (left attempt : Nat) :
    (∃ stop last, establishFrom attempts left attempt = (stop, last) ∧ last < attempt + left ∧
        attemptEnd (decide (last = 0)) (attempts last) = some stop ∧
        ∀ earlier, attempt ≤ earlier → earlier < last → GoesOn attempts earlier) ∨
      establishFrom attempts left attempt = (.exhausted, attempt + left) ∧
        ∀ later, attempt ≤ later → later < attempt + left → GoesOn attempts later := by
  induction left generalizing attempt with
  | zero => exact Or.inr ⟨rfl, fun later isLater before => absurd isLater (by omega)⟩
  | succ left ih =>
      cases ends : attemptEnd (decide (attempt = 0)) (attempts attempt) with
      | some stop =>
          refine Or.inl ⟨stop, attempt, ?_, by omega, ends, ?_⟩
          · rw [establishFrom, ends]
          · intro earlier isLater isEarlier
            exact absurd isLater (by omega)
      | none =>
          have goesOn (other : Nat) (isLater : attempt ≤ other) (notNext : ¬ attempt + 1 ≤ other) :
              GoesOn attempts other := by
            obtain rfl : other = attempt := by omega
            exact ends
          rw [establishFrom, ends]
          rcases ih (attempt + 1) with
            ⟨stop, last, reached, inRange, isStop, before⟩ | ⟨reached, all⟩
          · refine Or.inl ⟨stop, last, reached, by omega, isStop, ?_⟩
            intro earlier isLater isEarlier
            by_cases isNext : attempt + 1 ≤ earlier
            · exact before earlier isNext isEarlier
            · exact goesOn earlier isLater isNext
          · refine Or.inr ⟨?_, ?_⟩
            · rw [show attempt + (left + 1) = attempt + 1 + left by omega]
              exact reached
            · intro later isLater inRange
              by_cases isNext : attempt + 1 ≤ later
              · exact all later isNext (by omega)
              · exact goesOn later isLater isNext

/-- An attempt of a client that nobody ended goes on unless its outcome looks like a
denial. -/
theorem attemptEnd_of_undisturbed {attempt : Nat} (undisturbed : Undisturbed attempts attempt) :
    attemptEnd (decide (attempt = 0)) (attempts attempt) =
      if isNonRecoverableError (attempts attempt).connection.error.text = true then
        some (.nonRecoverable (attempts attempt).connection.error.text)
      else none := by
  obtain ⟨before, delayed, interrupted⟩ := undisturbed
  rw [Attempt.isInterrupted, Bool.or_eq_false_iff, Option.isSome_eq_false_iff,
    Option.isNone_iff_eq_none] at interrupted
  obtain ⟨notInterrupted, after⟩ := interrupted
  have noDelay : (if decide (attempt = 0) then none else (attempts attempt).delayed) = none := by
    by_cases isFirst : attempt = 0
    · rw [decide_eq_true isFirst, if_pos rfl]
    · rw [decide_eq_false isFirst, if_neg Bool.false_ne_true, delayed isFirst]
  have notCancelled : (attempts attempt).connection.error.isCancelled = false :=
    isCancelled_error_of_undisturbed notInterrupted
  rw [attemptEnd, before, noDelay]
  simp only [errorEnd, notCancelled, after, Bool.false_eq_true, if_false, reduceCtorEq,
    decide_false, Bool.and_false]

theorem goesOn_iff_of_undisturbed {attempt : Nat} (undisturbed : Undisturbed attempts attempt) :
    GoesOn attempts attempt ↔ ¬ (attempts attempt).connection.LooksDenied := by
  have notInterrupted := (Bool.or_eq_false_iff.mp undisturbed.2.2).1
  rw [GoesOn, attemptEnd_of_undisturbed undisturbed,
    ← isNonRecoverableError_error_iff notInterrupted]
  split_ifs with looksDenied <;> simp [looksDenied]

theorem undisturbed_iff_of_attemptEnd {attempt : Nat}
    (notInterrupted : ∀ interrupt, attemptEnd (decide (attempt = 0)) (attempts attempt) ≠
      some (.interrupted interrupt)) :
    Undisturbed attempts attempt ↔ (attempts attempt).isInterrupted = false := by
  refine ⟨fun undisturbed => undisturbed.2.2, fun uninterrupted => ⟨?_, ?_, uninterrupted⟩⟩
  · cases before : (attempts attempt).before with
    | none => rfl
    | some interrupt =>
        exact absurd (by rw [attemptEnd, before]) (notInterrupted interrupt)
  · intro notFirst
    cases before : (attempts attempt).before with
    | some interrupt =>
        exact absurd (by rw [attemptEnd, before]) (notInterrupted interrupt)
    | none =>
        cases delayed : (attempts attempt).delayed with
        | none => rfl
        | some interrupt =>
            refine absurd ?_ (notInterrupted interrupt)
            rw [attemptEnd, before, delayed, decide_eq_false notFirst]
            rfl

theorem attemptEnd_ne_exhausted (isFirst : Bool) (attempt : Attempt) :
    attemptEnd isFirst attempt ≠ some .exhausted := by
  unfold attemptEnd
  split
  · simp
  · simp
  · unfold errorEnd
    split_ifs <;> simp

theorem forall_undisturbed_iff {among : Nat → Prop}
    (notInterrupted : ∀ attempt, among attempt → ∀ interrupt,
      attemptEnd (decide (attempt = 0)) (attempts attempt) ≠ some (.interrupted interrupt)) :
    (∀ attempt, among attempt → Undisturbed attempts attempt) ↔
      ¬ ∃ attempt, among attempt ∧ (attempts attempt).isInterrupted = true := by
  simp only [not_exists, not_and, Bool.not_eq_true]
  exact forall₂_congr fun attempt isAmong =>
    undisturbed_iff_of_attemptEnd (notInterrupted attempt isAmong)

/-- A client that no attempt stops is right to give up if, undisturbed, it was never
connected. -/
theorem stopsRightly_iff_of_exhausted {last : Nat}
    (reached : establishTunnel attempts = (.exhausted, last))
    (goesOn : ∀ attempt < maxRetries, GoesOn attempts attempt) :
    StopsRightly attempts ↔ ((∀ attempt < maxRetries, Undisturbed attempts attempt) →
      ∀ attempt < maxRetries, (attempts attempt).connection.isConnected = false) := by
  have notInterrupted : ∀ attempt < maxRetries, ∀ interrupt,
      attemptEnd (decide (attempt = 0)) (attempts attempt) ≠ some (.interrupted interrupt) := by
    intro attempt inRange interrupt
    rw [goesOn attempt inRange]
    exact (Option.some_ne_none _).symm
  rw [StopsRightly, reached, forall_undisturbed_iff notInterrupted]
  exact or_iff_not_imp_right

section Stopped

variable {last : Nat} {stop : TunnelEnd}
  (isStop : attemptEnd (decide (last = 0)) (attempts last) = some stop)

include isStop

/-- Undisturbed, the client is stopped by the outcome that looks like a denial. -/
theorem looksDenied_of_stopped (undisturbed : Undisturbed attempts last) :
    (attempts last).connection.LooksDenied := by
  by_contra plain
  have goesOn : GoesOn attempts last := (goesOn_iff_of_undisturbed undisturbed).mpr plain
  rw [GoesOn, isStop] at goesOn
  exact Option.some_ne_none stop goesOn

variable (before : ∀ earlier < last, GoesOn attempts earlier)

include before

/-- A client that is stopped is right to stop if, undisturbed, it was denied. -/
theorem stopsRightly_iff_of_stopped (reached : establishTunnel attempts = (stop, last)) :
    StopsRightly attempts ↔ ((∀ attempt ≤ last, Undisturbed attempts attempt) →
      (attempts last).connection.isDenied = true) := by
  rw [StopsRightly, reached]
  cases stop with
  | interrupted interrupt =>
      refine iff_of_true trivial fun undisturbed => ?_
      rw [attemptEnd_of_undisturbed (undisturbed last le_rfl)] at isStop
      split_ifs at isStop
      cases isStop
  | nonRecoverable error =>
      have notInterrupted : ∀ attempt ≤ last, ∀ interrupt,
          attemptEnd (decide (attempt = 0)) (attempts attempt) ≠
            some (.interrupted interrupt) := by
        intro attempt isReached interrupt
        rcases isReached.lt_or_eq with isEarlier | rfl
        · rw [before attempt isEarlier]
          exact (Option.some_ne_none _).symm
        · rw [isStop]
          exact fun same => TunnelEnd.noConfusion (Option.some.inj same)
      rw [forall_undisturbed_iff notInterrupted]
      exact or_iff_not_imp_right
  | exhausted => exact absurd isStop (attemptEnd_ne_exhausted _ _)

/-- The first outcome that looks like a denial is the one that stops the client. -/
theorem eq_of_looksDenied_first {other : Nat}
    (undisturbed : ∀ attempt ≤ other, Undisturbed attempts attempt)
    (plain : ∀ earlier < other, ¬ (attempts earlier).connection.LooksDenied)
    (looksDenied : (attempts other).connection.LooksDenied) : other = last := by
  rcases Nat.lt_trichotomy other last with isEarlier | isSame | isLater
  · have goesOn := before other isEarlier
    exact absurd looksDenied ((goesOn_iff_of_undisturbed (undisturbed other le_rfl)).mp goesOn)
  · exact isSame
  · exact absurd (looksDenied_of_stopped isStop (undisturbed last isLater.le))
      (plain last isLater)

end Stopped

end Loop

/-- The client stops for the right reasons exactly if, as long as nobody ends it, the first
outcome that looks like a denial is one, and ten outcomes of which none does were never
connected. -/
theorem stopsRightly_iff (attempts : Nat → Attempt) :
    StopsRightly attempts ↔
      (∀ last < maxRetries, (∀ attempt ≤ last, Undisturbed attempts attempt) →
        (∀ earlier < last, ¬ (attempts earlier).connection.LooksDenied) →
        (attempts last).connection.LooksDenied → (attempts last).connection.isDenied = true) ∧
      ((∀ attempt < maxRetries, Undisturbed attempts attempt) →
        (∀ attempt < maxRetries, ¬ (attempts attempt).connection.LooksDenied) →
        ∀ attempt < maxRetries, (attempts attempt).connection.isConnected = false) := by
  rcases @establishFrom_spec attempts maxRetries 0 with
    ⟨stop, last, reached, inRange, isStop, before⟩ | ⟨reached, all⟩
  · rw [Nat.zero_add] at inRange
    replace before : ∀ earlier < last, GoesOn attempts earlier :=
      fun earlier => before earlier (Nat.zero_le _)
    rw [stopsRightly_iff_of_stopped isStop before reached]
    constructor
    · refine fun rightly => ⟨?_, ?_⟩
      · intro other _ undisturbed plain looksDenied
        obtain rfl := eq_of_looksDenied_first isStop before undisturbed plain looksDenied
        exact rightly undisturbed
      · intro undisturbed plain
        exact absurd (looksDenied_of_stopped isStop (undisturbed last inRange))
          (plain last inRange)
    · rintro ⟨rightly, _⟩ undisturbed
      refine rightly last inRange undisturbed ?_
        (looksDenied_of_stopped isStop (undisturbed last le_rfl))
      intro earlier isEarlier
      exact (goesOn_iff_of_undisturbed (undisturbed earlier isEarlier.le)).mp
        (before earlier isEarlier)
  · rw [Nat.zero_add] at reached all
    have goesOn : ∀ attempt < maxRetries, GoesOn attempts attempt :=
      fun attempt => all attempt (Nat.zero_le _)
    have plain (attempt : Nat) (inRange : attempt < maxRetries)
        (undisturbed : Undisturbed attempts attempt) :
        ¬ (attempts attempt).connection.LooksDenied :=
      (goesOn_iff_of_undisturbed undisturbed).mp (goesOn attempt inRange)
    rw [stopsRightly_iff_of_exhausted reached goesOn]
    constructor
    · refine fun rightly => ⟨?_, fun undisturbed _ => rightly undisturbed⟩
      intro last inRange undisturbed _ looksDenied
      exact absurd looksDenied (plain last inRange (undisturbed last le_rfl))
    · rintro ⟨_, rightly⟩ undisturbed
      exact rightly undisturbed fun attempt inRange =>
        plain attempt inRange (undisturbed attempt inRange)

/-! ## Servers that are only busy -/

def busyAttempt : Attempt where
  connection := .refused 503 (GoString.ofText "retry in 4013 ms")

def brokenAttempt : Attempt where
  connection := .connected { bytes := [] }

/-- A busy server ends the client at once, and so do ten connections that each were made
before they broke. -/
theorem busy_server_ends_client :
    establishTunnel (fun _ => busyAttempt) =
        (.nonRecoverable busyAttempt.connection.error.text, 0) ∧
      busyAttempt.connection.isDenied = false ∧
      ¬ StopsRightly (fun _ => busyAttempt) ∧
      establishTunnel (fun _ => brokenAttempt) = (.exhausted, 10) ∧
      brokenAttempt.connection.isConnected = true ∧
      ¬ StopsRightly (fun _ => brokenAttempt) := by
  have busy : establishTunnel (fun _ => busyAttempt) =
      (.nonRecoverable busyAttempt.connection.error.text, 0) := by
    decide +kernel
  have broken : establishTunnel (fun _ => brokenAttempt) = (.exhausted, 10) := by
    decide +kernel
  refine ⟨busy, rfl, ?_, broken, rfl, ?_⟩
  · rw [StopsRightly, busy]
    rintro (denied | ⟨attempt, -, interrupted⟩)
    · exact Bool.noConfusion denied
    · exact Bool.noConfusion interrupted
  · have notInterrupted : brokenAttempt.isInterrupted = false := by decide +kernel
    rw [StopsRightly, broken]
    rintro (neverConnected | ⟨attempt, -, interrupted⟩)
    · exact Bool.noConfusion (neverConnected 0 (by decide))
    · rw [notInterrupted] at interrupted
      exact Bool.noConfusion interrupted

end KubeLB.Cli.Tunnel
