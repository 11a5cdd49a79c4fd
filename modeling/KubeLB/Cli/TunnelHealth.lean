import KubeLB.Cli.TunnelRetries
import KubeLB.Library.Runs

/-!
Contract: what the health check of a tunnel connection brings about.

Owns: the client as a machine of the loop that connects, the reader of the stream, the
monitors and the flags that they share, the detections of a monitor, and the runs in
which a connection is given up after each of them.

Does not own: what a request or its response holds. The number of an attempt names its
connection.
-/

set_option autoImplicit false

namespace KubeLB.Cli.Tunnel

open KubeLB.Library

/-! ## The client -/

/-- Where `EstablishTunnel` is in an attempt. -/
inductive Stage where
  /-- At the check that starts the attempt. -/
  | checking
  | delaying
  /-- The request is under way. -/
  | connecting
  /-- In `handleSSEEvents`. -/
  | reading
  | ended (stop : TunnelEnd)
  deriving DecidableEq, Repr

structure ClientState where
  attempt : Nat := 0
  stage : Stage := .checking
  /-- The time of the last ping, zero before the first one. It is never reset. -/
  lastPing : Int := 0
  needsReconnect : Bool := false
  /-- The context of `EstablishTunnel` is done. -/
  cancelled : Bool := false
  /-- The context of the client is done. -/
  shutdown : Bool := false
  /-- The connections whose monitors run. A monitor does not end with its connection. -/
  monitors : List Nat := []
  /-- Requests whose handlers run. -/
  requests : Nat := 0
  deriving DecidableEq, Repr

inductive Act where
  /-- The check passes. -/
  | proceed
  | delayOver
  /-- The check or the delay sees that the client was ended. -/
  | notice (interrupt : Interrupt)
  /-- The request fails since the context is done. -/
  | requestCancelled
  /-- The body is closed since the context is done. -/
  | bodyClosed
  /-- The ticker of a monitor fires. -/
  | tick (monitor : Nat) (now : Int)
  /-- A monitor sees that the client was ended. -/
  | monitorStops (monitor : Nat)
  /-- The user ends the tunnel. -/
  | cancel
  | close
  /-- The server answers the request with the status 200, or the request fails. -/
  | accepted
  | failed (error : GoString)
  /-- The server sends an event. -/
  | event (action : EventAction) (now : Int)
  /-- The server sends a line, and the reader sees that the client was ended. -/
  | lineAfter (interrupt : Interrupt)
  /-- The stream ends, with an error or without. -/
  | streamEnds (error : Option GoString)
  /-- The server answers a response, or the response could not be sent. -/
  | responded (status : Option Nat)
  deriving DecidableEq, Repr

def Act.isOwn : Act → Bool
  | proceed | delayOver | notice _ | requestCancelled | bodyClosed | tick _ _ |
    monitorStops _ => true
  | _ => false

namespace ClientState

def sees (state : ClientState) : Interrupt → Bool
  | .cancelled => state.cancelled
  | .shutdown => state.shutdown

def returned (state : ClientState) (error : ConnectionError) : ClientState :=
  match errorEnd error (if state.cancelled then some .cancelled else none) with
  | some stop => { state with stage := .ended stop }
  | none => { state with attempt := state.attempt + 1, stage := .checking }

/-- `pingTimeout`, in seconds. -/
def pingTimeout : Int := 90

/-- What `monitorConnectionHealth` looks for when its ticker fires. -/
def isUnhealthy (state : ClientState) (now : Int) : Bool :=
  state.needsReconnect || decide (0 < state.lastPing ∧ pingTimeout < now - state.lastPing)

def Reads (state : ClientState) (connection : Nat) : Prop :=
  state.stage = .reading ∧ state.attempt = connection

instance (state : ClientState) (connection : Nat) : Decidable (state.Reads connection) :=
  inferInstanceAs (Decidable (_ ∧ _))

def MovedOn (state : ClientState) (connection : Nat) : Prop :=
  connection < state.attempt ∨ ∃ stop, state.stage = .ended stop

def handled (state : ClientState) (now : Int) : EventAction → ClientState
  | .request _ => { state with requests := state.requests + 1 }
  | .ping => { state with lastPing := now }
  | .pong | .unknown _ => state
  | .failure data => state.returned (StreamEnd.serverError data).error

def sendResponse (state : ClientState) : Option Nat → ClientState
  | none => state
  | some status =>
      if status = 404 then { state with needsReconnect := true }
      else if status = 200 then { state with needsReconnect := false }
      else state

/-- One step of the client; `none` if it cannot be taken. -/
def step (state : ClientState) : Act → Option ClientState
  | .proceed =>
      if state.stage ≠ .checking then none
      else if maxRetries ≤ state.attempt then some { state with stage := .ended .exhausted }
      else if state.cancelled ∨ state.shutdown then none
      else some { state with
        needsReconnect := false
        -- the first attempt has no delay
        stage := if state.attempt = 0 then .connecting else .delaying }
  | .delayOver => if state.stage = .delaying then some { state with stage := .connecting } else none
  | .notice interrupt =>
      if state.sees interrupt = true ∧
          (state.stage = .delaying ∨ state.stage = .checking ∧ state.attempt < maxRetries) then
        some { state with stage := .ended (.interrupted interrupt) }
      else none
  | .requestCancelled =>
      if state.stage = .connecting ∧ state.cancelled then
        some { state with stage := .ended (.interrupted .cancelled) }
      else none
  | .bodyClosed =>
      if state.stage = .reading ∧ state.cancelled then
        some (state.returned (StreamEnd.interrupted .cancelled).error)
      else none
  | .tick monitor now =>
      if monitor ∉ state.monitors then none
      -- a detection only ends the monitor
      else if state.isUnhealthy now then
        some { state with monitors := state.monitors.erase monitor }
      else some state
  | .monitorStops monitor =>
      if monitor ∈ state.monitors ∧ (state.cancelled ∨ state.shutdown) then
        some { state with monitors := state.monitors.erase monitor }
      else none
  | .cancel => some { state with cancelled := true }
  | .close => some { state with shutdown := true }
  | .accepted =>
      if state.stage = .connecting then
        some { state with
          stage := .reading
          needsReconnect := false
          monitors := state.monitors ++ [state.attempt] }
      else none
  | .failed error =>
      if state.stage = .connecting then some (state.returned { text := error }) else none
  | .event action now => if state.stage = .reading then some (state.handled now action) else none
  | .lineAfter interrupt =>
      if state.stage = .reading ∧ state.sees interrupt = true then
        some (state.returned (StreamEnd.interrupted interrupt).error)
      else none
  | .streamEnds error =>
      if state.stage ≠ .reading then none
      else
        let stop : StreamEnd :=
          match error with
          | none => .unexpected
          | some error => if state.cancelled then .interrupted .cancelled else .readError error
        some (state.returned stop.error)
  | .responded status =>
      if state.requests = 0 then none
      else some ({ state with requests := state.requests - 1 }.sendResponse status)

/-! ## Detections -/

/-- The connection whose monitor detects that it is lost. -/
def detection (state : ClientState) : Act → Option Nat
  | .tick monitor now =>
      if monitor ∈ state.monitors ∧ state.isUnhealthy now = true then some monitor else none
  | _ => none

/-- Whatever the client does by itself, it can still get past the connection by itself. -/
def GivesUp (state : ClientState) (connection : Nat) : Prop :=
  ∀ acts reached, (∀ act ∈ acts, act.isOwn = true) → runFrom step state acts = some reached →
    ∃ more final, (∀ act ∈ more, act.isOwn = true) ∧ runFrom step reached more = some final ∧
      final.MovedOn connection

/-- After a detection the connection is given up. -/
def GivesUpDetected (state : ClientState) (act : Act) : Prop :=
  ∀ connection next, state.detection act = some connection → step state act = some next →
    next.GivesUp connection

/-- The connection of a detection is not read any more, or is about to be closed because
the user ended the tunnel. -/
def DetectsLate (state : ClientState) (act : Act) : Prop :=
  ∀ connection, state.detection act = some connection →
    ¬ state.Reads connection ∨ state.cancelled = true

/-! ## What a step does -/

section Steps

variable {state next : ClientState} {act : Act} {connection : Nat}

/-- How the loop can get from one state to the next, the start of a reader apart. -/
inductive Follows (state next : ClientState) : Prop where
  | stays (attempt : next.attempt = state.attempt) (stage : next.stage = state.stage)
  | ends (attempt : next.attempt = state.attempt) (stop : TunnelEnd)
      (stage : next.stage = .ended stop)
  | prepares (attempt : next.attempt = state.attempt)
      (before : state.stage = .checking ∨ state.stage = .delaying)
  | retries (attempt : next.attempt = state.attempt + 1)
      (before : state.stage = .connecting ∨ state.stage = .reading)

@[simp] theorem returned_monitors (state : ClientState) (error : ConnectionError) :
    (state.returned error).monitors = state.monitors := by
  unfold returned
  split <;> rfl

theorem follows_returned {error : ConnectionError}
    (running : state.stage = .connecting ∨ state.stage = .reading) :
    Follows state (state.returned error) := by
  unfold returned
  split
  · rename_i stop _
    exact .ends rfl stop rfl
  · exact .retries rfl running

@[simp] theorem handled_monitors (state : ClientState) (now : Int) (action : EventAction) :
    (state.handled now action).monitors = state.monitors := by
  cases action with
  | failure data => exact returned_monitors state _
  | request _ | ping | pong | unknown _ => rfl

theorem follows_handled {now : Int} {action : EventAction} (reading : state.stage = .reading) :
    Follows state (state.handled now action) := by
  cases action with
  | failure data => exact follows_returned (.inr reading)
  | request _ | ping | pong | unknown _ => exact .stays rfl rfl

theorem sendResponse_place (state : ClientState) (status : Option Nat) :
    (state.sendResponse status).attempt = state.attempt ∧
      (state.sendResponse status).stage = state.stage ∧
      (state.sendResponse status).monitors = state.monitors := by
  unfold sendResponse
  split
  · exact ⟨rfl, rfl, rfl⟩
  · split_ifs <;> exact ⟨rfl, rfl, rfl⟩

/-- A step other than the start of a reader starts no monitor. -/
theorem step_follows (isNext : step state act = some next) (notAccepted : act ≠ .accepted) :
    Follows state next ∧ next.monitors ⊆ state.monitors := by
  cases act with
  | proceed =>
      rw [step, Option.ite_none_left_eq_some, not_not] at isNext
      obtain ⟨checking, isNext⟩ := isNext
      split_ifs at isNext <;> cases isNext
      · exact ⟨.ends rfl _ rfl, List.Subset.refl _⟩
      · exact ⟨.prepares rfl (.inl checking), List.Subset.refl _⟩
      · exact ⟨.prepares rfl (.inl checking), List.Subset.refl _⟩
  | delayOver =>
      obtain ⟨delaying, ⟨⟩⟩ := Option.ite_none_right_eq_some.mp isNext
      exact ⟨.prepares rfl (.inr delaying), List.Subset.refl _⟩
  | notice interrupt =>
      obtain ⟨-, ⟨⟩⟩ := Option.ite_none_right_eq_some.mp isNext
      exact ⟨.ends rfl _ rfl, List.Subset.refl _⟩
  | requestCancelled =>
      obtain ⟨-, ⟨⟩⟩ := Option.ite_none_right_eq_some.mp isNext
      exact ⟨.ends rfl _ rfl, List.Subset.refl _⟩
  | bodyClosed =>
      obtain ⟨⟨reading, -⟩, ⟨⟩⟩ := Option.ite_none_right_eq_some.mp isNext
      exact ⟨follows_returned (.inr reading), by simp⟩
  | tick monitor now =>
      rw [step, Option.ite_none_left_eq_some] at isNext
      obtain ⟨-, isNext⟩ := isNext
      split_ifs at isNext <;> cases isNext
      · exact ⟨.stays rfl rfl, List.erase_subset⟩
      · exact ⟨.stays rfl rfl, List.Subset.refl _⟩
  | monitorStops monitor =>
      obtain ⟨-, ⟨⟩⟩ := Option.ite_none_right_eq_some.mp isNext
      exact ⟨.stays rfl rfl, List.erase_subset⟩
  | cancel =>
      cases isNext
      exact ⟨.stays rfl rfl, List.Subset.refl _⟩
  | close =>
      cases isNext
      exact ⟨.stays rfl rfl, List.Subset.refl _⟩
  | accepted => exact absurd rfl notAccepted
  | failed error =>
      obtain ⟨connecting, ⟨⟩⟩ := Option.ite_none_right_eq_some.mp isNext
      exact ⟨follows_returned (.inl connecting), by simp⟩
  | event action now =>
      obtain ⟨reading, ⟨⟩⟩ := Option.ite_none_right_eq_some.mp isNext
      exact ⟨follows_handled reading, by simp⟩
  | lineAfter interrupt =>
      obtain ⟨⟨reading, -⟩, ⟨⟩⟩ := Option.ite_none_right_eq_some.mp isNext
      exact ⟨follows_returned (.inr reading), by simp⟩
  | streamEnds error =>
      obtain ⟨reading, ⟨⟩⟩ := Option.ite_none_left_eq_some.mp isNext
      exact ⟨follows_returned (.inr (not_not.mp reading)), by simp⟩
  | responded status =>
      rw [step, Option.ite_none_left_eq_some] at isNext
      obtain ⟨-, ⟨⟩⟩ := isNext
      obtain ⟨attempt, stage, monitors⟩ :=
        sendResponse_place { state with requests := state.requests - 1 } status
      exact ⟨.stays attempt stage, fun _ isMonitor => monitors ▸ isMonitor⟩

theorem step_accepted (isNext : step state .accepted = some next) :
    state.stage = .connecting ∧ next.stage = .reading ∧ next.attempt = state.attempt ∧
      next.monitors = state.monitors ++ [state.attempt] := by
  obtain ⟨connecting, ⟨⟩⟩ := Option.ite_none_right_eq_some.mp isNext
  exact ⟨connecting, rfl, rfl, rfl⟩

theorem MovedOn.of_follows (movedOn : state.MovedOn connection) (follows : Follows state next) :
    next.MovedOn connection := by
  rcases movedOn with isEarlier | ⟨stop, ended⟩
  · cases follows with
    | stays attempt | ends attempt | prepares attempt => exact .inl (attempt ▸ isEarlier)
    | retries attempt => exact .inl (by omega)
  · cases follows with
    | stays attempt stage => exact .inr ⟨stop, stage.trans ended⟩
    | ends attempt stop stage => exact .inr ⟨stop, stage⟩
    | prepares attempt before | retries attempt before => simp [ended] at before

theorem Reads.of_follows (reads : state.Reads connection) (follows : Follows state next) :
    next.Reads connection ∨ next.MovedOn connection := by
  obtain ⟨reading, rfl⟩ := reads
  cases follows with
  | stays attempt stage => exact .inl ⟨stage.trans reading, attempt⟩
  | ends attempt stop stage => exact .inr (.inr ⟨stop, stage⟩)
  | prepares attempt before => simp [reading] at before
  | retries attempt => exact .inr (.inl (by omega))

theorem Reads.not_movedOn (reads : state.Reads connection) : ¬ state.MovedOn connection := by
  rintro (isEarlier | ⟨stop, ended⟩)
  · exact absurd reads.2 (by omega)
  · rw [reads.1] at ended
    cases ended

end Steps

/-! ## Monitors of a run -/

/-- A monitor was started by the reader of its connection, which is still there or is
past. -/
def MonitorsStarted (state : ClientState) : Prop :=
  ∀ monitor ∈ state.monitors, state.Reads monitor ∨ state.MovedOn monitor

theorem monitorsStarted_step {state next : ClientState} {act : Act}
    (started : state.MonitorsStarted) (isNext : step state act = some next) :
    next.MonitorsStarted := by
  intro monitor isMonitor
  by_cases accepted : act = .accepted
  · subst accepted
    obtain ⟨connecting, reading, sameAttempt, monitors⟩ := step_accepted isNext
    rw [monitors, List.mem_append, List.mem_singleton] at isMonitor
    rcases isMonitor with isOld | rfl
    · -- no reader is there while a request is under way
      rcases started monitor isOld with ⟨isReading, -⟩ | isEarlier | ⟨stop, ended⟩
      · rw [connecting] at isReading
        cases isReading
      · exact .inr (.inl (sameAttempt ▸ isEarlier))
      · rw [connecting] at ended
        cases ended
    · exact .inl ⟨reading, sameAttempt⟩
  · obtain ⟨follows, monitors⟩ := step_follows isNext accepted
    rcases started monitor (monitors isMonitor) with reads | movedOn
    · exact reads.of_follows follows
    · exact .inr (movedOn.of_follows follows)

theorem monitorsStarted_run {acts : List Act} {reached : ClientState}
    (run : runFrom step {} acts = some reached) : reached.MonitorsStarted := by
  refine @run_induction _ _ step (fun _ state => state.MonitorsStarted) {} ?_ ?_ acts reached run
  · intro monitor isMonitor
    cases isMonitor
  · intro _ state act next started isNext
    exact monitorsStarted_step started isNext

/-! ## The client by itself -/

section Alone

variable {state next reached : ClientState} {act : Act} {acts : List Act} {connection : Nat}

theorem ne_accepted_of_isOwn (own : act.isOwn = true) : act ≠ .accepted := by
  rintro rfl
  cases own

theorem alone_induction (Invariant : ClientState → Prop)
    (preserved : ∀ state act next, Invariant state → act.isOwn = true →
      step state act = some next → Invariant next)
    (base : Invariant state) (own : ∀ act ∈ acts, act.isOwn = true)
    (run : runFrom step state acts = some reached) : Invariant reached := by
  have meets : RunMeets step (fun _ act => act.isOwn = true) state acts :=
    fun index act isAct _ _ => own act (List.mem_of_getElem? isAct)
  exact invariant_of_runMeets preserved base meets run

@[simp] theorem returned_cancelled (state : ClientState) (error : ConnectionError) :
    (state.returned error).cancelled = state.cancelled := by
  unfold returned
  split <;> rfl

theorem cancelled_of_isOwn (own : act.isOwn = true) (isNext : step state act = some next) :
    next.cancelled = state.cancelled := by
  cases act with
  | proceed =>
      rw [step, Option.ite_none_left_eq_some] at isNext
      obtain ⟨-, isNext⟩ := isNext
      split_ifs at isNext <;> cases isNext <;> rfl
  | bodyClosed =>
      obtain ⟨-, ⟨⟩⟩ := Option.ite_none_right_eq_some.mp isNext
      exact returned_cancelled state _
  | tick monitor now =>
      rw [step, Option.ite_none_left_eq_some] at isNext
      obtain ⟨-, isNext⟩ := isNext
      split_ifs at isNext <;> cases isNext <;> rfl
  | delayOver | notice _ | requestCancelled | monitorStops _ =>
      obtain ⟨-, ⟨⟩⟩ := Option.ite_none_right_eq_some.mp isNext
      rfl
  | cancel | close | accepted | failed _ | event _ _ | lineAfter _ | streamEnds _
  | responded _ => cases own

theorem reads_of_isOwn (reads : state.Reads connection) (notCancelled : state.cancelled = false)
    (own : act.isOwn = true) (isNext : step state act = some next) : next.Reads connection := by
  obtain ⟨reading, isConnection⟩ := reads
  cases act with
  | proceed => simp [step, reading] at isNext
  | delayOver => simp [step, reading] at isNext
  | notice interrupt => simp [step, reading] at isNext
  | requestCancelled => simp [step, reading] at isNext
  | bodyClosed => simp [step, notCancelled] at isNext
  | tick monitor now =>
      rw [step, Option.ite_none_left_eq_some] at isNext
      obtain ⟨-, isNext⟩ := isNext
      split_ifs at isNext <;> cases isNext <;> exact ⟨reading, isConnection⟩
  | monitorStops monitor =>
      obtain ⟨-, ⟨⟩⟩ := Option.ite_none_right_eq_some.mp isNext
      exact ⟨reading, isConnection⟩
  | cancel | close | accepted | failed _ | event _ _ | lineAfter _ | streamEnds _
  | responded _ => cases own

theorem not_givesUp_of_reads (reads : state.Reads connection)
    (notCancelled : state.cancelled = false) : ¬ state.GivesUp connection := by
  intro givesUp
  obtain ⟨more, final, own, run, movedOn⟩ := givesUp [] state (by simp) rfl
  have waits : final.Reads connection ∧ final.cancelled = false := by
    refine alone_induction (fun state => state.Reads connection ∧ state.cancelled = false) ?_
      ⟨reads, notCancelled⟩ own run
    intro state act next waits isOwn isNext
    exact ⟨reads_of_isOwn waits.1 waits.2 isOwn isNext,
      (cancelled_of_isOwn isOwn isNext).trans waits.2⟩
  exact waits.1.not_movedOn movedOn

theorem givesUp_of_movedOn (movedOn : state.MovedOn connection) : state.GivesUp connection := by
  intro acts reached own run
  refine ⟨[], reached, by simp, rfl, ?_⟩
  refine alone_induction (fun state => state.MovedOn connection) ?_ movedOn own run
  intro state act next movedOn isOwn isNext
  exact movedOn.of_follows (step_follows isNext (ne_accepted_of_isOwn isOwn)).1

/-- The body of a cancelled connection is closed, which ends its reader. -/
theorem givesUp_of_cancelled (reads : state.Reads connection) (cancelled : state.cancelled = true) :
    state.GivesUp connection := by
  intro acts reached own run
  have kept : (reached.Reads connection ∨ reached.MovedOn connection) ∧
      reached.cancelled = true := by
    refine alone_induction (fun state =>
      (state.Reads connection ∨ state.MovedOn connection) ∧ state.cancelled = true) ?_
      ⟨.inl reads, cancelled⟩ own run
    rintro state act next ⟨place, cancelled⟩ isOwn isNext
    refine ⟨?_, (cancelled_of_isOwn isOwn isNext).trans cancelled⟩
    have follows := (step_follows isNext (ne_accepted_of_isOwn isOwn)).1
    rcases place with reads | movedOn
    · exact reads.of_follows follows
    · exact .inr (movedOn.of_follows follows)
  rcases kept with ⟨isReading | movedOn, isCancelled⟩
  · refine ⟨[.bodyClosed], { reached with stage := .ended (.interrupted .cancelled) }, ?_, ?_,
      .inr ⟨_, rfl⟩⟩
    · simp [Act.isOwn]
    · simp only [runFrom, step]
      rw [if_pos ⟨isReading.1, isCancelled⟩]
      rfl
  · exact ⟨[], reached, by simp, rfl, movedOn⟩

end Alone

/-! ## Runs in which lost connections are given up -/

theorem step_of_detection {state : ClientState} {act : Act} {connection : Nat}
    (detects : state.detection act = some connection) :
    connection ∈ state.monitors ∧
      step state act = some { state with monitors := state.monitors.erase connection } := by
  cases act with
  | tick monitor now =>
      obtain ⟨⟨isMonitor, unhealthy⟩, ⟨⟩⟩ := Option.ite_none_right_eq_some.mp detects
      refine ⟨isMonitor, ?_⟩
      rw [step, if_neg (not_not.mpr isMonitor), if_pos unhealthy]
  | _ => cases detects

theorem givesUpDetected_iff {state : ClientState} (started : state.MonitorsStarted) (act : Act) :
    state.GivesUpDetected act ↔ state.DetectsLate act := by
  constructor
  · intro givesUp connection detects
    obtain ⟨-, isNext⟩ := step_of_detection detects
    by_contra notLate
    rw [not_or, not_not, Bool.not_eq_true] at notLate
    have lost := givesUp connection _ detects isNext
    refine not_givesUp_of_reads ?_ ?_ lost
    · exact notLate.1
    · exact notLate.2
  · intro late connection next detects isNext
    obtain ⟨isMonitor, detected⟩ := step_of_detection detects
    obtain rfl := Option.some.inj (detected.symm.trans isNext)
    rcases started connection isMonitor with reads | movedOn
    · rcases late connection detects with notReads | cancelled
      · exact absurd reads notReads
      · exact givesUp_of_cancelled reads cancelled
    · exact givesUp_of_movedOn movedOn

/-- In a run of the client the connections that their monitors detect as lost are given up
exactly if every detection comes too late, when the connection is not read any more or
the user has ended the tunnel. -/
theorem givesUpLost_iff (acts : List Act) :
    RunMeets step GivesUpDetected {} acts ↔ RunMeets step DetectsLate {} acts := by
  constructor
  · intro givesUp index act isAct state run
    exact (givesUpDetected_iff (monitorsStarted_run run) act).mp (givesUp index act isAct state run)
  · intro late index act isAct state run
    exact (givesUpDetected_iff (monitorsStarted_run run) act).mpr (late index act isAct state run)

/-! ## Lost connections that are kept -/

def silentServer : List Act :=
  [.proceed, .accepted, .event .ping 1000, .tick 0 1091]

def forgetfulServer : List Act :=
  [.proceed, .accepted, .event (.request []) 1000, .responded (some 404), .tick 0 1001]

/-- In both cases the monitor detects the loss and ends, and the reader waits on. -/
theorem lost_connections_kept :
    runFrom step {} silentServer =
        some { stage := .reading, lastPing := 1000, monitors := [] } ∧
      ¬ RunMeets step GivesUpDetected {} silentServer ∧
      runFrom step {} forgetfulServer =
        some { stage := .reading, needsReconnect := true, monitors := [] } ∧
      ¬ RunMeets step GivesUpDetected {} forgetfulServer := by
  refine ⟨by decide +kernel, ?_, by decide +kernel, ?_⟩
  · intro givesUp
    have lost := givesUp 3 (.tick 0 1091) rfl
      { stage := .reading, lastPing := 1000, monitors := [0] } (by decide +kernel) 0
      { stage := .reading, lastPing := 1000, monitors := [] } (by decide +kernel)
      (by decide +kernel)
    exact not_givesUp_of_reads ⟨rfl, rfl⟩ rfl lost
  · intro givesUp
    have lost := givesUp 4 (.tick 0 1001) rfl
      { stage := .reading, needsReconnect := true, monitors := [0] } (by decide +kernel) 0
      { stage := .reading, needsReconnect := true, monitors := [] } (by decide +kernel)
      (by decide +kernel)
    exact not_givesUp_of_reads ⟨rfl, rfl⟩ rfl lost

end ClientState

end KubeLB.Cli.Tunnel
