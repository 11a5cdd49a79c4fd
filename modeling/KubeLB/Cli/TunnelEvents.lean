import KubeLB.Library.Lines

/-!
Contract: the events that a tunnel client reads from its server.

Owns: `handleSSEEvents` as a machine over the lines of the stream, what it does for each
event and how it ends, the events as a server writes them, and the events that are
handled as they were written.

Does not own: the handling of a request, and the connection under the stream.
-/

set_option autoImplicit false

namespace KubeLB.Cli.Tunnel

open KubeLB.Library

/-! ## The client -/

/-- `bufio.MaxScanTokenSize`: a line and its newline have to fit in the buffer. -/
def maxScanTokenSize : Nat := 64 * 1024

def eventField : GoString := GoString.ofText "event: "
def dataField : GoString := GoString.ofText "data: "
def requestType : GoString := GoString.ofText "request"
def errorType : GoString := GoString.ofText "error"
def pingType : GoString := GoString.ofText "ping"
def pongType : GoString := GoString.ofText "pong"

/-- `strings.HasPrefix` and `strings.TrimPrefix`. -/
def trimField (field line : GoString) : Option GoString :=
  if field.isPrefixOf line then some (line.drop field.length) else none

inductive EventAction where
  /-- A handler is started for the data. -/
  | request (data : GoString)
  /-- The time of the last ping is set. -/
  | ping
  | pong
  | failure (data : GoString)
  | unknown (eventType : GoString)
  deriving DecidableEq, Repr

/-- The switch of `handleSSEEvents`. -/
def actionOf (eventType data : GoString) : EventAction :=
  if eventType = requestType then .request data
  else if eventType = pingType then .ping
  else if eventType = pongType then .pong
  else if eventType = errorType then .failure data
  else .unknown eventType

inductive Interrupt where
  | cancelled
  | shutdown
  deriving DecidableEq, Repr

inductive StreamEnd where
  | serverError (data : GoString)
  | interrupted (interrupt : Interrupt)
  | readError (error : GoString)
  | unexpected
  deriving DecidableEq, Repr

/-- A response body, and what surrounds the loop that reads it. -/
structure EventStream where
  bytes : GoString
  /-- The error after the last byte, none at the end of the body. -/
  readError : Option GoString := none
  /-- What the check after the given number of scans sees. -/
  interrupt : Nat → Option Interrupt := fun _ => none
  /-- The context is cancelled when the scanner stops. -/
  cancelledAtEnd : Bool := false

def EventStream.finish (stream : EventStream) (tooLong : Bool) : StreamEnd :=
  let error :=
    if tooLong then some (GoString.ofText "bufio.Scanner: token too long") else stream.readError
  match error with
  | none => .unexpected
  | some error =>
      if stream.cancelledAtEnd then .interrupted .cancelled else .readError error

/-- The loop of `handleSSEEvents` over the lines of the scanner. An event line takes the
line after it as well. -/
def handleLines (interrupt : Nat → Option Interrupt) (finish : StreamEnd) :
    Nat → List GoString → List EventAction × StreamEnd
  | _, [] => ([], finish)
  | scans, [_] =>
      -- an event line without a data line leaves the loop, any other line was the last one
      match interrupt scans with
      | some stop => ([], .interrupted stop)
      | none => ([], finish)
  | scans, line :: next :: later =>
      match interrupt scans with
      | some stop => ([], .interrupted stop)
      | none =>
          match trimField eventField line with
          | none => handleLines interrupt finish (scans + 1) (next :: later)
          | some eventType =>
              match trimField dataField next with
              | none => handleLines interrupt finish (scans + 1) later
              | some data =>
                  match actionOf eventType data with
                  | .failure data => ([.failure data], .serverError data)
                  | action =>
                      let rest := handleLines interrupt finish (scans + 1) later
                      (action :: rest.1, rest.2)

def handleSSEEvents (stream : EventStream) : List EventAction × StreamEnd :=
  let scanned := scanLines maxScanTokenSize (splitLines stream.bytes)
  handleLines stream.interrupt (stream.finish scanned.2) 0 scanned.1

/-! ## The server -/

/-- An event with its type and its data in one line each. -/
structure ServerEvent where
  eventType : GoString
  data : GoString
  typeInLine : newline ∉ eventType
  dataInLine : newline ∉ data

/-- An event line, a data line and a blank line. -/
def ServerEvent.encode (event : ServerEvent) : GoString :=
  eventField ++ event.eventType ++ newline ::
    (dataField ++ event.data ++ newline :: [newline])

/-- The stream of a server that writes the events and closes it. -/
def streamOf (events : List ServerEvent) : EventStream where
  bytes := events.flatMap ServerEvent.encode

/-- The events up to the first error. -/
def upToError : List ServerEvent → List ServerEvent
  | [] => []
  | event :: events =>
      if event.eventType = errorType then [event] else event :: upToError events

/-- The data that a handler is started for. -/
def EventAction.dispatched : EventAction → Option GoString
  | .request data => some data
  | _ => none

def EventAction.isFailure : EventAction → Bool
  | .failure _ => true
  | _ => false

/-- An action is the one for its event. -/
structure Handles (event : ServerEvent) (action : EventAction) : Prop where
  dispatched : action.dispatched =
    if event.eventType = requestType then some event.data else none
  isFailure : action.isFailure = decide (event.eventType = errorType)

/-- Each event up to the first error has its own action, and the loop ends at the error or
at the end of the stream. -/
structure HandledInOrder (events : List ServerEvent) (result : List EventAction × StreamEnd) :
    Prop where
  actions : List.Forall₂ Handles (upToError events) result.1
  ends : if ∃ event ∈ events, event.eventType = errorType then
      ∃ data, result.2 = .serverError data
    else result.2 = .unexpected

/-- The event is read as it was written, as far as it matters to the client: its lines
fit in the buffer, its type is not made that of a request or an error by the return
that is dropped, and the data of a request has none at its end. -/
structure Framed (event : ServerEvent) : Prop where
  typeFits : (eventField ++ event.eventType).length < maxScanTokenSize
  dataFits : (dataField ++ event.data).length < maxScanTokenSize
  notRequest : event.eventType ≠ requestType ++ [carriageReturn]
  notError : event.eventType ≠ errorType ++ [carriageReturn]
  data : event.eventType = requestType → event.data.getLast? ≠ some carriageReturn

/-! ## Fields -/

theorem trimField_append (field line : GoString) :
    trimField field (field ++ line) = some line := by
  unfold trimField
  rw [if_pos (List.isPrefixOf_iff_prefix.mpr (List.prefix_append field line)), List.drop_left]

theorem trimField_eventField_nil : trimField eventField [] = none := by
  decide

theorem actionOf_dispatched (eventType data : GoString) :
    (actionOf eventType data).dispatched =
      if eventType = requestType then some data else none := by
  unfold actionOf
  split_ifs <;> rfl

theorem actionOf_isFailure (eventType data : GoString) :
    (actionOf eventType data).isFailure = decide (eventType = errorType) := by
  have distinct : requestType ≠ errorType ∧ pingType ≠ errorType ∧ pongType ≠ errorType := by
    decide
  unfold actionOf
  split_ifs with isRequest isPing isPong isError
  · simp [EventAction.isFailure, isRequest, distinct.1]
  · simp [EventAction.isFailure, isPing, distinct.2.1]
  · simp [EventAction.isFailure, isPong, distinct.2.2]
  · simp [EventAction.isFailure, isError]
  · simp [EventAction.isFailure, isError]

theorem handles_actionOf_iff {event : ServerEvent} :
    Handles event (actionOf (dropReturn event.eventType) (dropReturn event.data)) ↔
      event.eventType ≠ requestType ++ [carriageReturn] ∧
        event.eventType ≠ errorType ++ [carriageReturn] ∧
        (event.eventType = requestType → event.data.getLast? ≠ some carriageReturn) := by
  have readRequest := @dropReturn_eq_iff event.eventType requestType (by decide)
  have readError := @dropReturn_eq_iff event.eventType errorType (by decide)
  have notBoth : ¬ (event.eventType = requestType ∧
      event.eventType = requestType ++ [carriageReturn]) := by
    rintro ⟨isType, withReturn⟩
    exact absurd (isType.symm.trans withReturn) (by decide)
  have notBothError : ¬ (event.eventType = errorType ∧
      event.eventType = errorType ++ [carriageReturn]) := by
    rintro ⟨isType, withReturn⟩
    exact absurd (isType.symm.trans withReturn) (by decide)
  constructor
  · rintro ⟨dispatched, isFailure⟩
    rw [actionOf_dispatched] at dispatched
    rw [actionOf_isFailure, decide_eq_decide, readError] at isFailure
    refine ⟨?_, ?_, ?_⟩
    · intro withReturn
      rw [if_pos (readRequest.mpr (Or.inr withReturn)),
        if_neg (fun isType => notBoth ⟨isType, withReturn⟩)] at dispatched
      cases dispatched
    · intro withReturn
      exact notBothError ⟨isFailure.mp (Or.inr withReturn), withReturn⟩
    · intro isRequest
      rw [if_pos (readRequest.mpr (Or.inl isRequest)), if_pos isRequest] at dispatched
      exact dropReturn_eq_self_iff.mp (Option.some.inj dispatched)
  · rintro ⟨notRequest, notError, noReturn⟩
    constructor
    · rw [actionOf_dispatched]
      by_cases isRequest : event.eventType = requestType
      · rw [if_pos (readRequest.mpr (Or.inl isRequest)), if_pos isRequest,
          dropReturn_eq_self_iff.mpr (noReturn isRequest)]
      · rw [if_neg (fun isRead => (readRequest.mp isRead).elim isRequest notRequest),
          if_neg isRequest]
    · rw [actionOf_isFailure, decide_eq_decide, readError, or_iff_left notError]

/-! ## Events in sequence -/

def readEvents (scans : Nat) (events : List ServerEvent) : List EventAction × StreamEnd :=
  let scanned := scanLines maxScanTokenSize (splitLines (events.flatMap ServerEvent.encode))
  handleLines (fun _ => none) ((streamOf []).finish scanned.2) scans scanned.1

theorem handleSSEEvents_streamOf (events : List ServerEvent) :
    handleSSEEvents (streamOf events) = readEvents 0 events := rfl

theorem splitLines_encode (event : ServerEvent) (rest : GoString) :
    splitLines (event.encode ++ rest) =
      (eventField ++ event.eventType) :: (dataField ++ event.data) :: [] :: splitLines rest := by
  have typeInLine : newline ∉ eventField ++ event.eventType := by
    rw [List.mem_append, not_or]
    exact ⟨by decide, event.typeInLine⟩
  have dataInLine : newline ∉ dataField ++ event.data := by
    rw [List.mem_append, not_or]
    exact ⟨by decide, event.dataInLine⟩
  have asLines : event.encode ++ rest = (eventField ++ event.eventType) ++ newline ::
      ((dataField ++ event.data) ++ newline :: ([] ++ newline :: rest)) := by
    simp [ServerEvent.encode]
  rw [asLines, splitLines_append typeInLine, splitLines_append dataInLine,
    splitLines_append List.not_mem_nil]

theorem handleLines_blank (finish : StreamEnd) (scans : Nat) (lines : List GoString) :
    handleLines (fun _ => none) finish scans ([] :: lines) =
      handleLines (fun _ => none) finish (scans + 1) lines := by
  cases lines with
  | nil => rfl
  | cons next later => simp only [handleLines, trimField_eventField_nil]

section Reading

variable {event : ServerEvent} {events : List ServerEvent} {scans : Nat}

/-- A line that does not fit ends the loop before the event is handled. -/
theorem readEvents_of_tooLong
    (tooLong : ¬ ((eventField ++ event.eventType).length < maxScanTokenSize ∧
      (dataField ++ event.data).length < maxScanTokenSize)) :
    readEvents scans (event :: events) =
      ([], .readError (GoString.ofText "bufio.Scanner: token too long")) := by
  simp only [readEvents, List.flatMap_cons, splitLines_encode, scanLines]
  by_cases typeFits : (eventField ++ event.eventType).length < maxScanTokenSize
  · have dataTooLong := fun dataFits => tooLong ⟨typeFits, dataFits⟩
    rw [if_pos typeFits, if_neg dataTooLong]
    rfl
  · rw [if_neg typeFits]
    rfl

/-- An event whose lines fit is handled by what is read of it. -/
theorem readEvents_of_fits
    (typeFits : (eventField ++ event.eventType).length < maxScanTokenSize)
    (dataFits : (dataField ++ event.data).length < maxScanTokenSize) :
    readEvents scans (event :: events) =
      match actionOf (dropReturn event.eventType) (dropReturn event.data) with
      | .failure data => ([.failure data], .serverError data)
      | action =>
          (action :: (readEvents (scans + 2) events).1, (readEvents (scans + 2) events).2) := by
  have blankFits : ([] : GoString).length < maxScanTokenSize := by decide
  have typeRead : dropReturn (eventField ++ event.eventType) =
      eventField ++ dropReturn event.eventType :=
    dropReturn_append (by decide) _
  have dataRead : dropReturn (dataField ++ event.data) = dataField ++ dropReturn event.data :=
    dropReturn_append (by decide) _
  have blankRead : dropReturn [] = [] := rfl
  simp only [readEvents, List.flatMap_cons, splitLines_encode, scanLines, if_pos typeFits,
    if_pos dataFits, if_pos blankFits, typeRead, dataRead, blankRead, handleLines,
    trimField_append, handleLines_blank]

theorem mem_upToError_head : event ∈ upToError (event :: events) := by
  unfold upToError
  split
  · exact List.mem_singleton_self _
  · exact List.mem_cons_self

end Reading

/-- The loop handles events in order exactly if those up to the first error are framed. -/
theorem handledInOrder_readEvents_iff (scans : Nat) (events : List ServerEvent) :
    HandledInOrder events (readEvents scans events) ↔
      ∀ event ∈ upToError events, Framed event := by
  induction events generalizing scans with
  | nil =>
      refine iff_of_true ⟨List.Forall₂.nil, ?_⟩ (by simp [upToError])
      rw [if_neg (by simp)]
      rfl
  | cons event events ih =>
      by_cases fits : (eventField ++ event.eventType).length < maxScanTokenSize ∧
          (dataField ++ event.data).length < maxScanTokenSize
      · have framed_iff : Framed event ↔ Handles event
            (actionOf (dropReturn event.eventType) (dropReturn event.data)) := by
          rw [handles_actionOf_iff]
          exact ⟨fun framed => ⟨framed.notRequest, framed.notError, framed.data⟩,
            fun read => ⟨fits.1, fits.2, read.1, read.2.1, read.2.2⟩⟩
        rw [readEvents_of_fits fits.1 fits.2]
        have isFailure := actionOf_isFailure (dropReturn event.eventType) (dropReturn event.data)
        by_cases isError : event.eventType = errorType
        · have onlyEvent : upToError (event :: events) = [event] := if_pos isError
          have hasError : ∃ other ∈ event :: events, other.eventType = errorType :=
            ⟨event, List.mem_cons_self, isError⟩
          have readError : dropReturn event.eventType = errorType :=
            (dropReturn_eq_iff (by decide)).mpr (Or.inl isError)
          rw [onlyEvent]
          simp only [List.mem_singleton, forall_eq, framed_iff]
          rw [readError, decide_eq_true rfl] at isFailure
          rw [readError]
          cases action : actionOf errorType (dropReturn event.data) with
          | failure data =>
              constructor
              · intro handled
                have handles := handled.actions
                rw [onlyEvent] at handles
                exact (List.forall₂_cons.mp handles).1
              · intro handles
                refine ⟨?_, ?_⟩
                · rw [onlyEvent]
                  exact List.Forall₂.cons handles List.Forall₂.nil
                · rw [if_pos hasError]
                  exact ⟨data, rfl⟩
          | _ =>
              rw [action] at isFailure
              cases isFailure
        · have moreEvents : upToError (event :: events) = event :: upToError events :=
            if_neg isError
          have error_iff : (∃ other ∈ event :: events, other.eventType = errorType) ↔
              ∃ other ∈ events, other.eventType = errorType := by
            simp [isError]
          rw [moreEvents, List.forall_mem_cons, framed_iff, ← ih (scans + 2)]
          have handled_cons (action : EventAction) (rest : List EventAction × StreamEnd) :
              HandledInOrder (event :: events) (action :: rest.1, rest.2) ↔
                Handles event action ∧ HandledInOrder events rest := by
            constructor
            · rintro ⟨actions, ends⟩
              rw [moreEvents] at actions
              obtain ⟨handles, others⟩ := List.forall₂_cons.mp actions
              simp only [error_iff] at ends
              exact ⟨handles, others, ends⟩
            · rintro ⟨handles, others, ends⟩
              refine ⟨?_, ?_⟩
              · rw [moreEvents]
                exact List.Forall₂.cons handles others
              · simp only [error_iff]
                exact ends
          cases action : actionOf (dropReturn event.eventType) (dropReturn event.data) with
          | failure data =>
              -- the type was read as that of an error, which it is not
              have notHandled : ¬ Handles event (.failure data) := by
                intro handles
                have isRight := handles.isFailure
                rw [decide_eq_false isError] at isRight
                cases isRight
              refine iff_of_false ?_ (fun both => notHandled both.1)
              intro handled
              have actions := handled.actions
              rw [moreEvents] at actions
              exact notHandled (List.forall₂_cons.mp actions).1
          | _ => exact handled_cons _ _
      · rw [readEvents_of_tooLong fits]
        refine iff_of_false ?_ ?_
        · intro handled
          have actions := handled.actions
          have isMember := @mem_upToError_head event events
          cases isList : upToError (event :: events) with
          | nil => rw [isList] at isMember; cases isMember
          | cons first others => rw [isList] at actions; cases actions
        · intro allFramed
          have framed := allFramed event mem_upToError_head
          exact fits ⟨framed.typeFits, framed.dataFits⟩

/-- The client handles the events of a server in order exactly if those up to the first
error are framed. -/
theorem handledInOrder_iff (events : List ServerEvent) :
    HandledInOrder events (handleSSEEvents (streamOf events)) ↔
      ∀ event ∈ upToError events, Framed event := by
  rw [handleSSEEvents_streamOf]
  exact handledInOrder_readEvents_iff 0 events

/-! ## A request that is too long -/

def longRequest : ServerEvent where
  eventType := requestType
  data := List.replicate maxScanTokenSize 97
  typeInLine := by decide
  dataInLine := by
    intro isByte
    exact absurd (List.eq_of_mem_replicate isByte) (by decide)

theorem length_longRequest : longRequest.data.length = maxScanTokenSize :=
  List.length_replicate

def shortRequest : ServerEvent where
  eventType := requestType
  data := GoString.ofText "GET"
  typeInLine := by decide
  dataInLine := by decide

/-- The long request is not handled, and neither is the short one after it: the loop ends
with an error of the scanner. -/
theorem long_request_ends_stream :
    handleSSEEvents (streamOf [longRequest, shortRequest]) =
        ([], .readError (GoString.ofText "bufio.Scanner: token too long")) ∧
      ¬ HandledInOrder [longRequest, shortRequest]
        (handleSSEEvents (streamOf [longRequest, shortRequest])) := by
  have tooLong : ¬ ((eventField ++ longRequest.eventType).length < maxScanTokenSize ∧
      (dataField ++ longRequest.data).length < maxScanTokenSize) := by
    rintro ⟨-, dataFits⟩
    rw [List.length_append, length_longRequest] at dataFits
    exact absurd dataFits (Nat.not_lt.mpr (Nat.le_add_left _ _))
  have ended : handleSSEEvents (streamOf [longRequest, shortRequest]) =
      ([], .readError (GoString.ofText "bufio.Scanner: token too long")) := by
    rw [handleSSEEvents_streamOf]
    exact readEvents_of_tooLong tooLong
  refine ⟨ended, ?_⟩
  intro handled
  have ends := handled.ends
  rw [ended, if_neg ?_] at ends
  · cases ends
  · rintro ⟨event, isEvent, isError⟩
    have isRequest : event.eventType = requestType := by
      rcases List.mem_cons.mp isEvent with rfl | isEvent
      · rfl
      · rw [List.mem_singleton.mp isEvent]
        rfl
    exact absurd (isRequest.symm.trans isError) (by decide)

end KubeLB.Cli.Tunnel
