import KubeLB.Library.Utf8
import Mathlib.Data.List.TakeWhile

/-!
Contract: where the requests of a tunnel go, and which response is sent back.

Owns: `forwardToLocalService` with the path check and the URL that it builds, the hosts
that its client contacts while it follows redirects, the message for the server, and the
requests for which the first response of the local service is the one that is sent.

Does not own: the functions of the Go library on texts, which are parameters, and the
sending of the message.
-/

set_option autoImplicit false

namespace KubeLB.Cli.Tunnel

open KubeLB.Library

/-! ## Messages -/

/-- `HTTPRequest`, with the headers in the order of the `range` loop. -/
structure HTTPRequest where
  requestID : GoString
  method : GoString
  path : GoString
  headers : List (GoString × GoString)
  body : GoString
  deriving DecidableEq, Repr

structure HTTPResponse where
  requestID : GoString
  statusCode : Nat
  headers : List (GoString × GoString)
  body : GoString
  deriving DecidableEq, Repr

structure OutgoingRequest where
  method : GoString
  url : GoString
  headers : List (GoString × GoString)
  body : GoString
  deriving DecidableEq, Repr

/-- A response with its header lines, and what reading its body gives. -/
structure LocalResponse where
  status : Nat
  headers : List (GoString × List GoString)
  body : Except GoString GoString

/-- The answer to each exchange of a run, an error if no response arrives. The service can
change from one exchange to the next. -/
abbrev Network := Nat → OutgoingRequest → Except GoString LocalResponse

/-- What is taken from the Go library. -/
structure HttpLibrary where
  decodeBase64 : GoString → Except GoString GoString
  encodeBase64 : GoString → GoString
  /-- `http.CanonicalHeaderKey`. -/
  canonicalKey : GoString → GoString
  /-- The error of `http.NewRequest` for a method and a URL. -/
  requestError : GoString → GoString → Option GoString
  /-- A location as seen from a URL, an error if it cannot be parsed or requested. -/
  resolve : GoString → GoString → Except GoString GoString
  /-- The headers of the request that follows a redirect to a URL. -/
  hopHeaders : OutgoingRequest → GoString → List (GoString × GoString)

/-! ## Addresses -/

def slash : UInt8 := 47

def authorityOf (url : GoString) : GoString :=
  let beforeFragment := url.takeWhile (· ≠ 35)
  let afterScheme := (beforeFragment.dropWhile (· ≠ 58)).drop 3
  let beforeQuery := afterScheme.takeWhile (· ≠ 63)
  let authority := beforeQuery.takeWhile (· ≠ slash)
  -- user information ends with the last at sign
  (authority.reverse.takeWhile (· ≠ 64)).reverse

def portText (port : Nat) : GoString := GoString.ofText (toString port)

def localAuthority (port : Nat) : GoString := GoString.ofText "localhost:" ++ portText port

def localURL (port : Nat) (path : GoString) : GoString :=
  GoString.ofText "http://localhost:" ++ portText port ++ path

/-! ## The request -/

/-- `Header.Set`. -/
def setHeader (library : HttpLibrary) (headers : List (GoString × GoString))
    (entry : GoString × GoString) : List (GoString × GoString) :=
  let key := library.canonicalKey entry.1
  headers.filter (fun header => header.1 ≠ key) ++ [(key, entry.2)]

/-- The request that is made for the local service, or the text of the error that is sent
instead. -/
def outgoing (library : HttpLibrary) (port : Nat) (request : HTTPRequest) :
    Except GoString OutgoingRequest :=
  match library.decodeBase64 request.body with
  | .error error => .error (GoString.ofText "Invalid request body: " ++ error)
  | .ok body =>
      if ¬ [slash] <+: request.path ∨ [slash, slash] <+: request.path then
        .error (GoString.ofText "Invalid request path")
      else
        match library.requestError request.method (localURL port request.path) with
        | some error => .error (GoString.ofText "Invalid request: " ++ error)
        | none =>
            .ok {
              method := if request.method = [] then GoString.ofText "GET" else request.method
              url := localURL port request.path
              headers := request.headers.foldl (setHeader library) []
              body }

/-! ## Redirects -/

/-- `Header.Get`. -/
def LocalResponse.header (response : LocalResponse) (key : GoString) : GoString :=
  ((response.headers.lookup key).bind List.head?).getD []

def LocalResponse.location (response : LocalResponse) : GoString :=
  response.header (GoString.ofText "Location")

/-- The client does not return the response but follows it. The body of the request can be
sent again, so 307 and 308 are followed as well. -/
def LocalResponse.isFollowed (response : LocalResponse) : Bool :=
  decide (response.status ∈ [301, 302, 303, 307, 308]) && decide (response.location ≠ [])

def OutgoingRequest.redirected (library : HttpLibrary) (request : OutgoingRequest) (status : Nat)
    (url : GoString) : OutgoingRequest where
  method :=
    if status = 307 ∨ status = 308 ∨ request.method = GoString.ofText "GET" ∨
        request.method = GoString.ofText "HEAD" then request.method
    else GoString.ofText "GET"
  url := url
  headers := library.hopHeaders request url
  body := if status = 307 ∨ status = 308 then request.body else []

/-- What the message for the server is made of. -/
inductive Reported where
  | rejected (text : GoString)
  | failed (error : GoString)
  | relayed (response : LocalResponse)

def maxRedirects : Nat := 9

/-- `Client.Do` with the number of redirects that are left: the hosts that are contacted and
what is returned. -/
def doRequest (library : HttpLibrary) (network : Network) :
    Nat → Nat → OutgoingRequest → List GoString × Reported
  | left, exchange, request =>
      match network exchange request with
      | .error error => ([authorityOf request.url], .failed error)
      | .ok response =>
          if response.isFollowed then
            match library.resolve request.url response.location, left with
            | .error error, _ => ([authorityOf request.url], .failed error)
            | .ok _, 0 =>
                ([authorityOf request.url],
                  .failed (GoString.ofText "stopped after 10 redirects"))
            | .ok url, left + 1 =>
                let rest := doRequest library network left (exchange + 1)
                  (request.redirected library response.status url)
                (authorityOf request.url :: rest.1, rest.2)
          else ([authorityOf request.url], .relayed response)

/-! ## The response -/

def hopByHopHeaders : List GoString :=
  ["Connection", "Keep-Alive", "Proxy-Authenticate", "Proxy-Authorization", "Te", "Trailers",
    "Transfer-Encoding", "Upgrade"].map GoString.ofText

def relayedHeaders (headers : List (GoString × List GoString)) : List (GoString × GoString) :=
  headers.filterMap fun header =>
    if header.1 ∈ hopByHopHeaders ∨ header.2 = [] then none
    else some (header.1, (GoString.ofText ", ").intercalate header.2)

/-- The message of `sendError`. -/
def errorResponse (library : HttpLibrary) (requestID text : GoString) : HTTPResponse where
  requestID := requestID
  statusCode := 500
  headers := [(GoString.ofText "Content-Type", GoString.ofText "text/plain")]
  body := library.encodeBase64 text

def Reported.message (library : HttpLibrary) (requestID : GoString) : Reported → HTTPResponse
  | rejected text => errorResponse library requestID text
  | failed error =>
      errorResponse library requestID (GoString.ofText "Request failed: " ++ error)
  | relayed response =>
      match response.body with
      | .error error =>
          errorResponse library requestID (GoString.ofText "Failed to read response: " ++ error)
      | .ok body =>
          { requestID
            statusCode := response.status
            headers := relayedHeaders response.headers
            body := library.encodeBase64 body }

/-- The hosts that are contacted for a request, and what is reported for it. -/
def forward (library : HttpLibrary) (network : Network) (port : Nat) (request : HTTPRequest) :
    List GoString × Reported :=
  match outgoing library port request with
  | .error text => ([], .rejected text)
  | .ok outgoingRequest => doRequest library network maxRedirects 0 outgoingRequest

/-- `forwardToLocalService`: the hosts that are contacted, and the message that is sent. -/
def forwardToLocalService (library : HttpLibrary) (network : Network) (port : Nat)
    (request : HTTPRequest) : List GoString × HTTPResponse :=
  let run := forward library network port request
  (run.1, run.2.message library request.requestID)

/-! ## Requests that stay local -/

/-- The network in which the first exchange is answered as given. -/
def Network.startingWith (first : OutgoingRequest → Except GoString LocalResponse)
    (later : Network) : Network
  | 0 => first
  | exchange + 1 => later exchange

/-- Given the answer to the first exchange and whatever happens then, only the local service
is contacted, and if it answers, the message has the status, the headers and the body of
this answer. -/
def ForwardsLocally (library : HttpLibrary)
    (first : OutgoingRequest → Except GoString LocalResponse) (port : Nat)
    (request : HTTPRequest) : Prop :=
  ∀ later : Network,
    let run := forwardToLocalService library (.startingWith first later) port request
    (∀ authority ∈ run.1, authority = localAuthority port) ∧
      ∀ outgoingRequest response, outgoing library port request = .ok outgoingRequest →
        first outgoingRequest = .ok response →
        ∃ body, response.body = .ok body ∧ run.2 =
          { requestID := request.requestID
            statusCode := response.status
            headers := relayedHeaders response.headers
            body := library.encodeBase64 body }

theorem isDigit_of_mem_portText {port : Nat} {byte : UInt8} (member : byte ∈ portText port) :
    48 ≤ byte.toNat ∧ byte.toNat ≤ 57 := by
  have digits : ∀ char ∈ (toString port).toList, 48 ≤ char.toNat ∧ char.toNat ≤ 57 := by
    intro char member
    rw [Nat.toString_eq_ofList_toDigits, String.toList_ofList] at member
    have digit := Nat.isDigit_of_mem_toDigits (by decide) (by decide) member
    rw [Char.isDigit, Bool.and_eq_true, decide_eq_true_eq, decide_eq_true_eq] at digit
    exact ⟨UInt32.le_iff_toNat_le.mp digit.1, UInt32.le_iff_toNat_le.mp digit.2⟩
  rw [portText, GoString.ofText_of_ascii (fun char member => by have := digits char member; omega),
    List.mem_map] at member
  obtain ⟨char, isChar, rfl⟩ := member
  have isDigit := digits char isChar
  rw [UInt8.toNat_ofNat', Nat.mod_eq_of_lt (by omega)]
  exact isDigit

theorem takeWhile_ne_append {byte : UInt8} {front : GoString} (rest : GoString)
    (notMem : byte ∉ front) :
    (front ++ rest).takeWhile (· ≠ byte) = front ++ rest.takeWhile (· ≠ byte) := by
  refine List.takeWhile_append_of_pos ?_
  intro other isOther
  rw [decide_eq_true_eq]
  rintro rfl
  exact notMem isOther

theorem notMem_localAuthority {port : Nat} {byte : UInt8}
    (notDigit : byte.toNat < 48 ∨ 57 < byte.toNat)
    (notMem : byte ∉ GoString.ofText "localhost:") : byte ∉ localAuthority port := by
  rw [localAuthority, List.mem_append, not_or]
  refine ⟨notMem, fun member => ?_⟩
  have digit := isDigit_of_mem_portText member
  omega

/-- The path of a request cannot move the authority of its URL. -/
theorem authorityOf_localURL (port : Nat) {path : GoString} (absolute : [slash] <+: path) :
    authorityOf (localURL port path) = localAuthority port := by
  obtain ⟨rest, rfl⟩ := absolute
  have isURL : localURL port ([slash] ++ rest) =
      GoString.ofText "http" ++ 58 :: slash :: slash :: (localAuthority port ++ slash :: rest) := by
    rw [localURL, localAuthority, List.append_assoc, List.append_assoc]
    rfl
  have noFragment : 35 ∉ localAuthority port := notMem_localAuthority (by decide) (by decide)
  have noQuery : 63 ∉ localAuthority port := notMem_localAuthority (by decide) (by decide)
  have noSlash : slash ∉ localAuthority port := notMem_localAuthority (by decide) (by decide)
  have noUser : 64 ∉ (localAuthority port).reverse :=
    List.mem_reverse.not.mpr (notMem_localAuthority (by decide) (by decide))
  have fragment : (localURL port ([slash] ++ rest)).takeWhile (· ≠ 35) =
      GoString.ofText "http" ++ 58 :: slash :: slash ::
        (localAuthority port ++ slash :: rest.takeWhile (· ≠ 35)) := by
    rw [isURL, takeWhile_ne_append _ (by decide)]
    simp only [List.takeWhile_cons, slash]
    rw [takeWhile_ne_append _ noFragment]
    rfl
  have scheme (tail : GoString) :
      ((GoString.ofText "http" ++ 58 :: slash :: slash :: tail).dropWhile (· ≠ 58)).drop 3 = tail :=
    rfl
  have query (tail : GoString) : (localAuthority port ++ slash :: tail).takeWhile (· ≠ 63) =
      localAuthority port ++ slash :: tail.takeWhile (· ≠ 63) := by
    rw [takeWhile_ne_append _ noQuery]
    rfl
  have path (tail : GoString) : (localAuthority port ++ slash :: tail).takeWhile (· ≠ slash) =
      localAuthority port := by
    rw [takeWhile_ne_append _ noSlash, List.takeWhile_cons_of_neg (by simp), List.append_nil]
  have user : (localAuthority port).reverse.takeWhile (· ≠ 64) = (localAuthority port).reverse := by
    have whole := takeWhile_ne_append [] noUser
    rwa [List.takeWhile_nil, List.append_nil] at whole
  rw [authorityOf, fragment, scheme, query, path, user, List.reverse_reverse]

theorem authorityOf_outgoing {library : HttpLibrary} {port : Nat} {request : HTTPRequest}
    {outgoingRequest : OutgoingRequest}
    (isOutgoing : outgoing library port request = .ok outgoingRequest) :
    authorityOf outgoingRequest.url = localAuthority port := by
  unfold outgoing at isOutgoing
  split at isOutgoing
  · cases isOutgoing
  · split at isOutgoing
    · cases isOutgoing
    · rename_i plain
      rw [not_or, not_not] at plain
      split at isOutgoing
      · cases isOutgoing
      · cases isOutgoing
        exact authorityOf_localURL port plain.1

/-! ## Following redirects -/

section Redirects

variable {library : HttpLibrary} {network : Network} {left exchange : Nat}
  {request : OutgoingRequest} {response : LocalResponse}

theorem doRequest_of_error {error : GoString} (answer : network exchange request = .error error) :
    doRequest library network left exchange request =
      ([authorityOf request.url], .failed error) := by
  unfold doRequest
  rw [answer]

theorem doRequest_of_final (answer : network exchange request = .ok response)
    (final : response.isFollowed = false) :
    doRequest library network left exchange request =
      ([authorityOf request.url], .relayed response) := by
  unfold doRequest
  rw [answer]
  simp only [final, Bool.false_eq_true, ↓reduceIte]

theorem doRequest_of_followed (answer : network exchange request = .ok response)
    (followed : response.isFollowed = true) :
    (∃ error, (doRequest library network left exchange request).2 = .failed error) ∨
      ∃ fewer next, (doRequest library network left exchange request).2 =
        (doRequest library network fewer (exchange + 1) next).2 := by
  rw [doRequest.eq_def library network left exchange request]
  simp only [answer, followed, ↓reduceIte]
  split
  · exact .inl ⟨_, rfl⟩
  · exact .inl ⟨_, rfl⟩
  · exact .inr ⟨_, _, rfl⟩

theorem exists_failed_of_followed (answer : network exchange request = .ok response)
    (followed : response.isFollowed = true)
    (silent : ∀ next, network (exchange + 1) next = .error []) :
    ∃ error, (doRequest library network left exchange request).2 = .failed error := by
  rcases @doRequest_of_followed library network left exchange request response answer followed with
    failed | ⟨fewer, next, same⟩
  · exact failed
  · exact ⟨[], by rw [same, doRequest_of_error (silent next)]⟩

end Redirects

theorem forwardToLocalService_of_outgoing {library : HttpLibrary} {port : Nat}
    {request : HTTPRequest} {made : OutgoingRequest}
    (isOutgoing : outgoing library port request = .ok made) (network : Network) :
    forwardToLocalService library network port request =
      ((doRequest library network maxRedirects 0 made).1,
        (doRequest library network maxRedirects 0 made).2.message library request.requestID) := by
  rw [forwardToLocalService, forward, isOutgoing]

/-- The status of a response that is followed is not that of the client's own errors. -/
theorem status_ne_of_followed {response : LocalResponse} (followed : response.isFollowed = true) :
    response.status ≠ 500 := by
  rw [LocalResponse.isFollowed, Bool.and_eq_true, decide_eq_true_eq] at followed
  intro status
  rw [status] at followed
  exact absurd followed.1 (by decide)

/-- A request stays local exactly if the local service does not answer it with a redirect
that the client follows, and the body of its answer can be read to the end. -/
theorem forwardsLocally_iff (library : HttpLibrary)
    (first : OutgoingRequest → Except GoString LocalResponse) (port : Nat)
    (request : HTTPRequest) :
    ForwardsLocally library first port request ↔
      ∀ outgoingRequest response, outgoing library port request = .ok outgoingRequest →
        first outgoingRequest = .ok response →
        ¬ (response.status ∈ [301, 302, 303, 307, 308] ∧ response.location ≠ []) ∧
          ∃ body, response.body = .ok body := by
  have followed_iff (response : LocalResponse) : response.isFollowed = true ↔
      response.status ∈ [301, 302, 303, 307, 308] ∧ response.location ≠ [] := by
    rw [LocalResponse.isFollowed, Bool.and_eq_true, decide_eq_true_eq, decide_eq_true_eq]
  simp only [← followed_iff, Bool.not_eq_true]
  constructor
  · intro forwards made response isOutgoing answer
    obtain ⟨body, isBody, message⟩ :=
      (forwards fun _ _ => .error []).2 made response isOutgoing answer
    refine ⟨?_, body, isBody⟩
    by_contra notFinal
    have followed := (Bool.not_eq_false _).mp notFinal
    -- the message of the client's own error takes the place of the redirect
    obtain ⟨error, failed⟩ := @exists_failed_of_followed library
      (.startingWith first fun _ _ => .error []) maxRedirects 0 made response answer followed
      (fun _ => rfl)
    rw [forwardToLocalService_of_outgoing isOutgoing, failed] at message
    exact status_ne_of_followed followed (congrArg HTTPResponse.statusCode message).symm
  · intro final later
    cases isOutgoing : outgoing library port request with
    | error text =>
        refine ⟨?_, fun made response isRequest => by cases isRequest⟩
        rw [forwardToLocalService, forward, isOutgoing]
        exact fun authority isContacted => absurd isContacted List.not_mem_nil
    | ok made =>
        have isLocal := authorityOf_outgoing isOutgoing
        rw [forwardToLocalService_of_outgoing isOutgoing]
        cases answer : first made with
        | error error =>
            rw [doRequest_of_error answer]
            refine ⟨fun authority isContacted => ?_, fun other response isRequest isAnswer => ?_⟩
            · rw [List.mem_singleton.mp isContacted, isLocal]
            · cases isRequest
              rw [answer] at isAnswer
              cases isAnswer
        | ok response =>
            obtain ⟨notFollowed, body, isBody⟩ := final made response isOutgoing answer
            rw [doRequest_of_final answer notFollowed]
            refine ⟨fun authority isContacted => ?_, fun other response' isRequest isAnswer => ?_⟩
            · rw [List.mem_singleton.mp isContacted, isLocal]
            · cases isRequest
              rw [answer] at isAnswer
              cases isAnswer
              exact ⟨body, isBody, by simp only [Reported.message, isBody]⟩

/-! ## A local service that redirects -/

/-- The functions of the library on the texts of the run below. -/
def plainLibrary : HttpLibrary where
  decodeBase64 text := .ok text
  encodeBase64 text := text
  canonicalKey key := key
  requestError _ _ := none
  resolve _ location := .ok location
  hopHeaders request _ := request.headers

def metadataURL : GoString := GoString.ofText "http://169.254.169.254/latest/meta-data/"

/-- A local service that redirects to the metadata service of the machine. -/
def redirectToMetadata (_ : OutgoingRequest) : Except GoString LocalResponse :=
  .ok {
    status := 302
    headers := [(GoString.ofText "Location", [metadataURL])]
    body := .ok [] }

def metadataService : Network :=
  fun _ _ => .ok { status := 200, headers := [], body := .ok (GoString.ofText "secret") }

def loginRequest : HTTPRequest where
  requestID := GoString.ofText "r1"
  method := GoString.ofText "GET"
  path := GoString.ofText "/login"
  headers := []
  body := []

/-- The client contacts the other host and sends its response to the server. -/
theorem redirect_leaves_localhost :
    forwardToLocalService plainLibrary (.startingWith redirectToMetadata metadataService) 8080
          loginRequest =
        ([GoString.ofText "localhost:8080", GoString.ofText "169.254.169.254"],
          { requestID := GoString.ofText "r1", statusCode := 200, headers := []
            body := GoString.ofText "secret" }) ∧
      ¬ ForwardsLocally plainLibrary redirectToMetadata 8080 loginRequest := by
  have run : forwardToLocalService plainLibrary (.startingWith redirectToMetadata metadataService)
        8080 loginRequest =
      ([GoString.ofText "localhost:8080", GoString.ofText "169.254.169.254"],
        { requestID := GoString.ofText "r1", statusCode := 200, headers := []
          body := GoString.ofText "secret" }) := by
    decide +kernel
  refine ⟨run, fun forwards => ?_⟩
  have isLocal := (forwards metadataService).1 (GoString.ofText "169.254.169.254")
  rw [run] at isLocal
  exact absurd (isLocal (by simp)) (by decide +kernel)

end KubeLB.Cli.Tunnel
