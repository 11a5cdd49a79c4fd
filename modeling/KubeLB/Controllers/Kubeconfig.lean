import KubeLB.Library.Base64
import KubeLB.Library.GoMap
import KubeLB.Library.Lines
import KubeLB.Library.Separators

/-!
Contract: the kubeconfig that a tenant gets.

Owns: `generateKubeconfig` with the choice of the server URL, the template with the escaping of
`html/template`, the fields for which the text is the template with these fields put in as they
are, and that it can be read back then.

Does not own: the parsing of addresses and of the kubeconfig of `cluster-info`, and YAML.
-/

set_option autoImplicit false

namespace KubeLB.Controllers

open KubeLB.Library

/-! ## Escaping -/

/-- The replacement of `html/template` for a byte in a text. -/
def escapeByte (byte : UInt8) : GoString :=
  if byte = 0 then [0xEF, 0xBF, 0xBD]
  else if byte = 34 then GoString.ofText "&#34;"
  else if byte = 38 then GoString.ofText "&amp;"
  else if byte = 39 then GoString.ofText "&#39;"
  else if byte = 43 then GoString.ofText "&#43;"
  else if byte = 60 then GoString.ofText "&lt;"
  else if byte = 62 then GoString.ofText "&gt;"
  else [byte]

def htmlEscape (text : GoString) : GoString := text.flatMap escapeByte

def Plain (text : GoString) : Prop :=
  ∀ byte ∈ text, byte ∉ ([0, 34, 38, 39, 43, 60, 62] : List UInt8)

instance (text : GoString) : Decidable (Plain text) :=
  List.decidableBAll _ text

/-! ## The template -/

/-- The data of the template. -/
structure KubeconfigFields where
  caCertificate : GoString
  token : GoString
  ns : GoString
  serverURL : GoString
  deriving DecidableEq, Repr

def caLabel : GoString := GoString.ofText "    certificate-authority-data: "
def serverLabel : GoString := GoString.ofText "    server: "
def namespaceLabel : GoString := GoString.ofText "    namespace: "
def tokenLabel : GoString := GoString.ofText "    token: "

/-- The lines of `kubeconfigTemplate`; it ends with a line break. -/
def kubeconfigLines (print : GoString → GoString) (fields : KubeconfigFields) : List GoString :=
  [GoString.ofText "apiVersion: v1", GoString.ofText "kind: Config", GoString.ofText "clusters:",
    GoString.ofText "- name: kubelb-cluster", GoString.ofText "  cluster:",
    caLabel ++ print fields.caCertificate, serverLabel ++ print fields.serverURL,
    GoString.ofText "contexts:", GoString.ofText "- name: default-context",
    GoString.ofText "  context:", GoString.ofText "    cluster: kubelb-cluster",
    namespaceLabel ++ print fields.ns, GoString.ofText "    user: default-user",
    GoString.ofText "current-context: default-context", GoString.ofText "users:",
    GoString.ofText "- name: default-user", GoString.ofText "  user:",
    tokenLabel ++ print fields.token, []]

def kubeconfigText (print : GoString → GoString) (fields : KubeconfigFields) : GoString :=
  List.intercalate [newline] (kubeconfigLines print fields)

/-! ## The sources -/

/-- `discoveryv1.EndpointPort`. -/
structure EndpointSlicePort where
  name : Option String
  port : Option Int
  deriving DecidableEq, Repr

/-- `discoveryv1.EndpointSlice`: the addresses of each endpoint, and the ports. -/
structure EndpointSlice where
  endpoints : List (List String)
  ports : List EndpointSlicePort
  deriving DecidableEq, Repr

/-- What `generateKubeconfig` reads. -/
structure KubeconfigSources where
  /-- `Config.Host` of the manager. -/
  host : GoString
  /-- The data of the token Secret of the tenant. -/
  tokenSecret : Except String (GoMap String GoString)
  /-- The servers of the clusters that `getKubeconfigFromConfigMap` returns, in the order of the
  `range` loop. -/
  clusterInfo : Except String (List GoString)
  /-- The EndpointSlice `kubernetes`. -/
  endpointSlice : Except String EndpointSlice
  /-- The text of the address that `net.ParseIP` returns. -/
  parseIP : String → Option String

def joinHostPort (host port : String) : String :=
  if ':' ∈ host.toList then "[" ++ host ++ "]:" ++ port else host ++ ":" ++ port

/-- `buildKubeconfigFromEndpoint`: the server of its only cluster. -/
def buildKubeconfigFromEndpoint (sources : KubeconfigSources) : Except String (List GoString) := do
  let endpointSlice ← sources.endpointSlice
  match endpointSlice.endpoints with
  | [] => .error "no endpoints in the kubernetes endpointslice resource"
  | [] :: _ =>
      .error "no addresses in the first endpoint of the kubernetes endpointslice resource"
  | (address :: _) :: _ =>
      match sources.parseIP address with
      | none => .error "could not parse ip from endpoint address"
      | some ip =>
          match (endpointSlice.ports.find? (·.name = some "https")).bind (·.port) with
          | none => .error "no secure port in the endpointslice"
          | some port =>
              .ok [GoString.ofText ("https://" ++ joinHostPort ip (toString port))]

def getKubeconfig (sources : KubeconfigSources) : Except String (List GoString) :=
  match sources.clusterInfo with
  | .ok servers => .ok servers
  | .error _ => buildKubeconfigFromEndpoint sources

def rootCAKey : String := "ca.crt"
def tokenKey : String := "token"

/-- The data that `generateKubeconfig` gives to the template. -/
def kubeconfigFields (sources : KubeconfigSources) (ns : GoString) :
    Except String KubeconfigFields := do
  let data ← sources.tokenSecret.mapError ("failed to get ServiceAccount token Secret: " ++ ·)
  let servers ← (getKubeconfig sources).mapError
    ("failed to compute the server URL for kubeconfig: " ++ ·)
  let ca := (data.lookup rootCAKey).getD []
  let token := (data.lookup tokenKey).getD []
  let fields : KubeconfigFields :=
    { caCertificate := Base64.encode ca
      token := token
      ns := ns
      serverURL := (servers.find? (· ≠ [])).getD sources.host }
  if token = [] then .error "failed to get ServiceAccount token"
  else if ca = [] then .error "failed to get CA certificate"
  else .ok fields

def generateKubeconfig (sources : KubeconfigSources) (ns : GoString) : Except String GoString :=
  (kubeconfigFields sources ns).map (kubeconfigText htmlEscape)

/-! ## Fields as they are -/

theorem length_escapeByte (byte : UInt8) :
    if byte ∈ ([0, 34, 38, 39, 43, 60, 62] : List UInt8) then 1 < (escapeByte byte).length
    else escapeByte byte = [byte] := by
  have all : ∀ value < 256, if UInt8.ofNat value ∈ ([0, 34, 38, 39, 43, 60, 62] : List UInt8) then
      1 < (escapeByte (UInt8.ofNat value)).length
      else escapeByte (UInt8.ofNat value) = [UInt8.ofNat value] := by
    decide +kernel
  have := all byte.toNat byte.toNat_lt
  rwa [UInt8.ofNat_toNat] at this

/-- Escaping makes a text longer, unless it leaves it as it is. -/
theorem htmlEscape_cases (text : GoString) :
    if Plain text then htmlEscape text = text else text.length < (htmlEscape text).length := by
  induction text with
  | nil =>
      have plain : Plain [] := fun byte isByte => absurd isByte List.not_mem_nil
      rw [if_pos plain]
      rfl
  | cons byte rest ih =>
      have first := length_escapeByte byte
      have isCons : htmlEscape (byte :: rest) = escapeByte byte ++ htmlEscape rest := rfl
      have plain_cons : Plain (byte :: rest) ↔
          byte ∉ ([0, 34, 38, 39, 43, 60, 62] : List UInt8) ∧ Plain rest := by
        rw [Plain, List.forall_mem_cons]
        rfl
      have restLength : rest.length ≤ (htmlEscape rest).length := by
        split at ih
        · rw [ih]
        · omega
      by_cases isSpecial : byte ∈ ([0, 34, 38, 39, 43, 60, 62] : List UInt8)
      · rw [if_pos isSpecial] at first
        rw [if_neg (fun plain => (plain_cons.mp plain).1 isSpecial), isCons, List.length_append,
          List.length_cons]
        omega
      · rw [if_neg isSpecial] at first
        rw [isCons, first]
        by_cases plainRest : Plain rest
        · rw [if_pos plainRest] at ih
          rw [if_pos (plain_cons.mpr ⟨isSpecial, plainRest⟩), ih]
          rfl
        · rw [if_neg plainRest] at ih
          rw [if_neg (fun plain => plainRest (plain_cons.mp plain).2), List.length_append,
            List.length_cons, List.length_singleton]
          omega

theorem htmlEscape_of_plain {text : GoString} (plain : Plain text) : htmlEscape text = text := by
  have cases := htmlEscape_cases text
  rwa [if_pos plain] at cases

theorem plain_of_length_le {text : GoString} (short : (htmlEscape text).length ≤ text.length) :
    Plain text := by
  by_contra notPlain
  have cases := htmlEscape_cases text
  rw [if_neg notPlain] at cases
  omega

theorem length_le_htmlEscape (text : GoString) : text.length ≤ (htmlEscape text).length := by
  have cases := htmlEscape_cases text
  split at cases
  · rw [cases]
  · omega

/-- The text has the fields as they are exactly when none of them has a byte that is replaced:
otherwise it is longer. -/
theorem kubeconfigText_eq_iff {fields : KubeconfigFields} :
    kubeconfigText htmlEscape fields = kubeconfigText id fields ↔
      Plain fields.caCertificate ∧ Plain fields.serverURL ∧ Plain fields.ns ∧
        Plain fields.token := by
  constructor
  · intro same
    have lengths := congrArg List.length same
    simp only [kubeconfigText, kubeconfigLines, List.intercalate, List.intersperse_cons_cons,
      List.intersperse_singleton, List.flatten_cons, List.flatten_nil, List.length_append,
      List.length_cons, List.length_nil, id_eq] at lengths
    have ca := length_le_htmlEscape fields.caCertificate
    have server := length_le_htmlEscape fields.serverURL
    have ns := length_le_htmlEscape fields.ns
    have token := length_le_htmlEscape fields.token
    refine ⟨plain_of_length_le ?_, plain_of_length_le ?_, plain_of_length_le ?_,
      plain_of_length_le ?_⟩ <;> omega
  · rintro ⟨ca, server, ns, token⟩
    simp only [kubeconfigText, kubeconfigLines, htmlEscape_of_plain ca, htmlEscape_of_plain server,
      htmlEscape_of_plain ns, htmlEscape_of_plain token, id_eq]

theorem plain_encode_iff {bytes : GoString} :
    Plain (Base64.encode bytes) ↔ Base64.plus ∉ Base64.encode bytes := by
  constructor
  · intro plain isPlus
    exact plain _ isPlus (by decide)
  · intro noPlus byte isByte isSpecial
    have isEncoded := Base64.isEncoded_of_mem_encode isByte
    have special : ∀ special ∈ ([0, 34, 38, 39, 43, 60, 62] : List UInt8),
        Base64.IsEncoded special → special = Base64.plus := by
      intro special member
      unfold Base64.IsEncoded
      simp only [List.mem_cons, List.not_mem_nil, or_false] at member
      rcases member with rfl | rfl | rfl | rfl | rfl | rfl | rfl <;> decide
    exact noPlus (special byte isSpecial isEncoded ▸ isByte)

structure FieldsOf (data : GoMap String GoString) (ns : GoString) (fields : KubeconfigFields) :
    Prop where
  ca : fields.caCertificate = Base64.encode ((data.lookup rootCAKey).getD [])
  hasCA : (data.lookup rootCAKey).getD [] ≠ []
  token : fields.token = (data.lookup tokenKey).getD []
  hasToken : (data.lookup tokenKey).getD [] ≠ []
  ns : fields.ns = ns

theorem kubeconfigFields_spec {sources : KubeconfigSources} {ns : GoString}
    {data : GoMap String GoString} {fields : KubeconfigFields}
    (isSecret : sources.tokenSecret = .ok data)
    (isFields : kubeconfigFields sources ns = .ok fields) : FieldsOf data ns fields := by
  simp only [kubeconfigFields, isSecret, Except.mapError, bind, Except.bind] at isFields
  split at isFields
  · cases isFields
  · split at isFields
    · cases isFields
    · next hasToken =>
        split at isFields
        · cases isFields
        · next hasCA =>
            cases isFields
            exact ⟨rfl, hasCA, rfl, hasToken, rfl⟩

/-- `generateKubeconfig` returns the template with the fields as they are exactly when the CA has
no greater-than sign and no tilde in every third place, and no other field has a byte that
`html/template` replaces. A CA in PEM never has one. -/
theorem generateKubeconfig_verbatim_iff {sources : KubeconfigSources} {ns : GoString}
    {data : GoMap String GoString} {fields : KubeconfigFields}
    (isSecret : sources.tokenSecret = .ok data)
    (isFields : kubeconfigFields sources ns = .ok fields)
    (ascii : ∀ byte ∈ (data.lookup rootCAKey).getD [], GoString.IsAscii byte) :
    generateKubeconfig sources ns = .ok (kubeconfigText id fields) ↔
      (∀ index byte, index % 3 = 2 → ((data.lookup rootCAKey).getD [])[index]? = some byte →
        byte ≠ 62 ∧ byte ≠ 126) ∧
      Plain fields.serverURL ∧ Plain fields.ns ∧ Plain fields.token := by
  have isCA := (kubeconfigFields_spec isSecret isFields).ca
  rw [generateKubeconfig, isFields]
  change Except.ok _ = Except.ok _ ↔ _
  rw [Except.ok.injEq, kubeconfigText_eq_iff, isCA, plain_encode_iff,
    Base64.plus_mem_encode_iff ascii]
  refine and_congr_left (fun _ => ?_)
  constructor
  · intro none index byte isPlace isByte
    rw [← not_or]
    exact fun isSign => none ⟨index, byte, isPlace, isByte, isSign⟩
  · rintro none ⟨index, byte, isPlace, isByte, isSign⟩
    exact not_or.mpr (none index byte isPlace isByte) isSign

def acmeToken : GoMap String GoString :=
  Finmap.insert rootCAKey (GoString.ofText "CERTIFICATE")
    (Finmap.singleton tokenKey (GoString.ofText "t"))

def acmeSources : KubeconfigSources where
  host := []
  tokenSecret := .ok acmeToken
  clusterInfo := .ok [[], GoString.ofText "https://lb.example.com"]
  endpointSlice := .error "not found"
  parseIP _ := none

def acmeFields : KubeconfigFields where
  caCertificate := Base64.encode (GoString.ofText "CERTIFICATE")
  token := GoString.ofText "t"
  ns := GoString.ofText "tenant-acme"
  serverURL := GoString.ofText "https://lb.example.com"

theorem acme_kubeconfig_verbatim :
    generateKubeconfig acmeSources (GoString.ofText "tenant-acme") =
      .ok (kubeconfigText id acmeFields) := by
  have isFields :
      kubeconfigFields acmeSources (GoString.ofText "tenant-acme") = .ok acmeFields := by
    decide +kernel
  have isCA : (acmeToken.lookup rootCAKey).getD [] = GoString.ofText "CERTIFICATE" := by
    decide +kernel
  have ascii : ∀ byte ∈ GoString.ofText "CERTIFICATE", GoString.IsAscii byte := by decide +kernel
  have noSign : ∀ byte ∈ GoString.ofText "CERTIFICATE", byte ≠ 62 ∧ byte ≠ 126 := by
    decide +kernel
  refine (generateKubeconfig_verbatim_iff rfl isFields ?_).mpr ⟨?_, ?_, ?_, ?_⟩
  · rwa [isCA]
  · intro index byte _ isByte
    rw [isCA] at isByte
    exact noSign byte (List.mem_of_getElem? isByte)
  all_goals decide +kernel

/-! ## Reading it back -/

def fieldOf (label text : GoString) : Option GoString :=
  ((text.splitOn newline).find? (fun line => label.isPrefixOf line)).map (·.drop label.length)

theorem splitOn_kubeconfigText {fields : KubeconfigFields}
    (ca : newline ∉ fields.caCertificate) (server : newline ∉ fields.serverURL)
    (ns : newline ∉ fields.ns) (token : newline ∉ fields.token) :
    (kubeconfigText id fields).splitOn newline = kubeconfigLines id fields := by
  have labelled {label field : GoString} (inLabel : newline ∉ label) (inField : newline ∉ field) :
      newline ∉ label ++ field := by
    simp [inLabel, inField]
  refine splitOn_intercalate_iff.mpr ⟨List.cons_ne_nil _ _, ?_⟩
  simp only [kubeconfigLines, List.forall_mem_cons, List.not_mem_nil, false_implies, implies_true,
    and_true, id_eq]
  refine ⟨?_, ?_, ?_, ?_, ?_, labelled ?_ ca, labelled ?_ server, ?_, ?_, ?_, ?_, labelled ?_ ns,
    ?_, ?_, ?_, ?_, ?_, labelled ?_ token, ?_⟩ <;> decide +kernel

theorem not_label_of_take_ne {label other : GoString} (field : GoString)
    (differ : label.take (min label.length other.length) ≠
      other.take (min label.length other.length)) :
    label.isPrefixOf (other ++ field) = false := by
  rw [Bool.eq_false_iff]
  intro isLabel
  obtain ⟨rest, isLine⟩ := List.isPrefixOf_iff_prefix.mp isLabel
  have same := congrArg (List.take (min label.length other.length)) isLine
  rw [List.take_append_of_le_length (Nat.min_le_left _ _),
    List.take_append_of_le_length (Nat.min_le_right _ _)] at same
  exact differ same

theorem fieldOf_of_line {fields : KubeconfigFields} {label field : GoString}
    (isSplit : (kubeconfigText id fields).splitOn newline = kubeconfigLines id fields)
    (position : Nat)
    (isLine : kubeconfigLines id fields = (kubeconfigLines id fields).take position ++
      (label ++ field) :: (kubeconfigLines id fields).drop (position + 1))
    (earlier : ∀ line ∈ (kubeconfigLines id fields).take position,
      label.isPrefixOf line = false) :
    fieldOf label (kubeconfigText id fields) = some field := by
  have isFound : (kubeconfigLines id fields).find? (fun line => label.isPrefixOf line) =
      some (label ++ field) := by
    rw [List.find?_eq_some_iff_append, List.isPrefixOf_iff_prefix]
    refine ⟨List.prefix_append label field, _, _, isLine, ?_⟩
    intro line isEarlier
    rw [earlier line isEarlier]
    rfl
  rw [fieldOf, isSplit, isFound, Option.map_some, List.drop_left]

/-- A kubeconfig whose fields are not escaped gives them back, line by line: the CA, the token,
the server and the namespace are those of the tenant. -/
theorem generateKubeconfig_reads_back {sources : KubeconfigSources} {ns text : GoString}
    {data : GoMap String GoString} {fields : KubeconfigFields}
    (isSecret : sources.tokenSecret = .ok data)
    (isFields : kubeconfigFields sources ns = .ok fields)
    (generated : generateKubeconfig sources ns = .ok text)
    (plain : Plain fields.caCertificate ∧ Plain fields.serverURL ∧ Plain fields.ns ∧
      Plain fields.token)
    (inServer : newline ∉ fields.serverURL) (inNs : newline ∉ ns)
    (inToken : newline ∉ fields.token) :
    (fieldOf caLabel text).bind Base64.decode = data.lookup rootCAKey ∧
      fieldOf tokenLabel text = data.lookup tokenKey ∧
      fieldOf serverLabel text = some fields.serverURL ∧ fieldOf namespaceLabel text = some ns := by
  have spec := kubeconfigFields_spec isSecret isFields
  have isText : text = kubeconfigText id fields := by
    rw [generateKubeconfig, isFields] at generated
    cases generated
    exact kubeconfigText_eq_iff.mpr plain
  have inCA : newline ∉ fields.caCertificate := by
    rw [spec.ca]
    intro isBreak
    exact (Base64.not_lineBreak_of_isEncoded (Base64.isEncoded_of_mem_encode isBreak)).1 rfl
  have isSplit := splitOn_kubeconfigText inCA inServer (spec.ns ▸ inNs) inToken
  have isCA : fieldOf caLabel text = some fields.caCertificate := by
    rw [isText]
    refine fieldOf_of_line isSplit 5 rfl ?_
    simp only [kubeconfigLines, List.take_succ_cons, List.take_zero, List.forall_mem_cons,
      List.not_mem_nil, false_implies, implies_true, and_true]
    decide +kernel
  have isServer : fieldOf serverLabel text = some fields.serverURL := by
    rw [isText]
    refine fieldOf_of_line isSplit 6 rfl ?_
    simp only [kubeconfigLines, List.take_succ_cons, List.take_zero, List.forall_mem_cons,
      List.not_mem_nil, false_implies, implies_true, and_true]
    refine ⟨?_, ?_, ?_, ?_, ?_, not_label_of_take_ne _ ?_⟩ <;> decide +kernel
  have isNs : fieldOf namespaceLabel text = some fields.ns := by
    rw [isText]
    refine fieldOf_of_line isSplit 11 rfl ?_
    simp only [kubeconfigLines, List.take_succ_cons, List.take_zero, List.forall_mem_cons,
      List.not_mem_nil, false_implies, implies_true, and_true]
    refine ⟨?_, ?_, ?_, ?_, ?_, not_label_of_take_ne _ ?_, not_label_of_take_ne _ ?_, ?_, ?_, ?_,
      ?_⟩ <;> decide +kernel
  have isToken : fieldOf tokenLabel text = some fields.token := by
    rw [isText]
    refine fieldOf_of_line isSplit 17 rfl ?_
    simp only [kubeconfigLines, List.take_succ_cons, List.take_zero, List.forall_mem_cons,
      List.not_mem_nil, false_implies, implies_true, and_true]
    refine ⟨?_, ?_, ?_, ?_, ?_, not_label_of_take_ne _ ?_, not_label_of_take_ne _ ?_, ?_, ?_, ?_,
      ?_, not_label_of_take_ne _ ?_, ?_, ?_, ?_, ?_, ?_⟩ <;> decide +kernel
  have stored {found : Option GoString} (present : found.getD [] ≠ []) :
      some (found.getD []) = found := by
    cases found with
    | none => exact absurd rfl present
    | some value => rfl
  refine ⟨?_, ?_, isServer, spec.ns ▸ isNs⟩
  · rw [isCA, spec.ca, Option.bind_some, Base64.decode_encode]
    exact stored spec.hasCA
  · rw [isToken, spec.token]
    exact stored spec.hasToken

theorem acme_kubeconfig_reads_back :
    ∃ text, generateKubeconfig acmeSources (GoString.ofText "tenant-acme") = .ok text ∧
      (fieldOf caLabel text).bind Base64.decode = some (GoString.ofText "CERTIFICATE") := by
  have isFields :
      kubeconfigFields acmeSources (GoString.ofText "tenant-acme") = .ok acmeFields := by
    decide +kernel
  have generated : generateKubeconfig acmeSources (GoString.ofText "tenant-acme") =
      .ok (kubeconfigText htmlEscape acmeFields) := by
    rw [generateKubeconfig, isFields]
    rfl
  have isCA : acmeToken.lookup rootCAKey = some (GoString.ofText "CERTIFICATE") := by decide +kernel
  refine ⟨_, generated, ?_⟩
  rw [← isCA]
  exact (generateKubeconfig_reads_back rfl isFields generated (by decide +kernel)
    (by decide +kernel) (by decide +kernel) (by decide +kernel)).1

end KubeLB.Controllers
