import ContractSuite.Proofs.Act
import ContractSuite.Proofs.Text.FormReading
import ContractSuite.Proofs.Url.Paths
import ContractSuite.Settings.Collaborators

namespace ContractSuite

namespace ContractClient

open Url (IsReadFrom endsAuthority portDigits)

/-- What the contract server is asked to do. -/
inductive Operation
  | load (contract : String)
  | report

namespace Operation

/-- The path of an operation. -/
def path : Operation → String
  | load _ => "/init"
  | report => "/expect"

/-- The parameters of an operation. -/
def parameters : Operation → List (String × String)
  | load contract => [(contractParameter, contract)]
  | report => []

/-- The only segment of the path. -/
def word : Operation → List Char
  | load _ => ['i', 'n', 'i', 't']
  | report => ['e', 'x', 'p', 'e', 'c', 't']

theorem toList_path (operation : Operation) : operation.path.toList = '/' :: operation.word := by
  cases operation <;> exact String.toList_ofList

theorem forall_word (holds : List Char → Prop)
    (all : ∀ segment ∈ [['i', 'n', 'i', 't'], ['e', 'x', 'p', 'e', 'c', 't']], holds segment) (operation : Operation) :
    holds operation.word := by
  cases operation with
  | load => exact all _ List.mem_cons_self
  | report => exact all _ (List.mem_cons_of_mem _ List.mem_cons_self)

theorem isNameChar_of_mem_word (operation : Operation) : ∀ c ∈ operation.word, Url.isNameChar c = true :=
  List.all_eq_true.mp (forall_word (fun segment => segment.all Url.isNameChar = true) (by decide) operation)

theorem getLast?_path (operation : Operation) : operation.path.toList.getLast? = some 't' := by
  rw [toList_path]
  exact forall_word (fun segment => ('/' :: segment).getLast? = some 't') (by decide) operation

theorem isPlace_word (operation : Operation) :
    Url.isHere operation.word = false ∧ Url.isAbove operation.word = false :=
  forall_word (fun segment => Url.isHere segment = false ∧ Url.isAbove segment = false) (by decide) operation

theorem readTail_path (operation : Operation) : Url.readTail
    (operation.path.toList.drop (operation.path.toList.takeWhile Url.isPathChar).length) = (none, none) := by
  rw [toList_path]
  exact forall_word (fun segment => Url.readTail
    (('/' :: segment).drop (('/' :: segment).takeWhile Url.isPathChar).length) = (none, none)) (by decide) operation

theorem pathBehind_path (operation : Operation) : Url.pathBehind operation.path.toList = operation.path := by
  rw [toList_path, ← String.ofList_toList (s := operation.path), toList_path]
  exact forall_word (fun segment => Url.pathBehind ('/' :: segment) = String.ofList ('/' :: segment))
    (by decide +kernel) operation

/-- An address that asks the server of a client for an operation and has nothing else in it. -/
structure Fits (operation : Operation) (client : ContractClient) (url : Url) : Prop where
  effectivePort_eq : url.effectivePort = client.port
  path_eq : url.path = operation.path
  username_eq : url.username = ""
  password_eq : url.password = ""
  fragment_eq : url.fragment = none
  parameters_eq : url.query.map Text.FormEncoded.read =
    if operation.parameters.isEmpty then none else some operation.parameters

end Operation

/-- The host of a client as it stands in an address that is read. -/
def heardHost (client : ContractClient) : List Char :=
  (client.host.toList.filter (!Url.isIgnored ·)).dropWhile Url.isSlash

/-- A host without a delimiter. An empty user name and an empty password may stand in front of it. -/
def IsBare (client : ContractClient) : Prop :=
  ∃ front name, client.heardHost = front ++ name ∧ front ∈ [[], ['@'], [':', '@']] ∧
    ∀ c ∈ name, endsAuthority c = false ∧ c ≠ '@'

/-- What is read as the address of an operation, before parameters are added. -/
def readAddress (client : ContractClient) (operation : Operation) : Except Url.Fault Url :=
  Url.readFromAuthority .http (client.heardHost ++ ':' :: (portDigits client.port ++ operation.path.toList))

theorem parse_endpoint (client : ContractClient) (operation : Operation) :
    Url.parse (client.baseUrl ++ operation.path) = client.readAddress operation := by
  have start : (client.baseUrl ++ operation.path).toList =
      "http://".toList ++ (client.host.toList ++ ':' :: (portDigits client.port ++ operation.path.toList)) := by
    unfold baseUrl portDigits
    simp only [String.toList_append, List.append_assoc]
    rfl
  have last : ∀ c ∈ (client.host.toList ++ ':' :: (portDigits client.port ++ operation.path.toList)).getLast?,
      Url.isMargin c = false := by
    rw [← List.cons_append, ← List.append_assoc, List.getLast?_append, operation.getLast?_path]
    intro c isLast
    cases isLast
    rfl
  have path : operation.path.toList.filter (!Url.isIgnored ·) = operation.path.toList := by
    rw [operation.toList_path, List.filter_cons_of_pos (by rfl),
      Url.filter_of_isNameChar operation.isNameChar_of_mem_word]
  have digits : (portDigits client.port).filter (!Url.isIgnored ·) = portDigits client.port :=
    Url.filter_of_isNameChar fun c => Url.isNameChar_of_mem_portDigits
  have slashes (s : List Char) (rest : List Char) :
      (s ++ ':' :: rest).dropWhile Url.isSlash = s.dropWhile Url.isSlash ++ ':' :: rest := by
    rw [List.dropWhile_append]
    split
    · next nothing =>
      rw [List.isEmpty_iff.mp nothing]
      rfl
    · rfl
  rw [Url.parse_http start last, List.filter_append,
    List.filter_cons_of_pos (by rfl), List.filter_append, digits, path, slashes]
  rfl

/-- What the address of an operation is, if it is one. -/
def addressed (operation : Operation) (read : Url) : Url :=
  if operation.parameters.isEmpty then read else read.addParameters operation.parameters

theorem endpoint_cases (client : ContractClient) (operation : Operation) :
    (∃ fault : Url.Fault, client.endpoint operation.path operation.parameters =
      .error (.invalidUrl (client.baseUrl ++ operation.path) fault.text)) ∨
    ∃ read, client.readAddress operation = .ok read ∧
      client.endpoint operation.path operation.parameters = .ok (addressed operation read) := by
  unfold endpoint
  dsimp only
  rw [parse_endpoint]
  cases client.readAddress operation with
  | error fault => exact Or.inl ⟨fault, rfl⟩
  | ok read => exact Or.inr ⟨read, rfl, rfl⟩

theorem withoutQuery_addressed (operation : Operation) (read : Url) :
    (addressed operation read).withoutQuery = read.withoutQuery := by
  unfold addressed
  split
  · rfl
  · exact Url.withoutQuery_addParameters read _

theorem isReadFrom_of_inside {client : ContractClient} {operation : Operation} {read : Url}
    (inside : ∀ c ∈ client.heardHost, endsAuthority c = false) (isRead : client.readAddress operation = .ok read) :
    IsReadFrom .http (client.heardHost ++ ':' :: portDigits client.port) operation.path.toList read := by
  have cut : client.heardHost ++ ':' :: (portDigits client.port ++ operation.path.toList) =
      (client.heardHost ++ ':' :: portDigits client.port) ++ operation.path.toList := by simp
  unfold readAddress at isRead
  rw [cut] at isRead
  refine Url.isReadFrom_of_readFromAuthority ?_ ?_ isRead
  · intro c isIn
    rcases List.mem_append.mp isIn with inHost | inPort
    · exact inside c inHost
    · rcases List.mem_cons.mp inPort with rfl | isDigit
      · rfl
      · exact Url.endsAuthority_of_isNameChar (Url.isNameChar_of_mem_portDigits isDigit)
  · rw [operation.toList_path]
    intro c isFirst
    cases isFirst
    rfl

theorem parts_of_inside {client : ContractClient} {operation : Operation} {read : Url}
    (inside : ∀ c ∈ client.heardHost, endsAuthority c = false) (isRead : client.readAddress operation = .ok read) :
    read.path = operation.path ∧ read.query = none ∧ read.fragment = none := by
  have parts := isReadFrom_of_inside inside isRead
  have tail := parts.tail_eq
  rw [operation.readTail_path] at tail
  exact ⟨parts.path_eq.trans operation.pathBehind_path, congrArg Prod.fst tail, congrArg Prod.snd tail⟩

/-- An address of a host that ends nothing has everything of the operation, user information apart. -/
theorem fits_iff_of_inside {client : ContractClient} {operation : Operation} {read : Url}
    (inside : ∀ c ∈ client.heardHost, endsAuthority c = false) (isRead : client.readAddress operation = .ok read) :
    operation.Fits client (addressed operation read) ↔ client.IsBare := by
  have parts := isReadFrom_of_inside inside isRead
  obtain ⟨path, noQuery, noFragment⟩ := parts_of_inside inside isRead
  have same := withoutQuery_addressed operation read
  have parameters : (addressed operation read).query.map Text.FormEncoded.read =
      if operation.parameters.isEmpty then none else some operation.parameters := by
    unfold addressed
    by_cases empty : operation.parameters.isEmpty
    · rw [if_pos empty, if_pos empty, noQuery, Option.map_none]
    · rw [if_neg empty, if_neg empty, Url.query_addParameters_of_none noQuery, Option.map_some,
        Text.FormEncoded.read_query]
  have bare : (read.username = "" ∧ read.password = "") ↔ client.IsBare := by
    rw [parts.credentials_eq_empty_iff]
    constructor
    · rintro ⟨front, name, host, isFront, absent⟩
      refine ⟨front, name, host, isFront, fun c isIn => ⟨inside c ?_, ne_of_mem_of_not_mem isIn absent⟩⟩
      rw [host]
      exact List.mem_append_right front isIn
    · rintro ⟨front, name, host, isFront, plain⟩
      exact ⟨front, name, host, isFront, fun sign => (plain '@' sign).2 rfl⟩
  rw [← bare]
  constructor
  · intro fits
    exact ⟨(congrArg Url.username same).symm.trans fits.username_eq,
      (congrArg Url.password same).symm.trans fits.password_eq⟩
  · rintro ⟨noName, noPassword⟩
    exact
      { effectivePort_eq := (congrArg Url.effectivePort same).trans parts.effectivePort_eq
        path_eq := (congrArg Url.path same).trans path
        username_eq := (congrArg Url.username same).trans noName
        password_eq := (congrArg Url.password same).trans noPassword
        fragment_eq := (congrArg Url.fragment same).trans noFragment
        parameters_eq := parameters }

/-- An address whose authority ends inside of the host has another path, a fragment or a further parameter. -/
theorem not_fits_of_delimiter {client : ContractClient} {operation : Operation} {read : Url} {front back : List Char}
    {delimiter : Char} (host : client.heardHost = front ++ delimiter :: back)
    (inFront : ∀ c ∈ front, endsAuthority c = false) (ends : endsAuthority delimiter = true)
    (isRead : client.readAddress operation = .ok read) :
    ¬operation.Fits client (addressed operation read) := by
  intro fits
  have same := withoutQuery_addressed operation read
  have cut : client.heardHost ++ ':' :: (portDigits client.port ++ operation.path.toList) =
      front ++ delimiter :: (back ++ ':' :: (portDigits client.port ++ '/' :: operation.word)) := by
    rw [host, operation.toList_path]
    simp
  have noColon : ':' ∉ operation.path.toList := by
    rw [operation.toList_path, List.mem_cons, not_or]
    exact ⟨by decide, fun colon => Url.ne_of_isNameChar (operation.isNameChar_of_mem_word _ colon) rfl rfl⟩
  unfold readAddress at isRead
  rw [cut] at isRead
  have parts := Url.isReadFrom_of_readFromAuthority inFront (fun c isFirst => by cases isFirst; exact ends) isRead
  obtain ⟨here, above⟩ := operation.isPlace_word
  rcases parts.colon_behind ends
      (fun c isDigit => Url.endsAuthority_of_isNameChar (Url.isNameChar_of_mem_portDigits isDigit))
      (fun c isIn => Url.endsAuthority_of_isNameChar (operation.isNameChar_of_mem_word c isIn)) here above with
    inPath | fragment | ⟨query, isQuery, inQuery⟩
  · have path : read.path = operation.path := (congrArg Url.path same).symm.trans fits.path_eq
    rw [path] at inPath
    exact noColon inPath
  · have none : read.fragment = none := (congrArg Url.fragment same).symm.trans fits.fragment_eq
    rw [none] at fragment
    cases fragment
  · have parameters := fits.parameters_eq
    unfold addressed at parameters
    by_cases empty : operation.parameters.isEmpty
    · rw [if_pos empty, if_pos empty, isQuery] at parameters
      cases parameters
    · have notEmpty : query ≠ "" := by
        rintro rfl
        cases inQuery
      rw [if_neg empty, if_neg empty, Url.query_addParameters_of_some isQuery notEmpty, Option.map_some,
        Text.FormEncoded.read_append, Text.FormEncoded.read_query] at parameters
      have nothing := List.append_left_eq_self.mp (Option.some.inj parameters)
      exact Text.FormEncoded.read_ne_nil (by decide) inQuery nothing

/-- The address of an operation is either refused, and then the text that is no address is named, or it asks the server
of the settings for the operation and for nothing else exactly if the host is bare. -/
theorem endpoint_fits_iff (client : ContractClient) (operation : Operation) :
    (∃ fault : Url.Fault, client.endpoint operation.path operation.parameters =
      .error (.invalidUrl (client.baseUrl ++ operation.path) fault.text)) ∨
    ∃ url, client.endpoint operation.path operation.parameters = .ok url ∧
      (operation.Fits client url ↔ client.IsBare) := by
  rcases endpoint_cases client operation with refused | ⟨read, isRead, made⟩
  · exact Or.inl refused
  · refine Or.inr ⟨_, made, ?_⟩
    -- The first delimiter of the host, if there is one, ends the authority in front of the port.
    cases first : client.heardHost.find? endsAuthority with
    | none =>
      rw [List.find?_eq_none] at first
      exact fits_iff_of_inside (fun c isIn => by simpa using first c isIn) isRead
    | some delimiter =>
      obtain ⟨ends, front, back, host, inFront⟩ := List.find?_eq_some_iff_append.mp first
      refine iff_of_false (not_fits_of_delimiter host (fun c isIn => by simpa using inFront c isIn) ends isRead) ?_
      rintro ⟨early, name, host', isEarly, plain⟩
      have isIn : delimiter ∈ early ++ name := by
        rw [← host', host]
        simp
      rcases List.mem_append.mp isIn with isIn | isIn
      · have noEnds : ∀ early ∈ [[], ['@'], [':', '@']], early.all (!endsAuthority ·) = true := by decide
        have inside := List.all_eq_true.mp (noEnds early isEarly) delimiter isIn
        rw [ends] at inside
        cases inside
      · rw [(plain delimiter isIn).1] at ends
        cases ends

theorem mem_host_of_mem_heardHost {client : ContractClient} {c : Char} (inside : c ∈ client.heardHost) :
    c ∈ client.host.toList :=
  List.mem_of_mem_filter ((List.dropWhile_suffix _).subset inside)

/-- A slash in the host moves the port into the path, and the request goes to the usual port. -/
theorem endpoint_of_host_with_slash :
    ({ host := "localhost/x" } : Settings).validate = .ok () ∧
    ({ host := "localhost/x" } : Settings).client.port = 8090 ∧
    ∃ url, ({ host := "localhost/x" } : Settings).client.endpoint "/init" [(contractParameter, "a")] = .ok url ∧
      url.effectivePort = 80 ∧ url.path = "/x:8090/init" := by
  have made : (({ host := "localhost/x" } : Settings).client.endpoint "/init" [(contractParameter, "a")]).toOption =
      some { host := .domain "localhost", path := "/x:8090/init", query := some "__contract__script__=a" } := by
    decide +kernel
  exact ⟨rfl, rfl, _, eq_ok_of_toOption made, rfl, rfl⟩

theorem encode_contractParameter : Text.FormEncoded.encode contractParameter = contractParameter := by
  decide +kernel

theorem query_contract (name : String) : Text.FormEncoded.query [(contractParameter, name)] =
    contractParameter ++ "=" ++ Text.FormEncoded.encode name := by
  rw [Text.FormEncoded.query_singleton]
  unfold Text.FormEncoded.written
  rw [encode_contractParameter]

/-- If there is an address that loads a contract, then one address without a query is read for all contracts. -/
theorem exists_read_of_endpoint {client : ContractClient}
    (plainHost : ∀ c ∈ client.host.toList, Url.isNameChar c = true) {contract : String} {url : Url}
    (made : client.endpoint "/init" [(contractParameter, contract)] = .ok url) :
    ∃ read : Url, read.path = "/init" ∧ read.query = none ∧ read.fragment = none ∧
      ∀ name, client.endpoint "/init" [(contractParameter, name)] =
        .ok (read.addParameters [(contractParameter, name)]) := by
  have inside : ∀ c ∈ client.heardHost, endsAuthority c = false := fun c isIn =>
    Url.endsAuthority_of_isNameChar (plainHost c (mem_host_of_mem_heardHost isIn))
  rcases endpoint_cases client (.load contract) with ⟨fault, refused⟩ | ⟨read, isRead, -⟩
  · cases made.symm.trans refused
  · obtain ⟨path, noQuery, noFragment⟩ := parts_of_inside inside isRead
    refine ⟨read, path, noQuery, noFragment, fun name => ?_⟩
    have parsed : Url.parse (client.baseUrl ++ "/init") = .ok read :=
      (parse_endpoint client (.load contract)).trans isRead
    unfold endpoint
    dsimp only
    rw [parsed]
    rfl

/-- The name of a contract is carried by the only parameter of the address that loads it, whatever is in the name: it
is read back as it was, and everything else in the address is the same for all names. -/
theorem endpoint_carries_contract (client : ContractClient)
    (plainHost : ∀ c ∈ client.host.toList, Url.isNameChar c = true) (contract : String) (url : Url)
    (made : client.endpoint "/init" [(contractParameter, contract)] = .ok url) :
    url.path = "/init" ∧ url.fragment = none ∧
    (∃ value, url.query = some (contractParameter ++ "=" ++ value) ∧
      url.text = url.withoutQuery.text ++ "?" ++ (contractParameter ++ "=" ++ value) ∧
      (∀ c ∈ value.toList, Text.FormEncoded.isWritten c = true) ∧
      Text.FormEncoded.read (contractParameter ++ "=" ++ value) = [(contractParameter, contract)] ∧
      Text.FormEncoded.decode value.toList = contract) ∧
    ∀ other, ∃ otherUrl, client.endpoint "/init" [(contractParameter, other)] = .ok otherUrl ∧
      otherUrl.withoutQuery = url.withoutQuery ∧ (otherUrl.text = url.text → other = contract) := by
  obtain ⟨read, path, noQuery, noFragment, endpoint_eq⟩ := exists_read_of_endpoint plainHost made
  obtain rfl := Except.ok.inj ((endpoint_eq contract).symm.trans made)
  have rest (name : String) := Url.withoutQuery_addParameters read [(contractParameter, name)]
  have query (name : String) := Url.query_addParameters_of_none noQuery [(contractParameter, name)]
  have text (name : String) := Url.text_addParameters noQuery noFragment [(contractParameter, name)]
  simp only [query_contract] at query text
  have isRead := Text.FormEncoded.read_query [(contractParameter, contract)]
  rw [query_contract] at isRead
  refine ⟨(congrArg Url.path (rest contract)).trans path, (congrArg Url.fragment (rest contract)).trans noFragment,
    ⟨Text.FormEncoded.encode contract, query contract, ?_, fun c => Text.FormEncoded.isWritten_of_mem_encode, isRead,
      Text.FormEncoded.decode_encode contract⟩, fun other => ?_⟩
  · rw [rest contract]
    exact text contract
  · refine ⟨_, endpoint_eq other, (rest other).trans (rest contract).symm, fun same => ?_⟩
    rw [text other, text contract] at same
    have encoded : Text.FormEncoded.encode other = Text.FormEncoded.encode contract := by
      have letters := congrArg String.toList same
      simp only [String.toList_append, List.append_cancel_left_eq] at letters
      exact String.toList_injective letters
    rw [← Text.FormEncoded.decode_encode other, encoded, Text.FormEncoded.decode_encode]

theorem endpoint_carries_marks : ∃ url,
    ({ host := "localhost", port := 8090, timeout := 30000 } : ContractClient).endpoint "/init"
      [(contractParameter, "a&b=# é😀\n")] = .ok url ∧
    url.path = "/init" ∧ url.fragment = none ∧
    url.query = some "__contract__script__=a%26b%3D%23+%C3%A9%F0%9F%98%80%0A" ∧
    Text.FormEncoded.read "__contract__script__=a%26b%3D%23+%C3%A9%F0%9F%98%80%0A" =
      [(contractParameter, "a&b=# é😀\n")] := by
  have made : (({ host := "localhost", port := 8090, timeout := 30000 } : ContractClient).endpoint "/init"
      [(contractParameter, "a&b=# é😀\n")]).toOption = some
        { host := .domain "localhost", port := some 8090, path := "/init"
          query := some "__contract__script__=a%26b%3D%23+%C3%A9%F0%9F%98%80%0A" } := by
    decide +kernel
  have plainHost : ∀ c ∈ "localhost".toList, Url.isNameChar c = true := List.all_eq_true.mp (by decide +kernel)
  obtain ⟨path, noFragment, ⟨value, isQuery, -, -, isRead, -⟩, -⟩ :=
    endpoint_carries_contract _ plainHost _ _ (eq_ok_of_toOption made)
  rw [← Option.some.inj isQuery] at isRead
  exact ⟨_, eq_ok_of_toOption made, path, noFragment, rfl, isRead⟩

end ContractClient

end ContractSuite
