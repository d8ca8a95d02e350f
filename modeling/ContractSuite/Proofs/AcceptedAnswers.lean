import ContractSuite.Proofs.ServerAddresses
import ContractSuite.Proofs.ServerRequests
import ContractSuite.World.ServerScript

namespace ContractSuite.ContractClient

/-- The answer in which the pointers end when an address is asked for and all this has happened before. -/
def Delivered (site : Site) (redirects : Nat) (past : List Event) (url : Url) (response : Response) : Prop :=
  ∃ urls, Tour site redirects past url urls (some response)

section

variable {client : ContractClient} {url : Url} {response : Response}

/-- An answer that is delivered decides what is made of a request. -/
theorem Asked.answer_eq {path : String} {parameters : List (String × String)}
    {next : Url → Response → Except SuiteError Unit} {site : Site} {past : List Event} {answer : Except SuiteError Unit}
    {events : List Event} (asked : client.Asked path parameters next site past answer events)
    (timed : client.timeout ≠ 0) (made : client.endpoint path parameters = .ok url)
    (delivered : Delivered site redirectLimit (.asked url.text :: past) url response) :
    answer = if 400 ≤ response.status ∧ response.status < 600 then .error (.httpStatus url.text response.status)
      else next url response := by
  obtain ⟨urls, tour⟩ := delivered
  cases asked with
  | noUrl failed => cases made.symm.trans failed
  | noTime _ noTime => exact absurd noTime timed
  | asked made' _ tour' =>
    cases made.symm.trans made'
    obtain ⟨_, rfl⟩ := tour.unique tour'
    unfold accept
    dsimp only
    split <;> rfl

variable {w : World}

theorem initContract_of_delivered (timed : client.timeout ≠ 0) {contract : String}
    (made : client.endpoint "/init" [(contractParameter, contract)] = .ok url)
    (delivered : Delivered w.site redirectLimit (.asked url.text :: w.events) url response) :
    ((client.initContract contract).runAt w).1 =
      if 400 ≤ response.status ∧ response.status < 600 then .error (.httpStatus url.text response.status)
      else .ok () := by
  obtain ⟨answer, events, asked, u, run, _⟩ := initContract_leads client contract w
  rw [run]
  exact asked.answer_eq timed made delivered

theorem checkExpectations_of_delivered (timed : client.timeout ≠ 0) (made : client.endpoint "/expect" [] = .ok url)
    (delivered : Delivered w.site redirectLimit (.asked url.text :: w.events) url response) :
    (client.checkExpectations.runAt w).1 =
      if 400 ≤ response.status ∧ response.status < 600 then .error (.httpStatus url.text response.status)
      else if response.isWhole then ExpectationReport.evaluate (Text.Utf8.decodeLenient response.body)
      else .error (.http url.text) := by
  obtain ⟨answer, events, asked, u, run, _⟩ := checkExpectations_leads client w
  rw [run]
  exact asked.answer_eq timed made delivered

end

/-- Which answers are accepted, whatever their bodies: those with a status that is not from 400 to 599, and of the
reports among them those that are whole and evaluated as good. -/
theorem answer_decides (client : ContractClient) (timed : client.timeout ≠ 0) (w : World) (response : Response) :
    (∀ contract url, client.endpoint "/init" [(contractParameter, contract)] = .ok url →
      Delivered w.site redirectLimit (.asked url.text :: w.events) url response →
      ((client.initContract contract).runAt w).1 =
        if 400 ≤ response.status ∧ response.status < 600 then .error (.httpStatus url.text response.status)
        else .ok ()) ∧
    ∀ url, client.endpoint "/expect" [] = .ok url →
      Delivered w.site redirectLimit (.asked url.text :: w.events) url response →
      (client.checkExpectations.runAt w).1 =
        if 400 ≤ response.status ∧ response.status < 600 then .error (.httpStatus url.text response.status)
        else if response.isWhole then ExpectationReport.evaluate (Text.Utf8.decodeLenient response.body)
        else .error (.http url.text) :=
  ⟨fun _ _ made delivered => initContract_of_delivered timed made delivered,
    fun _ made delivered => checkExpectations_of_delivered timed made delivered⟩

/-- A report that tells of no failed expectation, with any status. -/
def goodReport (status : Nat) : Response where
  status
  body := Text.Utf8.encode (ServerScript.reportBody false)

/-- A world in which every request gets the same answer. -/
def answeringWorld (response : Response) : World where
  site := {
    react := fun _ _ => .answer response
    launch := fun _ t program _ => t.findProgram program
    conduct := fun _ _ => ⟨some 0, .code 0⟩ }
  tree := {}

/-- The client that the usual settings describe. -/
def usualClient : ContractClient :=
  ({} : Settings).client

theorem endpoint_usualClient :
    usualClient.endpoint "/init" [(contractParameter, "x")] =
      .ok { host := .domain "localhost", port := some 8090, path := "/init", query := some "__contract__script__=x" } ∧
    usualClient.endpoint "/expect" [] = .ok { host := .domain "localhost", port := some 8090, path := "/expect" } :=
  ⟨eq_ok_of_toOption (by decide +kernel), eq_ok_of_toOption (by decide +kernel)⟩

theorem delivered_goodReport {status : Nat} (notInterim : isInterim status = false) (past : List Event) (url : Url) :
    Delivered (answeringWorld (goodReport status)).site redirectLimit past url (goodReport status) := by
  have isFinal : verdict url (.answer (goodReport status)) = .final (goodReport status) := by
    unfold verdict goodReport
    dsimp only
    rw [notInterim]
    rfl
  exact ⟨[url], .final isFinal⟩

/-- A good report does not help if the status refuses the request. -/
theorem answer_with_status_599 :
    ((usualClient.initContract "x").runAt (answeringWorld (goodReport 599))).1 =
      .error (.httpStatus "http://localhost:8090/init?__contract__script__=x" 599) ∧
    (usualClient.checkExpectations.runAt (answeringWorld (goodReport 599))).1 =
      .error (.httpStatus "http://localhost:8090/expect" 599) := by
  obtain ⟨loads, checks⟩ := answer_decides usualClient (by decide) (answeringWorld (goodReport 599)) (goodReport 599)
  obtain ⟨loadUrl, checkUrl⟩ := endpoint_usualClient
  have loaded := loads "x" _ loadUrl (delivered_goodReport rfl _ _)
  have checked := checks _ checkUrl (delivered_goodReport rfl _ _)
  rw [if_pos (by decide)] at loaded checked
  have loadText : Url.text { host := .domain "localhost", port := some 8090, path := "/init"
                             query := some "__contract__script__=x" } =
      "http://localhost:8090/init?__contract__script__=x" := by decide +kernel
  have checkText : Url.text { host := .domain "localhost", port := some 8090, path := "/expect" } =
      "http://localhost:8090/expect" := by decide +kernel
  rw [loadText] at loaded
  rw [checkText] at checked
  exact ⟨loaded, checked⟩

/-- A status from 600 on refuses nothing. -/
theorem answer_with_status_600 :
    Delivered (answeringWorld (goodReport 600)).site redirectLimit
      (.asked "http://localhost:8090/expect" :: (answeringWorld (goodReport 600)).events)
      { host := .domain "localhost", port := some 8090, path := "/expect" } (goodReport 600) ∧
    ((usualClient.initContract "x").runAt (answeringWorld (goodReport 600))).1 = .ok () ∧
    (usualClient.checkExpectations.runAt (answeringWorld (goodReport 600))).1 = .ok () := by
  obtain ⟨loadUrl, checkUrl⟩ := endpoint_usualClient
  have timed : usualClient.timeout ≠ 0 := by decide
  have delivered (past : List Event) (url : Url) :
      Delivered (answeringWorld (goodReport 600)).site redirectLimit past url (goodReport 600) :=
    delivered_goodReport rfl past url
  have loaded := initContract_of_delivered timed loadUrl (delivered _ _)
  have checked := checkExpectations_of_delivered timed checkUrl (delivered _ _)
  have good : ExpectationReport.evaluate (Text.Utf8.decodeLenient (goodReport 600).body) = .ok () := by
    unfold goodReport
    dsimp only
    rw [Text.Utf8.decodeLenient_encode]
    exact eq_ok_of_toOption (by decide +kernel)
  rw [if_neg (by decide)] at loaded checked
  exact ⟨delivered _ _, loaded, checked.trans good⟩

end ContractSuite.ContractClient
