import ContractSuite.ContractClient
import ContractSuite.Proofs.History

namespace ContractSuite.ContractClient

open Act World

/-- The addresses for which requests are made in the course of one, when all this has happened before: the first is the
one that is asked for, and each other one is that to which the answer before has pointed. Last comes the answer in which
the pointers end, unless one is no proper answer or the pointers are too many. -/
inductive Tour (site : Site) : Nat → List Event → Url → List Url → Option Response → Prop
  | final {redirects past url response} : verdict url (site.react past url) = .final response →
      Tour site redirects past url [url] (some response)
  | failure {redirects past url} : verdict url (site.react past url) = .failure →
      Tour site redirects past url [url] none
  | exhausted {past url next} : verdict url (site.react past url) = .moved next → Tour site 0 past url [url] none
  | moved {redirects past url next urls response?} : verdict url (site.react past url) = .moved next →
      Tour site redirects (.requested url :: past) next urls response? →
      Tour site (redirects + 1) past url (url :: urls) response?

/-- What a request of a client comes to when all this has happened before, and its events. It is not made if there is
no address for it, or no time. Whether it is refused depends on the answer in which its tour ends; what else is made of
that answer is left open. -/
inductive Asked (client : ContractClient) (path : String) (parameters : List (String × String))
    (next : Url → Response → Except SuiteError Unit) (site : Site) (past : List Event) :
    Except SuiteError Unit → List Event → Prop
  | noUrl {error} : client.endpoint path parameters = .error error →
      Asked client path parameters next site past (.error error) []
  | noTime {url} : client.endpoint path parameters = .ok url → client.timeout = 0 →
      Asked client path parameters next site past (.error (.http url.text)) [.asked url.text]
  | asked {url urls response?} : client.endpoint path parameters = .ok url → client.timeout ≠ 0 →
      Tour site redirectLimit (.asked url.text :: past) url urls response? →
      Asked client path parameters next site past ((accept url response?).bind (next url))
        (.asked url.text :: urls.map .requested)

theorem Asked.eq_of_mem {client : ContractClient} {path : String} {parameters : List (String × String)}
    {next : Url → Response → Except SuiteError Unit} {site : Site} {past : List Event} {answer : Except SuiteError Unit}
    {events : List Event} (asked : Asked client path parameters next site past answer events) {event : Event}
    (inside : event ∈ events) : (∃ url, event = .asked url) ∨ ∃ url, event = .requested url := by
  cases asked with
  | noUrl => cases inside
  | noTime => exact .inl ⟨_, List.mem_singleton.mp inside⟩
  | asked =>
    rcases List.mem_cons.mp inside with same | inside
    · exact .inl ⟨_, same⟩
    · obtain ⟨url, _, same⟩ := List.mem_map.mp inside
      exact .inr ⟨url, same.symm⟩

/-- The site decides the tour. -/
theorem Tour.unique {site : Site} {redirects : Nat} {past : List Event} {url : Url} {urls urls' : List Url}
    {response? response?' : Option Response} (tour : Tour site redirects past url urls response?)
    (tour' : Tour site redirects past url urls' response?') : urls' = urls ∧ response?' = response? := by
  induction tour generalizing urls' with
  | final isFinal => cases tour' <;> simp_all
  | failure isFailure => cases tour' <;> simp_all
  | exhausted isMoved => cases tour' <;> simp_all
  | moved isMoved _ ih =>
    cases tour' with
    | final isFinal => cases isMoved.symm.trans isFinal
    | failure isFailure => cases isMoved.symm.trans isFailure
    | moved isMoved' more' =>
      cases isMoved.symm.trans isMoved'
      obtain ⟨rfl, rfl⟩ := ih more'
      exact ⟨rfl, rfl⟩

theorem exists_tour (site : Site) (redirects : Nat) (past : List Event) (url : Url) :
    ∃ urls response?, Tour site redirects past url urls response? := by
  induction redirects generalizing past url with
  | zero =>
    cases verdict : verdict url (site.react past url) with
    | final response => exact ⟨_, _, .final verdict⟩
    | failure => exact ⟨_, _, .failure verdict⟩
    | moved next => exact ⟨_, _, .exhausted verdict⟩
  | succ redirects ih =>
    cases verdict : verdict url (site.react past url) with
    | final response => exact ⟨_, _, .final verdict⟩
    | failure => exact ⟨_, _, .failure verdict⟩
    | moved next =>
      obtain ⟨urls, response?, tour⟩ := ih (.requested url :: past) next
      exact ⟨_, _, .moved verdict tour⟩

theorem request_leads (url : Url) (w : World) :
    (request url).Leads w (.ok (w.site.react w.events url)) [.requested url] :=
  .get (.bind_quiet (.note rfl) fun _ => .pure _)

/-- A request comes first, whatever becomes of it. -/
theorem follow_leads_of_rest {redirects : Nat} {url : Url} {response? : Option Response} {events : List Event}
    (w : World) (rest : ∀ u, w.Continues [.requested url] u →
      (match verdict url (w.site.react w.events url) with
        | .final response => pure (some response)
        | .failure => pure none
        | .moved next => match redirects with
          | 0 => pure none
          | redirects + 1 => follow redirects next : Act World (Option Response)).Leads u (.ok response?) events) :
    (follow redirects url).Leads w (.ok response?) (.requested url :: events) := by
  unfold follow
  exact .bind (request_leads url w) rest

/-- Pointers are followed as the tour says. -/
theorem follow_leads {redirects : Nat} {url : Url} {urls : List Url} {response? : Option Response} (w : World)
    (tour : Tour w.site redirects w.events url urls response?) :
    (follow redirects url).Leads w (.ok response?) (urls.map .requested) := by
  generalize here : w.site = site at tour
  generalize before : w.events = past at tour
  induction tour generalizing w with
  | final isFinal =>
    subst here before
    refine follow_leads_of_rest w fun u _ => ?_
    rw [isFinal]
    exact .pure _
  | failure isFailure =>
    subst here before
    refine follow_leads_of_rest w fun u _ => ?_
    rw [isFailure]
    exact .pure _
  | exhausted isMoved =>
    subst here before
    refine follow_leads_of_rest w fun u _ => ?_
    rw [isMoved]
    exact .pure _
  | moved isMoved _ ih =>
    subst here before
    refine follow_leads_of_rest w fun u continues => ?_
    rw [isMoved]
    exact ih u continues.site_eq continues.events_eq

/-- The answer in which the tour ends decides what is made of a request. -/
theorem fetch_leads {client : ContractClient} (timed : client.timeout ≠ 0) {url : Url} {urls : List Url}
    {response? : Option Response} (w : World)
    (tour : Tour w.site redirectLimit (.asked url.text :: w.events) url urls response?) :
    (client.fetch url).Leads w (accept url response?) (.asked url.text :: urls.map .requested) := by
  unfold fetch
  rw [if_neg timed]
  refine .bind (.note rfl) fun u noted => .bind (.say ..) fun v said => ?_
  have asked := noted.trans said
  refine .bind_quiet (follow_leads v ?_) fun _ => .lift _
  rw [asked.site_eq, asked.events_eq]
  exact tour

theorem fetch_leads_of_noTime {client : ContractClient} (noTime : client.timeout = 0) (url : Url) (w : World) :
    (client.fetch url).Leads w (.error (.http url.text)) [.asked url.text] := by
  unfold fetch
  rw [if_pos noTime]
  exact .bind_quiet (.note rfl) fun u => .bind_quiet (.say ..) fun v => .bind_quiet (.pure none) fun _ => .lift _

/-- What a request comes to, if what is done with an answer that is not refused leaves no events. -/
theorem asked_leads {client : ContractClient} {path : String} {parameters : List (String × String)}
    {next : Url → Response → Except SuiteError Unit} {more : Url → Response → Act World Unit}
    (quiet : ∀ url response u, (more url response).Leads u (next url response) []) (w : World) : ∃ answer events,
    Asked client path parameters next w.site w.events answer events ∧
      ((liftM (client.endpoint path parameters) : Act World Url) >>= fun url =>
        client.fetch url >>= fun response => more url response).Leads w answer events := by
  cases made : client.endpoint path parameters with
  | error error => exact ⟨_, _, .noUrl made, .bind_error (.lift _)⟩
  | ok url =>
    by_cases timed : client.timeout = 0
    · have fetched := fetch_leads_of_noTime timed url w
      exact ⟨_, _, .noTime made timed, .after (runAt_lift _ w) (.refl w) (.bind_error fetched)⟩
    · obtain ⟨urls, response?, tour⟩ := exists_tour w.site redirectLimit (.asked url.text :: w.events) url
      refine ⟨_, _, .asked made timed tour, .after (runAt_lift _ w) (.refl w) ?_⟩
      have fetched := fetch_leads timed w tour
      cases accepted : accept url response? with
      | error error =>
        rw [accepted] at fetched
        exact .bind_error fetched
      | ok response =>
        rw [accepted] at fetched
        exact fetched.bind_quiet fun u => quiet url response u

theorem initContract_leads (client : ContractClient) (contract : String) (w : World) : ∃ answer events,
    Asked client "/init" [(contractParameter, contract)] (fun _ _ => .ok ()) w.site w.events answer events ∧
      (client.initContract contract).Leads w answer events :=
  asked_leads (fun _ _ _ => .say ..) w

theorem checkExpectations_leads (client : ContractClient) (w : World) : ∃ answer events,
    Asked client "/expect" [] judge w.site w.events answer events ∧ client.checkExpectations.Leads w answer events := by
  unfold checkExpectations
  refine asked_leads (fun url response u => ?_) w
  have judged : (liftM (judge url response) : Act World Unit).Leads u (judge url response) [] := .lift _
  cases verdict : judge url response with
  | error error =>
    rw [verdict] at judged
    exact .bind_error judged
  | ok =>
    rw [verdict] at judged
    exact judged.bind_quiet fun _ => .say ..

theorem server_initContract_leads (client : ContractClient) (contract : String) (w : World) : ∃ answer events,
    Asked client "/init" [(contractParameter, contract)] (fun _ _ => .ok ()) w.site w.events answer events ∧
      (client.server.initContract contract).Leads w answer events := by
  obtain ⟨answer, events, asked, leads⟩ := initContract_leads client contract
    (w.write ⟨.debug, "contract_runner::scan", "contract directive", [("contract", Text.quoted contract)]⟩)
  exact ⟨answer, events, asked, .after (say_runAt ..) (.write w _) leads⟩

end ContractSuite.ContractClient
