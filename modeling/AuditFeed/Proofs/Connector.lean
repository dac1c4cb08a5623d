import AuditFeed.Proofs.Feed.Continuation
import AuditFeed.Proofs.ServiceAccount
import AuditFeed.Proofs.ServiceAccount.Assertion
import AuditFeed.Proofs.ServiceAccount.Pem
import AuditFeed.Proofs.Text.Blank

/-!
# What a connector sends of its configuration

The check of a configuration looks past the blanks around the customer and the admin, and takes a
blank customer for none; it cannot tell a configuration from the one without them
(`ConnectorConfig.validate_checked`). What is sent is another matter: a request for a token names
the admin, in the claims of its assertion, and one for a page the customer, among its pairs, and
both are read off the configuration as it was given (`Connector.sends_as_given`). So what is sent is
what was checked exactly if there was nothing to look past.

## What a poll sends

A poll sends requests for tokens, requests for pages of its log and lookups of emails, and nothing
else (`Connector.exists_notes_poll`). The notes of the parts say so already, each for its own
requests; here they are put together under `Connector.MaySend`. What a request names is then read
off the request itself: the customer among the pairs of its URL, past those that the address of the
log brings along, and the admin by taking its assertion apart. No part of the poll has to be looked
at for it.

## A configuration with blanks

The last main statement follows one connector through its first two requests. Its admin has a blank
in front, its customer is nothing but a blank, and its key comes as text of a file, so that every
step from the configuration to the requests is taken.

## Main statements

* `Connector.exists_notes_poll`: what a poll may send.
* `Connector.sends_as_given`: what was given is sent, and when that is what was checked.
* `Connector.sends_blanks_paddedConfig`: a configuration whose blanks are sent.
-/

namespace AuditFeed

variable {ω : Type}

open Call

/-! ### What the check looks at -/

namespace ConnectorConfig

/-- The customer that the check looks at, if it is not blank. -/
def checkedCustomer (c : ConnectorConfig) : Option String :=
  (c.customerId.map Text.trim).filter (· ≠ "")

/-- The admin that the check looks at. -/
def checkedAdmin (c : ConnectorConfig) : String :=
  Text.trim c.adminEmail

/-- The configuration that the check looks at. -/
def checked (c : ConnectorConfig) : ConnectorConfig :=
  { c with customerId := c.checkedCustomer, adminEmail := c.checkedAdmin }

/-- Trimming sees no difference between the customer that is looked at and the one that was given: a
blank customer is trimmed to nothing, as none is. -/
theorem trim_checkedCustomer (c : ConnectorConfig) :
    Text.trim (c.checkedCustomer.getD "") = Text.trim (c.customerId.getD "") := by
  rcases hid : c.customerId with _ | id
  · rw [checkedCustomer, hid]
    rfl
  · rw [checkedCustomer, hid, Option.map_some, Option.filter_some]
    split
    · exact Text.trim_trim id
    · rename_i hblank
      have hempty : Text.trim id = "" := by simpa using hblank
      exact hempty.symm

/-- **The check cannot tell** a configuration from the one that it looks at. -/
theorem validate_checked (c : ConnectorConfig) : c.checked.validate = c.validate := by
  have htrim : Text.trim (c.checked.customerId.getD "") = Text.trim (c.customerId.getD "") :=
    c.trim_checkedCustomer
  have hcustomer : c.checked.customerFault = c.customerFault := by
    rw [customerFault, customerFault, htrim]
    rfl
  have hagain : Text.trim c.checked.adminEmail = Text.trim c.adminEmail :=
    Text.trim_trim c.adminEmail
  have hadmin : c.checked.adminFault = c.adminFault := by
    rw [adminFault, adminFault, hagain]
  rw [validate, validate, fault, fault, hcustomer, hadmin]
  rfl

end ConnectorConfig

/-! ### What requests for pages name -/

/-- The values of the pairs of a name, in order. -/
def Url.values (url : Url) (name : String) : List String :=
  (url.pairs.filter (·.1 == name)).map (·.2)

/-- The added pairs of a name come behind those that the URL had. -/
theorem Url.values_addPairs (url : Url) (pairs : List (String × String)) (name : String) :
    (url.addPairs pairs).values name =
      url.values name ++ (pairs.filter (·.1 == name)).map (·.2) := by
  rw [values, pairs_addPairs, List.filter_append, List.map_append, values]

/-- A query has a pair for the customer exactly if it has a customer. -/
theorem ActivityQuery.customers_pairs (q : ActivityQuery) :
    (q.pairs.filter (·.1 == "customerId")).map (·.2) = q.customerId.toList := by
  obtain ⟨application, customerId, startTime, pageToken, maxResults, eventName⟩ := q
  cases customerId <;> cases startTime <;> cases pageToken <;> cases eventName <;> rfl

namespace Provider

/-- Does a request for a page of a log name this customer: is it the one value of its name behind
those of the address of the log, and is there none for no customer? -/
def NamesCustomer (p : Provider ω) (application : String) (customer : Option String)
    (request : Http.Request) : Prop :=
  ∃ address, Url.parse (p.endpoints.activities application) = .ok address ∧
    request.url.values "customerId" = address.values "customerId" ++ customer.toList

/-- **A request for a page names the customer of its query**, and no other: the values of the name
tell that customer apart from any other and from none. -/
theorem Lists.namesCustomer_iff {p : Provider ω} {query : ActivityQuery} {request : Http.Request}
    (h : p.Lists query request) {customer : Option String} :
    p.NamesCustomer query.application customer request ↔ customer = query.customerId := by
  obtain ⟨-, address, hparse, hurl⟩ := h
  have hvalues : request.url.values "customerId" =
      address.values "customerId" ++ query.customerId.toList := by
    rw [hurl, Url.values_addPairs, query.customers_pairs]
  constructor
  · rintro ⟨address', hparse', hcustomer⟩
    cases hparse.symm.trans hparse'
    rw [hvalues] at hcustomer
    have hhead (o : Option String) : o.toList.head? = o := by cases o <;> rfl
    rw [← hhead customer, ← List.append_cancel_left hcustomer, hhead]
  · rintro rfl
    exact ⟨address, hparse, hvalues⟩

end Provider

/-! ### What a poll sends -/

namespace Connector

/-- What the polls of a log may send: requests for tokens, requests for pages of the log, and
lookups. -/
def MaySend (c : Connector ω) (tokens : TokenSupply ω) (kind : FeedKind)
    (request : Http.Request) : Prop :=
  tokens.AsksToken request ∨ (∃ cursor, c.provider.Lists ((c.feed kind).query cursor) request) ∨
    c.provider.LooksUp request

/-- **A poll sends nothing else.** -/
theorem exists_notes_poll {c : Connector ω} {tokens : TokenSupply ω}
    (htokens : c.provider.tokens = tokens.source) {kind : FeedKind} {token : String}
    {requested : UInt32} {start : Option Instant} {s t : Session ω}
    {r : Except SyncError PollResult}
    (h : ((c.feed kind).poll token requested start).outcome s = .ok (r, t)) :
    ∃ work, Session.Notes (c.MaySend tokens kind) s t work := by
  have hsource : ∀ scope, (c.provider.tokens scope).Takes
      (Session.Move (c.MaySend tokens kind) fun _ _ ↦ True) := by
    rw [htokens]
    exact tokens.takes_source_of_asks fun _ hasks ↦ .inl hasks
  have hpoll : ((c.feed kind).poll token requested start).Takes
      (Session.Move (c.MaySend tokens kind) fun _ _ ↦ True) := by
    refine Feed.takes_poll_of_queries (fun cursor ↦ ?_) (fun type email ↦ ?_) token requested start
    · exact Provider.takes_activities hsource _ fun request url hmethod hparse hurl ↦
        .inr (.inl ⟨cursor, hmethod, url, hparse, hurl⟩)
    · refine Directory.takes_resolve (fun type email ↦ ?_) type email fun s answer t u _ ↦ ?_
      · exact Provider.takes_directory hsource type email fun request hlooks ↦ .inr (.inr hlooks)
      · exact .keep u trivial
  exact Session.exists_notes_of_moves (hpoll s r t h)

/-- What a poll posts in a new session are requests for tokens. -/
theorem asksToken_of_posted {c : Connector ω} {tokens : TokenSupply ω}
    (htokens : c.provider.tokens = tokens.source) {kind : FeedKind} {token : String}
    {requested : UInt32} {start : Option Instant} {s t : Session ω}
    {r : Except SyncError PollResult}
    (h : ((c.feed kind).poll token requested start).outcome s = .ok (r, t)) (hs : s.trace = [])
    {request : Http.Request} (hsent : request ∈ t.requests) (hpost : request.method = "POST") :
    tokens.AsksToken request := by
  obtain ⟨work, hwork⟩ := exists_notes_poll htokens h
  obtain ⟨step, hstep, hrequest⟩ := List.mem_filterMap.1 hsent
  cases step with
  | attempt request' =>
    cases hrequest
    rw [hwork.trace, hs, List.nil_append, List.mem_append] at hstep
    have hget : ¬ request.method = "GET" := by
      rw [hpost]
      decide
    rcases hstep with hstep | hstep
    · rcases hwork.sends request hstep with hasks | ⟨cursor, hlists⟩ | hlooks
      · exact hasks
      · exact absurd hlists.1 hget
      · exact absurd hlooks.1 hget
    · split at hstep <;> simp at hstep
  | _ => cases hrequest

/-- An account acts for the admin that it is made with. -/
theorem subject_of_ofKey {key : ServiceAccountKey} {subject : String} {sign : Signer}
    {network : Network ω} {policy : RetryPolicy} {a : ServiceAccount ω}
    (h : ServiceAccount.ofKey key subject sign network policy = .ok a) : a.subject = subject := by
  rw [ServiceAccount.ofKey] at h
  split at h
  · cases h
    rfl
  · cases h

/-- When there is a connector for a configuration, and which one it is. -/
theorem ofConfig_eq_ok_iff {config : ConnectorConfig} {files : Files}
    {sign : ServiceAccountKey → Signer} {network : Network ω} {policy : RetryPolicy}
    {c : Connector ω} :
    ofConfig config files sign network policy = .ok c ↔
      config.validate = .ok () ∧ Http.isHeaderText config.userAgent = true ∧
        ∃ key a, config.credentials.load files = .ok key ∧
          ServiceAccount.ofKey key config.adminEmail (sign key) network policy = .ok a ∧
          withTokens config a.tokens network policy = c := by
  rw [ofConfig]
  -- Check by check: where one fails, there is no connector, and the other side says so too.
  rcases config.validate with message | ⟨⟩
  · exact iff_of_false nofun nofun
  rcases Http.isHeaderText config.userAgent with _ | _
  · exact iff_of_false nofun nofun
  rcases config.credentials.load files with e | key
  · exact iff_of_false nofun nofun
  show (ServiceAccount.ofKey key config.adminEmail (sign key) network policy).mapError
    badCredentials >>= _ = _ ↔ _
  constructor
  · intro h
    rcases haccount : ServiceAccount.ofKey key config.adminEmail (sign key) network policy with
      e | a
    · rw [haccount] at h
      cases h
    · rw [haccount] at h
      exact ⟨rfl, rfl, key, a, rfl, haccount, Except.ok.inj h⟩
  · rintro ⟨-, -, _, a, ⟨⟩, haccount, rfl⟩
    rw [haccount]
    rfl

/-- **What is sent is what was given.** The check of a configuration cannot tell it from the one
without blanks around its customer and its admin and without a blank customer. But of the requests
that a poll sends,

* each one for a page of the log names the customer of the configuration as it was given, and names
  none if none was given: so it names the one that was checked exactly if they are the same;
* each one for a token, if the connector is made of the configuration, names the admin as it was
  given: so it names the one that was checked exactly if there are no blanks around it.

All others look up emails. -/
theorem sends_as_given (config : ConnectorConfig) (network : Network ω) (policy : RetryPolicy) :
    config.checked.validate = config.validate ∧
    (∀ tokens : TokenSupply ω,
      let c := withTokens config tokens.source network policy
      ∀ kind token requested start s r t,
        ((c.feed kind).poll token requested start).outcome s = .ok (r, t) →
        ∃ work, Session.Notes (fun request ↦ tokens.AsksToken request ∨
          (∃ cursor, c.provider.Lists ((c.feed kind).query cursor) request ∧
            ∀ customer, c.provider.NamesCustomer kind.application customer request ↔
              customer = config.customerId) ∨
          c.provider.LooksUp request) s t work) ∧
    ∀ files sign c, ofConfig config files sign network policy = .ok c →
      config.validate = .ok () ∧
      ∃ a : ServiceAccount ω, c = withTokens config (TokenSupply.account a).source network policy ∧
        ∀ request, (TokenSupply.account a).AsksToken request →
          ∀ admin, request.subject? = some admin ↔ admin = config.adminEmail := by
  refine ⟨config.validate_checked, fun tokens ↦ ?_, fun files sign c hc ↦ ?_⟩
  · intro c kind token requested start s r t h
    have htokens : c.provider.tokens = tokens.source := rfl
    obtain ⟨work, hwork⟩ := exists_notes_poll htokens h
    refine ⟨work, hwork.mono fun request hsent ↦ ?_⟩
    rcases hsent with hasks | ⟨cursor, hlists⟩ | hlooks
    · exact .inl hasks
    · exact .inr (.inl ⟨cursor, hlists, fun customer ↦ hlists.namesCustomer_iff⟩)
    · exact .inr (.inr hlooks)
  · obtain ⟨hvalid, -, key, a, -, haccount, rfl⟩ := ofConfig_eq_ok_iff.1 hc
    refine ⟨hvalid, a, rfl, fun request hasks admin ↦ ?_⟩
    obtain ⟨scope, now, assertion, hassertion, hrequest⟩ := hasks
    rw [ServiceAccount.subject?_of_tokenRequest hassertion hrequest, subject_of_ofKey haccount,
      Option.some_inj]
    exact eq_comm

/-! ### A configuration with blanks -/

open ServiceAccount

/-- A key in PEM form. -/
def sampleKey : ServiceAccountKey :=
  { lastingAccount.key with
    privateKey := String.ofList (Pem.armored "RSA PRIVATE KEY".toList sampleSecret) }

/-- That key as a file holds it. -/
def sampleKeyValue : Json.Value :=
  .object [("client_email", .text sampleKey.clientEmail),
    ("private_key", .text sampleKey.privateKey), ("token_uri", .text sampleKey.tokenUri)]

/-- The file is read as the key that was written to it. -/
theorem parse_sampleKey : ServiceAccountKey.parse sampleKeyValue.print = .ok sampleKey := by
  have hread : Json.serviceAccountKey.parse sampleKeyValue.print = .ok sampleKey := by
    have hplain : sampleKeyValue.IsPlain := ⟨trivial, trivial, trivial, trivial⟩
    rw [Json.Decoder.parse, Json.parse_print hplain]
    rfl
  have hmark : occursIn ServiceAccountKey.privateMark sampleKey.privateKey.toList = true := by
    show occursIn _ (String.ofList (Pem.armored _ sampleSecret)).toList = true
    rw [String.toList_ofList]
    decide +kernel
  have hemail : Text.trim sampleKey.clientEmail ≠ "" := by decide +kernel
  rw [ServiceAccountKey.parse, hread]
  show ServiceAccountKey.check sampleKey = _
  rw [ServiceAccountKey.check, if_neg hemail, hmark]
  rfl

/-- Its key is taken out of the armor. -/
theorem secret_sampleKey : ServiceAccountKey.secret sampleKey.privateKey = .ok sampleSecret := by
  have hparse : Pem.parse sampleKey.privateKey.toList = some ("RSA PRIVATE KEY", sampleSecret) := by
    show Pem.parse (String.ofList (Pem.armored _ sampleSecret)).toList = _
    rw [String.toList_ofList, Pem.parse_armored (by decide) (by decide) (by decide)]
    rfl
  have hblocks : (Der.parse sampleSecret).isSome = true := by decide +kernel
  obtain ⟨blocks, hblocks⟩ := Option.isSome_iff_exists.1 hblocks
  rw [ServiceAccountKey.secret, hparse]
  dsimp only
  rw [hblocks]
  rfl

/-- A configuration with a blank in front of the admin and nothing but a blank for the customer. -/
def paddedConfig : ConnectorConfig :=
  { ConnectorConfig.basic " admin@example.com" (.file "key.json") with
    customerId := some " ", domain := some "example.com", endpoints := .ofBase "http://[::1]" }

/-- A network in which everybody answers with a token. -/
def grantingNetwork : Network Unit where
  exchange _ peer :=
    (⟨.ok ⟨200, [], Text.utf8 "\x7b\"access_token\":\"t\"\x7d".toList, none⟩, none⟩, peer)
  draw peer := (0, peer)

/-- The account of a connector with that configuration. -/
def paddedAccount : ServiceAccount Unit :=
  ⟨sampleKey, sampleSecret, " admin@example.com", fun _ ↦ .ok [], grantingNetwork, .standard⟩

/-- The configuration passes, and this is the connector that is made of it. -/
theorem ofConfig_paddedConfig :
    ofConfig paddedConfig (fun _ ↦ .ok sampleKeyValue.print) (fun _ _ ↦ .ok []) grantingNetwork
      .standard = .ok (withTokens paddedConfig paddedAccount.tokens grantingNetwork .standard) := by
  have hfault : paddedConfig.fault = none := by decide +kernel
  have hname : Http.isHeaderText paddedConfig.userAgent = true := by decide +kernel
  have hload : paddedConfig.credentials.load (fun _ ↦ .ok sampleKeyValue.print) = .ok sampleKey :=
    parse_sampleKey
  have haccount : ServiceAccount.ofKey sampleKey paddedConfig.adminEmail (fun _ ↦ .ok [])
      grantingNetwork .standard = .ok paddedAccount := by
    rw [ServiceAccount.ofKey, secret_sampleKey]
    rfl
  exact ofConfig_eq_ok_iff.2 ⟨by rw [ConnectorConfig.validate, hfault], hname, sampleKey,
    paddedAccount, hload, haccount, rfl⟩

/-- **A blank customer and the blanks around an admin pass the check and are sent.** The first
request of that connector is for a token for an admin with a blank in front, and the second one is
for a page of a customer with a blank for a name. -/
theorem sends_blanks_paddedConfig :
    paddedConfig.validate = .ok () ∧ paddedConfig.checkedCustomer = none ∧
      paddedConfig.checkedAdmin = "admin@example.com" ∧
      ∃ c, ofConfig paddedConfig (fun _ ↦ .ok sampleKeyValue.print) (fun _ _ ↦ .ok [])
          grantingNetwork .standard = .ok c ∧
        ∃ r t asking listing,
          ((c.feed .admin).poll "" 0 (some .epoch)).outcome (.start () .epoch) = .ok (r, t) ∧
          t.requests = [asking, listing] ∧ asking.subject? = some " admin@example.com" ∧
          listing.url.values "customerId" = [" "] := by
  refine ⟨(ofConfig_eq_ok_iff.1 ofConfig_paddedConfig).1, by decide +kernel, by decide +kernel,
    _, ofConfig_paddedConfig, ?_⟩
  generalize hc : withTokens paddedConfig paddedAccount.tokens grantingNetwork .standard = c
  have hsent : (((c.feed .admin).poll "" 0 (some .epoch)).outcome
      (.start () .epoch)).toOption.map (fun x ↦ x.2.requests.map fun request ↦
        (request.method, request.url.values "customerId")) =
          some [("POST", []), ("GET", [" "])] := by
    rw [← hc]
    decide +kernel
  rcases h : ((c.feed .admin).poll "" 0 (some .epoch)).outcome (.start () .epoch) with o | ⟨r, t⟩
  · rw [h] at hsent
    cases hsent
  rw [h] at hsent
  obtain ⟨asking, rest, hrequests, hasking, hrest⟩ := List.map_eq_cons_iff.1 (Option.some.inj hsent)
  obtain ⟨listing, rfl, hlisting⟩ := List.map_eq_singleton_iff.1 hrest
  have hasks : (TokenSupply.account paddedAccount).AsksToken asking :=
    asksToken_of_posted (by rw [← hc]; rfl) h rfl (hrequests ▸ List.mem_cons_self)
      (Prod.mk.inj hasking).1
  obtain ⟨scope, now, assertion, hassertion, hrequest⟩ := hasks
  exact ⟨r, t, asking, listing, rfl, hrequests,
    ServiceAccount.subject?_of_tokenRequest hassertion hrequest, (Prod.mk.inj hlisting).2⟩

end Connector

end AuditFeed
