import TimestreamOdbc.Authentication.Okta
import TimestreamOdbc.Connection
import TimestreamOdbc.Lib.Delimited

/-!
# Credentials from identity providers

`TimestreamSAMLCredentialsProvider` and its two kinds, for Okta and for Azure Active Directory: a token
is requested with the name and the password of the user, a SAML assertion is made of what comes back, and
the credentials are those that the security token service gives for the assertion.

The HTTP client, the readers of JSON and of Base64 and the security token service are not part of the
repository.  A string from the network is the list of its bytes.
-/

namespace TimestreamOdbc

namespace Saml

/-! ## The library -/

/-- `Aws::Http::HttpMethod`. -/
inductive HttpMethod where
  | httpGet
  | httpPost
  deriving DecidableEq, Repr

/-- An HTTP request. -/
structure HttpRequest where
  method : HttpMethod
  uri : Text
  headers : List (Text × Text)
  query : List (Text × List UInt8)
  body : Text
  deriving DecidableEq, Repr

/-- An HTTP response; a client error has a message. -/
structure HttpResponse where
  code : ℕ
  clientError : Option String
  body : List UInt8

/-- `HttpResponseCode::OK`. -/
def httpOK : ℕ := 200

/-- What a JSON document has under the keys of its object. -/
structure JsonView where
  valueExists : Text → Bool
  getString : Text → List UInt8

/-- `AssumeRoleWithSAMLRequest`. -/
structure AssumeRoleRequest where
  roleArn : Text
  samlAssertion : List UInt8
  principalArn : Text
  deriving DecidableEq, Repr

/-- The parts of the library that the providers use, and the services behind them. The response to a
request can depend on the requests before it, which come first. -/
structure Library (κ : Type) where
  makeRequest : List HttpRequest → HttpResponse
  parseJson : List UInt8 → Except String JsonView
  writeReadable : List (Text × Text) → Text
  urlEncodePath : Text → Text
  base64Decode : List UInt8 → List UInt8
  base64Encode : List UInt8 → List UInt8
  assumeRoleWithSAML : AssumeRoleRequest → Except (String × String) κ
  /-- `AWSCredentials` that were not set. -/
  noCredentials : κ
  isExpiredOrEmpty : κ → Bool

/-- The kinds of providers. -/
inductive Provider where
  | okta
  | aad
  deriving DecidableEq, Repr

/-- The provider for a type of authentication. -/
def providerFor : AuthType → Option Provider
  | .okta => some .okta
  | .aad => some .aad
  | .awsProfile | .iam => none

variable {κ : Type}

/-! ## Tokens -/

/-- The texts of the errors about a token, and the key under which it is. -/
structure TokenTexts where
  failed : String
  clientError : String
  parse : String
  key : Text
  missing : String

/-- An error about a response, with the message of a client error. -/
def responseError (errInfo clientError : String) (response : HttpResponse) : String :=
  errInfo ++ match response.clientError with
    | some message => clientError ++ message ++ "'."
    | none => ""

/-- A request for a token: the token and the error, one of which is empty. -/
def requestToken (lib : Library κ) (texts : TokenTexts) (req : HttpRequest) : List UInt8 × String :=
  let response := lib.makeRequest [req]
  if response.code ≠ httpOK then ([], responseError texts.failed texts.clientError response)
  else
    match lib.parseJson response.body with
    | .error message => ([], texts.parse ++ message)
    | .ok bodyJsonView =>
      if bodyJsonView.valueExists texts.key then (bodyJsonView.getString texts.key, "")
      else ([], texts.missing)

/-- `application/json`, in the headers `accept` and `content-type`. -/
def applicationJson : Text := "application/json".toList

/-- `CreateSessionTokenReq`. -/
def createSessionTokenReq (lib : Library κ) (cfg : Configuration) : HttpRequest :=
  { method := .httpPost
    uri := "https://".toList ++ cfg.getIdPHost ++ "/api/v1/authn".toList
    headers := [("accept".toList, applicationJson), ("content-type".toList, applicationJson)]
    query := []
    body := lib.writeReadable
      [("username".toList, cfg.getDSNUserName), ("password".toList, cfg.getDSNPassword)] }

/-- `GetSessionToken`. -/
def getSessionToken (lib : Library κ) (cfg : Configuration) : List UInt8 × String :=
  requestToken lib
    { failed := "Failed to get Okta session token."
      clientError := " Error info: '"
      parse := "Error parsing response body. "
      key := "sessionToken".toList
      missing := "No session token in the Okta response body" }
    (createSessionTokenReq lib cfg)

/-- The request for an access token that `GetAccessToken` makes. -/
def accessTokenReq (lib : Library κ) (cfg : Configuration) : HttpRequest :=
  { method := .httpPost
    uri := "https://login.microsoftonline.com/".toList ++ cfg.getAADTenant ++ "/oauth2/token".toList
    headers := [("accept".toList, applicationJson),
      ("content-type".toList, "application/x-www-form-urlencoded".toList)]
    query := []
    body := ("grant_type=password&requested_token_type=urn%3Aietf%3Aparams%3Aoauth%3Atoken-type%3A" ++
        "saml2&username=").toList ++ lib.urlEncodePath cfg.getDSNUserName ++
      "&password=".toList ++ lib.urlEncodePath cfg.getDSNPassword ++
      "&client_secret=".toList ++ lib.urlEncodePath cfg.getAADClientSecret ++
      "&client_id=".toList ++ lib.urlEncodePath cfg.getAADAppId ++
      "&resource=".toList ++ lib.urlEncodePath cfg.getAADAppId }

/-- `GetAccessToken`. -/
def getAccessToken (lib : Library κ) (cfg : Configuration) : List UInt8 × String :=
  requestToken lib
    { failed := "Request to Azure Active Directory for access token failed."
      clientError := " Client error: '"
      parse := "Error parsing response body: "
      key := "access_token".toList
      missing := "Unable to extract the access token from the Azure AD response body." }
    (accessTokenReq lib cfg)

/-! ## Assertions -/

/-- What `GetSAMLAssertion` leaves: the assertion, which is empty when there is none, the error, and the
requests that were made. -/
structure AssertionAnswer where
  samlAssertion : List UInt8
  errInfo : String
  requests : List HttpRequest

/-- The bytes of a text. -/
def toBytes (s : String) : List UInt8 := s.toList.map Char.toUInt8

/-- `SAML_RESPONSE_PATTERN`, in front of its group and behind it. -/
def samlResponseStart : List UInt8 := toBytes "<input name=\"SAMLResponse\" type=\"hidden\" value=\""
def samlResponseEnd : List UInt8 := toBytes "\"/>"

/-- What the dot of a regular expression matches. -/
def isDot (b : UInt8) : Bool := b ≠ '\n'.toUInt8 && b ≠ '\r'.toUInt8

/-- `std::regex_search` with `SAML_RESPONSE_PATTERN`: what its group, which takes as little as it can,
has at the first place that matches. -/
def searchSamlResponse (body : List UInt8) : Option (List UInt8) :=
  Delimited.search samlResponseStart samlResponseEnd isDot body

/-- The request for the page with the assertion that `GetSAMLAssertion` makes. -/
def samlGetRequest (cfg : Configuration) (sessionToken : List UInt8) : HttpRequest :=
  { method := .httpGet
    uri := "https://".toList ++ cfg.getIdPHost ++ "/app/amazon_aws/".toList ++ cfg.getOktaAppId ++
      "/sso/saml".toList
    headers := []
    query := [("onetimetoken".toList, sessionToken)]
    body := [] }

/-- `TimestreamOktaCredentialsProvider::GetSAMLAssertion`. -/
def oktaGetSAMLAssertion (lib : Library κ) (cfg : Configuration) : Option AssertionAnswer :=
  let (sessionToken, errInfo) := getSessionToken lib cfg
  let requests := [createSessionTokenReq lib cfg]
  if sessionToken = [] then some ⟨[], errInfo, requests⟩
  else
    let requests := requests ++ [samlGetRequest cfg sessionToken]
    let response := lib.makeRequest requests
    if response.code ≠ httpOK then
      some ⟨[], responseError "Failed to get SAML asseration." " Client error: '" response, requests⟩
    else
      match searchSamlResponse response.body with
      | some value =>
        (Okta.decodeNumericCharacters value).map fun samlResponse => ⟨samlResponse, errInfo, requests⟩
      | none => some ⟨[], "Could not extract SAMLResponse from the Okta response body", requests⟩

/-- The padding that is put behind an access token. -/
def pad (accessToken : List UInt8) : List UInt8 :=
  match accessToken.length % 4 with
  | 1 => accessToken ++ toBytes "==="
  | 2 => accessToken ++ toBytes "=="
  | 3 => accessToken ++ toBytes "="
  | _ => accessToken

/-- The SAML response around an assertion. -/
def samlResponseOf (decoded : List UInt8) : List UInt8 :=
  toBytes ("<samlp:Response xmlns:samlp=\"urn:oasis:names:tc:SAML:2.0:protocol\"><samlp:Status>" ++
      "<samlp:StatusCode Value=\"urn:oasis:names:tc:SAML:2.0:status:Success\"/></samlp:Status>") ++
    decoded ++ toBytes "</samlp:Response>"

/-- `TimestreamAADCredentialsProvider::GetSAMLAssertion`. -/
def aadGetSAMLAssertion (lib : Library κ) (cfg : Configuration) : AssertionAnswer :=
  let (accessToken, errInfo) := getAccessToken lib cfg
  let requests := [accessTokenReq lib cfg]
  if accessToken = [] then ⟨[], errInfo, requests⟩
  else
    let decoded := lib.base64Decode (pad accessToken)
    ⟨lib.base64Encode (samlResponseOf decoded), errInfo, requests⟩

/-- `GetSAMLAssertion`; nothing when it reads behind a string. -/
def getSAMLAssertion (lib : Library κ) (provider : Provider) (cfg : Configuration) :
    Option AssertionAnswer :=
  match provider with
  | .okta => oktaGetSAMLAssertion lib cfg
  | .aad => some (aadGetSAMLAssertion lib cfg)

/-! ## Credentials -/

/-- What `GetAWSCredentials` leaves: its result, the credentials and the error, and what was requested. -/
structure CredentialsResult (κ : Type) where
  retval : Bool
  credentials : κ
  errInfo : String
  requests : List HttpRequest
  stsRequests : List AssumeRoleRequest

/-- The request for credentials. -/
def assumeRoleRequest (cfg : Configuration) (samlAssertion : List UInt8) : AssumeRoleRequest :=
  ⟨cfg.getRoleArn, samlAssertion, cfg.getIdPArn⟩

/-- `FetchCredentialsWithSAMLAssertion`: the result, the credentials and the error. -/
def fetchCredentialsWithSAMLAssertion (lib : Library κ) (samlRequest : AssumeRoleRequest)
    (errInfo : String) : Bool × κ × String :=
  match lib.assumeRoleWithSAML samlRequest with
  | .ok credentials => (true, credentials, errInfo)
  | .error (exceptionName, message) =>
    (false, lib.noCredentials,
      "Failed to fetch credentials, ERROR: " ++ exceptionName ++ ": " ++ message)

/-- `GetAWSCredentials`, of credentials that were not set. -/
def getAWSCredentials (lib : Library κ) (provider : Provider) (cfg : Configuration) :
    Option (CredentialsResult κ) := do
  let answer ← getSAMLAssertion lib provider cfg
  if answer.samlAssertion = [] then
    some ⟨false, lib.noCredentials, answer.errInfo, answer.requests, []⟩
  else
    let samlRequest := assumeRoleRequest cfg answer.samlAssertion
    let (retval, credentials, errInfo) := fetchCredentialsWithSAMLAssertion lib samlRequest answer.errInfo
    some ⟨retval, credentials, errInfo, answer.requests, [samlRequest]⟩

/-- The answer that `TryRestoreConnection` gets from a provider. -/
def CredentialsResult.answer (lib : Library κ) (result : CredentialsResult κ) : CredentialsAnswer κ :=
  ⟨result.credentials, lib.isExpiredOrEmpty result.credentials, result.errInfo⟩

/-! ## What is issued -/

section Issued

variable {lib : Library κ} {cfg : Configuration} {provider : Provider}

/-- A request is answered with a token, which is not empty. -/
structure IssuesToken (lib : Library κ) (req : HttpRequest) (key : Text) (token : List UInt8) : Prop where
  ok : (lib.makeRequest [req]).code = httpOK
  json : ∃ view, lib.parseJson (lib.makeRequest [req]).body = .ok view ∧
    view.valueExists key = true ∧ view.getString key = token
  ne_nil : token ≠ []

/-- What is returned as a token is what was issued; then there is no error. -/
lemma requestToken_iff {texts : TokenTexts} {req : HttpRequest} {token : List UInt8} (hne : token ≠ []) :
    (requestToken lib texts req).1 = token ↔ IssuesToken lib req texts.key token := by
  unfold requestToken
  by_cases hcode : (lib.makeRequest [req]).code = httpOK
  · rw [if_neg (not_not.mpr hcode)]
    cases hjson : lib.parseJson (lib.makeRequest [req]).body with
    | error message =>
      refine iff_of_false (fun h => hne h.symm) fun h => ?_
      obtain ⟨view, hview, -⟩ := h.json
      rw [hjson] at hview
      cases hview
    | ok view =>
      dsimp only
      by_cases hkey : view.valueExists texts.key = true
      · rw [if_pos hkey]
        constructor
        · intro h
          exact ⟨hcode, ⟨view, hjson, hkey, h⟩, hne⟩
        · intro h
          obtain ⟨view', hview, -, htoken⟩ := h.json
          rw [hjson] at hview
          cases hview
          exact htoken
      · rw [if_neg hkey]
        refine iff_of_false (fun h => hne h.symm) fun h => ?_
        obtain ⟨view', hview, hkey', -⟩ := h.json
        rw [hjson] at hview
        cases hview
        exact hkey hkey'
  · rw [if_pos hcode]
    exact iff_of_false (fun h => hne h.symm) fun h => hcode h.ok

/-- The identity provider issues an assertion: Okta in a page that it gives for a session token, and
Active Directory as the access token. -/
inductive Issues (lib : Library κ) (cfg : Configuration) : Provider → List UInt8 → Prop
  | okta {token value assertion : List UInt8}
      (htoken : IssuesToken lib (createSessionTokenReq lib cfg) "sessionToken".toList token)
      (hcode : (lib.makeRequest [createSessionTokenReq lib cfg, samlGetRequest cfg token]).code = httpOK)
      (hvalue : searchSamlResponse
        (lib.makeRequest [createSessionTokenReq lib cfg, samlGetRequest cfg token]).body = some value)
      (hassertion : Okta.decodeNumericCharacters value = some assertion) :
      Issues lib cfg .okta assertion
  | aad {token : List UInt8}
      (htoken : IssuesToken lib (accessTokenReq lib cfg) "access_token".toList token) :
      Issues lib cfg .aad (lib.base64Encode (samlResponseOf (lib.base64Decode (pad token))))

/-- The request for a token, which is the only one with the name and the password of the user. -/
def tokenRequest (lib : Library κ) (cfg : Configuration) : Provider → HttpRequest
  | .okta => createSessionTokenReq lib cfg
  | .aad => accessTokenReq lib cfg

/-- A request for a page is made after the session token for it was issued. -/
def AsksForPage (lib : Library κ) (cfg : Configuration) (provider : Provider) (req : HttpRequest) : Prop :=
  provider = .okta ∧ ∃ token, IssuesToken lib (createSessionTokenReq lib cfg) "sessionToken".toList token ∧
    req = samlGetRequest cfg token

/-- What `GetSAMLAssertion` leaves: an assertion that is not empty was issued, and the requests were made
one after the other. -/
structure AssertionAnswer.Sound (lib : Library κ) (cfg : Configuration) (provider : Provider)
    (answer : AssertionAnswer) : Prop where
  issued : ∀ assertion, assertion ≠ [] → (answer.samlAssertion = assertion ↔ Issues lib cfg provider assertion)
  requests : answer.requests = [tokenRequest lib cfg provider] ∨
    ∃ req, answer.requests = [tokenRequest lib cfg provider, req] ∧ AsksForPage lib cfg provider req

/-- An issued assertion has its token. -/
lemma Issues.exists_token {assertion : List UInt8} (h : Issues lib cfg .okta assertion) :
    ∃ token value, IssuesToken lib (createSessionTokenReq lib cfg) "sessionToken".toList token ∧
      (lib.makeRequest [createSessionTokenReq lib cfg, samlGetRequest cfg token]).code = httpOK ∧
      searchSamlResponse
        (lib.makeRequest [createSessionTokenReq lib cfg, samlGetRequest cfg token]).body = some value ∧
      Okta.decodeNumericCharacters value = some assertion := by
  cases h with
  | okta htoken hcode hvalue hassertion => exact ⟨_, _, htoken, hcode, hvalue, hassertion⟩

/-- There is one token. -/
lemma IssuesToken.unique {req : HttpRequest} {key : Text} {token token' : List UInt8}
    (h : IssuesToken lib req key token) (h' : IssuesToken lib req key token') : token = token' := by
  obtain ⟨view, hview, -, rfl⟩ := h.json
  obtain ⟨view', hview', -, rfl⟩ := h'.json
  rw [hview] at hview'
  cases hview'
  rfl

/-- Okta's assertion. -/
lemma oktaGetSAMLAssertion_sound {answer : AssertionAnswer}
    (h : oktaGetSAMLAssertion lib cfg = some answer) : answer.Sound lib cfg .okta := by
  unfold oktaGetSAMLAssertion at h
  have htokens : ∀ {token}, token ≠ [] → ((getSessionToken lib cfg).1 = token ↔
      IssuesToken lib (createSessionTokenReq lib cfg) "sessionToken".toList token) :=
    fun hne => requestToken_iff hne
  generalize getSessionToken lib cfg = result at h htokens
  obtain ⟨token, errInfo⟩ := result
  by_cases htoken : token = []
  · subst htoken
    simp only [if_true, Option.some.injEq] at h
    subst h
    refine ⟨fun assertion hne => iff_of_false hne.symm fun hissued => ?_, .inl rfl⟩
    obtain ⟨token, value, hissues, -⟩ := hissued.exists_token
    exact hissues.ne_nil ((htokens hissues.ne_nil).mpr hissues).symm
  · have hissues := (htokens htoken).mp rfl
    have hpage : AsksForPage lib cfg .okta (samlGetRequest cfg token) := ⟨rfl, token, hissues, rfl⟩
    simp only [htoken, if_false, List.singleton_append] at h
    by_cases hcode : (lib.makeRequest [createSessionTokenReq lib cfg, samlGetRequest cfg token]).code = httpOK
    · simp only [hcode, ne_eq, not_true, if_false] at h
      cases hvalue : searchSamlResponse
          (lib.makeRequest [createSessionTokenReq lib cfg, samlGetRequest cfg token]).body with
      | none =>
        simp only [hvalue, Option.some.injEq] at h
        subst h
        refine ⟨fun assertion hne => iff_of_false hne.symm fun hissued => ?_, .inr ⟨_, rfl, hpage⟩⟩
        obtain ⟨token', value, hissues', -, hvalue', -⟩ := hissued.exists_token
        rw [hissues'.unique hissues, hvalue] at hvalue'
        cases hvalue'
      | some value =>
        simp only [hvalue, Option.map_eq_some_iff] at h
        obtain ⟨samlResponse, hdecode, rfl⟩ := h
        refine ⟨fun assertion hne => ?_, .inr ⟨_, rfl, hpage⟩⟩
        constructor
        · rintro rfl
          exact .okta hissues hcode hvalue hdecode
        · intro hissued
          obtain ⟨token', value', hissues', -, hvalue', hdecode'⟩ := hissued.exists_token
          rw [hissues'.unique hissues, hvalue] at hvalue'
          cases hvalue'
          exact Option.some.inj (hdecode.symm.trans hdecode')
    · simp only [hcode, ne_eq, not_false_eq_true, if_true, Option.some.injEq] at h
      subst h
      refine ⟨fun assertion hne => iff_of_false hne.symm fun hissued => ?_, .inr ⟨_, rfl, hpage⟩⟩
      obtain ⟨token', value, hissues', hcode', -⟩ := hissued.exists_token
      rw [hissues'.unique hissues] at hcode'
      exact hcode hcode'

/-- Active Directory's assertion. -/
lemma aadGetSAMLAssertion_sound : (aadGetSAMLAssertion lib cfg).Sound lib cfg .aad := by
  unfold aadGetSAMLAssertion
  have htokens : ∀ {token}, token ≠ [] → ((getAccessToken lib cfg).1 = token ↔
      IssuesToken lib (accessTokenReq lib cfg) "access_token".toList token) :=
    fun hne => requestToken_iff hne
  generalize getAccessToken lib cfg = result at htokens
  obtain ⟨token, errInfo⟩ := result
  by_cases htoken : token = []
  · subst htoken
    dsimp only
    rw [if_pos rfl]
    refine ⟨fun assertion hne => iff_of_false hne.symm fun hissued => ?_, .inl rfl⟩
    cases hissued with
    | aad hissues => exact hissues.ne_nil ((htokens hissues.ne_nil).mpr hissues).symm
  · have hissues := (htokens htoken).mp rfl
    simp only [htoken, if_false]
    refine ⟨fun assertion hne => ?_, .inl rfl⟩
    constructor
    · rintro rfl
      exact .aad hissues
    · intro hissued
      cases hissued with
      | aad hissues' => rw [hissues'.unique hissues]

/-- What the providers return. -/
lemma getSAMLAssertion_sound {answer : AssertionAnswer}
    (h : getSAMLAssertion lib provider cfg = some answer) : answer.Sound lib cfg provider := by
  cases provider with
  | okta => exact oktaGetSAMLAssertion_sound h
  | aad =>
    obtain rfl := Option.some.inj h
    exact aadGetSAMLAssertion_sound

/-- What `GetAWSCredentials` asks of others, and what it returns. -/
structure CredentialsResult.Sound (lib : Library κ) (cfg : Configuration) (provider : Provider)
    (result : CredentialsResult κ) : Prop where
  requests : result.requests = [tokenRequest lib cfg provider] ∨
    ∃ req, result.requests = [tokenRequest lib cfg provider, req] ∧ AsksForPage lib cfg provider req
  stsRequests : ∀ reqs, reqs ≠ [] → (result.stsRequests = reqs ↔
    ∃ assertion, assertion ≠ [] ∧ Issues lib cfg provider assertion ∧ reqs = [assumeRoleRequest cfg assertion])
  credentials : ∀ credentials, lib.isExpiredOrEmpty credentials = false →
    (result.credentials = credentials ↔ ∃ assertion, assertion ≠ [] ∧ Issues lib cfg provider assertion ∧
      lib.assumeRoleWithSAML (assumeRoleRequest cfg assertion) = .ok credentials)

/-- The credentials are those that the token service gives for the assertion that was issued. -/
lemma getAWSCredentials_sound (hempty : lib.isExpiredOrEmpty lib.noCredentials = true)
    {result : CredentialsResult κ} (h : getAWSCredentials lib provider cfg = some result) :
    result.Sound lib cfg provider := by
  unfold getAWSCredentials at h
  obtain ⟨answer, hanswer, h⟩ := Option.bind_eq_some_iff.mp h
  have hsound := getSAMLAssertion_sound hanswer
  by_cases hassertion : answer.samlAssertion = []
  · have hnone : ∀ assertion, assertion ≠ [] → ¬ Issues lib cfg provider assertion := by
      intro assertion hne hissues
      have heq := (hsound.issued assertion hne).mpr hissues
      exact hne (heq.symm.trans hassertion)
    rw [if_pos hassertion] at h
    obtain rfl := Option.some.inj h
    refine ⟨hsound.requests, fun reqs hne => iff_of_false hne.symm ?_, fun credentials hcredentials =>
      iff_of_false ?_ ?_⟩
    · rintro ⟨assertion, hassertion, hissues, -⟩
      exact hnone assertion hassertion hissues
    · rintro rfl
      rw [hempty] at hcredentials
      cases hcredentials
    · rintro ⟨assertion, hassertion, hissues, -⟩
      exact hnone assertion hassertion hissues
  · have hissues := (hsound.issued _ hassertion).mp rfl
    have hunique : ∀ assertion, assertion ≠ [] → Issues lib cfg provider assertion →
        assertion = answer.samlAssertion := fun assertion hne hissues' =>
      ((hsound.issued assertion hne).mpr hissues').symm
    rw [if_neg hassertion] at h
    obtain rfl := Option.some.inj h
    refine ⟨hsound.requests, fun reqs hne => ?_, fun credentials hcredentials => ?_⟩
    · constructor
      · rintro rfl
        exact ⟨_, hassertion, hissues, rfl⟩
      · rintro ⟨assertion, hne', hissues', rfl⟩
        rw [hunique assertion hne' hissues']
    · have hgiven : (fetchCredentialsWithSAMLAssertion lib (assumeRoleRequest cfg answer.samlAssertion)
          answer.errInfo).2.1 = credentials ↔
          lib.assumeRoleWithSAML (assumeRoleRequest cfg answer.samlAssertion) = .ok credentials := by
        unfold fetchCredentialsWithSAMLAssertion
        cases lib.assumeRoleWithSAML (assumeRoleRequest cfg answer.samlAssertion) with
        | ok given => simp
        | error error =>
          refine iff_of_false ?_ nofun
          rintro rfl
          rw [hempty] at hcredentials
          cases hcredentials
      constructor
      · intro heq
        exact ⟨_, hassertion, hissues, hgiven.mp heq⟩
      · rintro ⟨assertion, hne', hissues', hok⟩
        rw [hunique assertion hne' hissues'] at hok
        exact hgiven.mpr hok

/-- A connection by an identity provider asks for its page and for credentials only after what they are
asked with was issued, each of them once; it is established if and only if credentials that can be used
were given for the assertion, and its client has them. -/
theorem tryRestoreConnection_saml (hempty : lib.isExpiredOrEmpty lib.noCredentials = true)
    (hprovider : providerFor cfg.getAuthType = some provider) {result : CredentialsResult κ}
    (hresult : getAWSCredentials lib provider cfg = some result) {world : World κ}
    (hworld : world.samlCredentials cfg = result.answer lib) (c : Connection κ) :
    result.Sound lib cfg provider ∧
      ((c.tryRestoreConnection world cfg).1 = none ↔
        ∃ assertion credentials, assertion ≠ [] ∧ Issues lib cfg provider assertion ∧
          lib.assumeRoleWithSAML (assumeRoleRequest cfg assertion) = .ok credentials ∧
          lib.isExpiredOrEmpty credentials = false ∧
          world.query (Connection.queryClientFor credentials cfg) = none) ∧
      (c.tryRestoreConnection world cfg).2.queryClient =
        if (c.tryRestoreConnection world cfg).1 = none then
          some (Connection.queryClientFor result.credentials cfg) else none := by
  have hsound := getAWSCredentials_sound hempty hresult
  have hcredentials : Connection.credentials world cfg = result.answer lib := by
    unfold Connection.credentials
    cases hauth : cfg.getAuthType with
    | okta => exact hworld
    | aad => exact hworld
    | awsProfile => rw [hauth] at hprovider; cases hprovider
    | iam => rw [hauth] at hprovider; cases hprovider
  refine ⟨hsound, ?_⟩
  unfold Connection.tryRestoreConnection
  rw [hcredentials]
  cases hexpired : lib.isExpiredOrEmpty result.credentials with
  | true =>
    have hanswer : (result.answer lib).expiredOrEmpty = true := hexpired
    simp only [hanswer, if_true, reduceCtorEq, if_false]
    refine ⟨iff_of_false not_false ?_, rfl⟩
    rintro ⟨assertion, credentials, hne, hissues, hok, hcredentials', -⟩
    obtain rfl := (hsound.credentials credentials hcredentials').mpr ⟨assertion, hne, hissues, hok⟩
    rw [hexpired] at hcredentials'
    cases hcredentials'
  | false =>
    have hanswer : (result.answer lib).expiredOrEmpty = false := hexpired
    have hgiven : (result.answer lib).credentials = result.credentials := rfl
    have hunique : ∀ assertion credentials, assertion ≠ [] → Issues lib cfg provider assertion →
        lib.assumeRoleWithSAML (assumeRoleRequest cfg assertion) = .ok credentials →
        lib.isExpiredOrEmpty credentials = false → credentials = result.credentials :=
      fun assertion credentials hne hissues hok hcredentials' =>
        ((hsound.credentials credentials hcredentials').mpr ⟨assertion, hne, hissues, hok⟩).symm
    obtain ⟨assertion, hne, hissues, hok⟩ := (hsound.credentials _ hexpired).mp rfl
    simp only [hanswer, Bool.false_eq_true, if_false, hgiven]
    cases hquery : world.query (Connection.queryClientFor result.credentials cfg) with
    | none =>
      simp only [if_true, true_iff, and_true]
      exact ⟨assertion, result.credentials, hne, hissues, hok, hexpired, hquery⟩
    | some error =>
      simp only [reduceCtorEq, false_iff, if_false]
      refine ⟨?_, rfl⟩
      rintro ⟨assertion', credentials, hne', hissues', hok', hcredentials', hnone⟩
      rw [hunique assertion' credentials hne' hissues' hok' hcredentials', hquery] at hnone
      cases hnone

/-! ## What is sent -/

/-- The identity provider sends an assertion, and the token service is to be asked with one: Okta writes it
into the first field for it of a page, any of its bytes as references, and Active Directory sends it in
Base64 without the padding at its end. -/
inductive Sends (lib : Library κ) (cfg : Configuration) : Provider → List UInt8 → List UInt8 → Prop
  | okta {token assertion encoded before after : List UInt8}
      (htoken : IssuesToken lib (createSessionTokenReq lib cfg) "sessionToken".toList token)
      (hcode : (lib.makeRequest [createSessionTokenReq lib cfg, samlGetRequest cfg token]).code = httpOK)
      (hbody : (lib.makeRequest [createSessionTokenReq lib cfg, samlGetRequest cfg token]).body =
        before ++ samlResponseStart ++ encoded ++ samlResponseEnd ++ after)
      (hencoded : Okta.Encoded assertion encoded) (hne : assertion ≠ [])
      (hplain : ∀ b ∈ encoded, isDot b = true ∧ b ≠ '"'.toUInt8)
      (hfirst : ∀ n < before.length, ¬ samlResponseStart <+:
        (before ++ samlResponseStart ++ encoded ++ samlResponseEnd ++ after).drop n) :
      Sends lib cfg .okta assertion assertion
  | aad {token document : List UInt8} {padding : ℕ}
      (htoken : IssuesToken lib (accessTokenReq lib cfg) "access_token".toList token)
      (hencode : lib.base64Encode document = token ++ List.replicate padding '='.toUInt8)
      (hpadding : padding ≤ 2) (hlength : (lib.base64Encode document).length % 4 = 0)
      (hdecode : lib.base64Decode (lib.base64Encode document) = document)
      (hne : lib.base64Encode (samlResponseOf document) ≠ []) :
      Sends lib cfg .aad document (lib.base64Encode (samlResponseOf document))

/-- What is encoded as references is decoded. -/
lemma decodeNumericCharacters_of_encoded {assertion encoded : List UInt8}
    (h : Okta.Encoded assertion encoded) : Okta.decodeNumericCharacters encoded = some assertion := by
  unfold Okta.decodeNumericCharacters
  split
  · next hshort => rw [Okta.eq_of_encoded_of_length_lt h hshort]
  · rw [Okta.decodeLoop_of_encoded [] h List.drop_zero, List.nil_append]

/-- The padding that was left out is put back. -/
lemma pad_eq {token : List UInt8} {padding : ℕ} (hpadding : padding ≤ 2)
    (hlength : (token ++ List.replicate padding '='.toUInt8).length % 4 = 0) :
    pad token = token ++ List.replicate padding '='.toUInt8 := by
  rw [List.length_append, List.length_replicate] at hlength
  unfold pad
  obtain hmod | hmod | hmod : padding = 0 ∧ token.length % 4 = 0 ∨ padding = 1 ∧ token.length % 4 = 3 ∨
      padding = 2 ∧ token.length % 4 = 2 := by omega
  · rw [hmod.1, hmod.2, List.replicate_zero, List.append_nil]
    rfl
  · rw [hmod.1, hmod.2]
    rfl
  · rw [hmod.1, hmod.2]
    rfl

/-- What is sent is issued. -/
lemma Sends.issues {sent asked : List UInt8} (h : Sends lib cfg provider sent asked) :
    Issues lib cfg provider asked ∧ asked ≠ [] := by
  cases h with
  | @okta token assertion encoded before after htoken hcode hbody hencoded hne hplain hfirst =>
    have hsearch : searchSamlResponse (before ++ samlResponseStart ++ encoded ++ samlResponseEnd ++ after) =
        some encoded :=
      Delimited.search_append (a := '"'.toUInt8) rfl (fun hmem => (hplain _ hmem).2 rfl)
        (fun b hb => (hplain b hb).1) hfirst
    exact ⟨.okta htoken hcode (hbody ▸ hsearch) (decodeNumericCharacters_of_encoded hencoded), hne⟩
  | aad htoken hencode hpadding hlength hdecode hne =>
    have hpad := pad_eq hpadding (hencode ▸ hlength)
    rw [← hencode] at hpad
    have hissues := Issues.aad htoken
    rw [hpad, hdecode] at hissues
    exact ⟨hissues, hne⟩

/-- What is issued is returned. -/
lemma Issues.exists_answer {assertion : List UInt8} (h : Issues lib cfg provider assertion) :
    ∃ answer, getSAMLAssertion lib provider cfg = some answer := by
  cases h with
  | @okta token value assertion htoken hcode hvalue hassertion =>
    have hfst : (getSessionToken lib cfg).1 = token := (requestToken_iff htoken.ne_nil).mpr htoken
    rw [getSAMLAssertion, oktaGetSAMLAssertion]
    generalize getSessionToken lib cfg = result at hfst ⊢
    obtain ⟨token', errInfo⟩ := result
    obtain rfl : token' = token := hfst
    simp only [htoken.ne_nil, if_false, List.singleton_append, hcode, ne_eq, not_true, hvalue, hassertion,
      Option.map_some, Option.some.injEq, exists_eq']
  | aad htoken => exact ⟨_, rfl⟩

/-- A provider that returns an assertion returns a result. -/
lemma exists_result_of_answer {answer : AssertionAnswer}
    (h : getSAMLAssertion lib provider cfg = some answer) :
    ∃ result, getAWSCredentials lib provider cfg = some result := by
  unfold getAWSCredentials
  rw [h, Option.bind_eq_bind, Option.bind_some]
  split
  · exact ⟨_, rfl⟩
  · exact ⟨_, rfl⟩

/-- The token service is asked with the assertion that was sent. -/
theorem asksWithSent {sent asked : List UInt8} (h : Sends lib cfg provider sent asked) :
    ∃ result, getAWSCredentials lib provider cfg = some result ∧
      result.stsRequests = [assumeRoleRequest cfg asked] := by
  obtain ⟨hissues, hne⟩ := h.issues
  obtain ⟨answer, hanswer⟩ := hissues.exists_answer
  have hassertion : answer.samlAssertion = asked :=
    ((getSAMLAssertion_sound hanswer).issued asked hne).mpr hissues
  unfold getAWSCredentials
  rw [hanswer, Option.bind_eq_bind, Option.bind_some, hassertion, if_neg hne]
  exact ⟨_, rfl, rfl⟩

end Issued

/-! ## A page of Okta -/

/-- The answer to a request for a session token. -/
def sampleTokenBody : List UInt8 := toBytes "\x7b\"sessionToken\":\"t\"\x7d"

/-- An assertion, and what is written for it. -/
def sampleAssertion : List UInt8 := toBytes "YWI="
def sampleEncoded : List UInt8 := toBytes "YWI&#x3d;"

/-- A page with the assertion. -/
def samplePage : List UInt8 :=
  toBytes "<form>" ++ samlResponseStart ++ sampleEncoded ++ samlResponseEnd ++ toBytes "</form>"

/-- Services that issue a session token, give the page for it, and accept the assertion. -/
def sampleLibrary : Library Bool :=
  { makeRequest := fun requests =>
      ⟨httpOK, none, if requests.length = 1 then sampleTokenBody else samplePage⟩
    parseJson := fun body =>
      if body = sampleTokenBody then
        .ok ⟨fun key => key = "sessionToken".toList,
          fun key => if key = "sessionToken".toList then toBytes "t" else []⟩
      else .error "Failed to parse JSON."
    writeReadable := fun fields =>
      "\x7b\n".toList ++ (",\n".toList).intercalate (fields.map fun (key, value) =>
        "\t\"".toList ++ key ++ "\":\t\"".toList ++ value ++ "\"".toList) ++ "\n\x7d".toList
    urlEncodePath := fun s => s
    base64Decode := fun s => s
    base64Encode := fun s => s
    assumeRoleWithSAML := fun req =>
      if req.samlAssertion = sampleAssertion then .ok true else .error ("ValidationError", "SAML")
    noCredentials := false
    isExpiredOrEmpty := fun credentials => !credentials }

/-- A configuration for Okta. -/
def sampleConfig : Configuration := Configuration.new.set .authType .okta

/-- The session token of the page. -/
lemma issuesToken_sample : IssuesToken sampleLibrary
    (createSessionTokenReq sampleLibrary sampleConfig) "sessionToken".toList (toBytes "t") :=
  ⟨rfl, ⟨_, rfl, by decide, by decide⟩, by decide⟩

/-- What is sent in the page. -/
lemma sends_sample : Sends sampleLibrary sampleConfig .okta sampleAssertion sampleAssertion := by
  refine .okta issuesToken_sample rfl (show _ = samplePage from rfl) ?_ (by decide) (by decide +kernel) ?_
  · exact .literal (by decide) (.literal (by decide) (.literal (by decide)
      (.reference (show Okta.isHex '3'.toUInt8 by decide) (show Okta.isHex 'd'.toUInt8 by decide) .nil)))
  · decide

/-- What a provider returns is the answer of the world. -/
def worldOf (lib : Library Bool) (provider : Provider) : World Bool :=
  { isValidDirectory := fun _ => false, dsnStore := fun _ _ => none, uninitialised := 0
    samlCredentials := fun cfg =>
      ((getAWSCredentials lib provider cfg).map fun result => result.answer lib).getD ⟨false, true, ""⟩
    profileCredentials := fun _ => ⟨false, true, ""⟩
    staticCredentials := fun _ _ _ => ⟨false, true, ""⟩, query := fun _ => none }

/-- A connection is established with the page. -/
theorem tryRestoreConnection_saml_page :
    (Connection.new.tryRestoreConnection (worldOf sampleLibrary .okta) sampleConfig).1 = none := by
  obtain ⟨hissues, hne⟩ := sends_sample.issues
  obtain ⟨answer, hanswer⟩ := hissues.exists_answer
  obtain ⟨result, hresult⟩ := exists_result_of_answer hanswer
  have hworld : (worldOf sampleLibrary .okta).samlCredentials sampleConfig =
      result.answer sampleLibrary := by
    simp only [worldOf, hresult, Option.map_some, Option.getD_some]
  exact (tryRestoreConnection_saml rfl rfl hresult hworld .new).2.1.mpr
    ⟨sampleAssertion, true, hne, hissues, rfl, rfl, rfl⟩

/-- The token service is asked with the assertion of the page. -/
theorem asksWithSent_page : ∃ result, getAWSCredentials sampleLibrary .okta sampleConfig = some result ∧
    result.stsRequests = [assumeRoleRequest sampleConfig sampleAssertion] :=
  asksWithSent sends_sample

end Saml

end TimestreamOdbc
