import Mathlib.Data.List.Chain
import Router1.Keenetic.Rci
import Router1.Remote.Layers

/-!
# Signing in to the router

Below an exchange stands a dialogue over HTTP. The service asks `/auth` for a challenge, answers it with a hash of
the password, and sends its request with the cookie of the session; if there is no challenge, if the answer is not
accepted or if the request is refused, it sends the request with the password itself. `_get` and `_postRci` take any
answer but 401 and 403; the import of a config and `_deleteRci` go on until a success.
-/

namespace Keenetic

open Dart Remote

/-! ### Requests -/

inductive Method where
  | get
  | post
  | delete
  deriving DecidableEq

/-- What is written to a request. -/
inductive Payload where
  | nothing
  | auth (login password : String)
  | request (request : Request)
  deriving DecidableEq

structure HttpRequest where
  method : Method
  path : String
  headers : List (String × String)
  payload : Payload
  deriving DecidableEq

structure HttpResponse where
  statusCode : Nat
  headers : List (String × List String)
  body : Body

def HttpResponse.isSuccess (r : HttpResponse) : Bool := 200 ≤ r.statusCode && r.statusCode < 300

abbrev HttpAnswer := Except Fault HttpResponse

abbrev Http := Program HttpRequest fun _ => HttpAnswer

/-- A request, and the exception that its connection raises. -/
def send (request : HttpRequest) : Http Fault HttpResponse := do
  match ← Program.request request with
  | .ok response => pure response
  | .error cause => throw cause

/-- `_headers`, for one name. -/
def HttpResponse.header (r : HttpResponse) (name : String) : Option String :=
  (r.headers.lookup name).map (String.intercalate " ")

def sessionCookie (r : HttpResponse) : Option String :=
  match r.headers.lookup "set-cookie" with
  | none | some [] => none
  | some (first :: _) =>
      let cookie := trim ((split first ';').headD "")
      if cookie.isEmpty then none else some cookie

/-! ### Credentials -/

structure Credentials where
  login : String
  password : String

/-- `_md5Hex` and `_sha256Hex`. -/
structure Digests where
  md5Hex : String → String
  sha256Hex : String → String

def base64Alphabet : List Char := "ABCDEFGHIJKLMNOPQRSTUVWXYZabcdefghijklmnopqrstuvwxyz0123456789+/".toList

/-- The character of six bits. -/
def base64Digit (n : Nat) : Char := base64Alphabet.getD (n % 64) '='

def base64Chars : List UInt8 → List Char
  | [] => []
  | [a] => [base64Digit (a.toNat / 4), base64Digit (a.toNat * 16), '=', '=']
  | [a, b] =>
      [base64Digit (a.toNat / 4), base64Digit (a.toNat * 16 + b.toNat / 16), base64Digit (b.toNat * 4), '=']
  | a :: b :: c :: rest =>
      base64Digit (a.toNat / 4) :: base64Digit (a.toNat * 16 + b.toNat / 16) ::
        base64Digit (b.toNat * 4 + c.toNat / 64) :: base64Digit c.toNat :: base64Chars rest

def base64Encode (bytes : List UInt8) : String := String.ofList (base64Chars bytes)

def accept : String × String := ("accept", "application/json")

def contentType : String × String := ("content-type", "application/json")

def userAgent : String × String := ("user-agent", "Router1")

def cookieHeaders (cookie : Option String) : List (String × String) := cookie.toList.map fun value => ("cookie", value)

/-- The password as `Basic` sends it. -/
def basicAuthorization (c : Credentials) : String × String :=
  ("authorization", "Basic " ++ base64Encode (c.login ++ ":" ++ c.password).toUTF8.toList)

/-- The answer to a challenge. -/
def responseHash (d : Digests) (c : Credentials) (challenge realm : String) : String :=
  d.sha256Hex (challenge ++ d.md5Hex (c.login ++ ":" ++ realm ++ ":" ++ c.password))

def challengeRequest : HttpRequest := ⟨.get, "/auth", [accept, userAgent], .nothing⟩

def authRequest (d : Digests) (c : Credentials) (cookie : Option String) (challenge realm : String) : HttpRequest :=
  ⟨.post, "/auth", [accept, contentType, userAgent] ++ cookieHeaders cookie,
    .auth c.login (responseHash d c challenge realm)⟩

def buildAuthHeaderCandidates (d : Digests) (c : Credentials) : Http Fault (List (List (String × String))) := do
  let response ← send challengeRequest
  let cookie := sessionCookie response
  let basic := basicAuthorization c :: cookieHeaders cookie
  match response.header "x-ndm-challenge", response.header "x-ndm-realm" with
  | some challenge, some realm =>
      let authResponse ← send (authRequest d c cookie challenge realm)
      if authResponse.isSuccess then
        pure [cookieHeaders ((sessionCookie authResponse).or cookie), basic]
      else pure [basic]
  | _, _ => pure [basic]

/-! ### Exchanges -/

def Request.method : Request → Method
  | .showInterfaces | .showInterface _ | .showIpRoute => .get
  | .deleteInterface _ => .delete
  | .cli _ | .interfaceUp _ | .interfaceDown _ | .importConfig _ _ | .save => .post

/-- The request of a service with the headers of a candidate. -/
def Request.http (request : Request) (headers : List (String × String)) : HttpRequest where
  method := request.method
  path := request.path
  headers := headers ++ [accept] ++ (if request.method = .post then [contentType] else []) ++ [userAgent]
  payload := if request.method = .post then .request request else .nothing

/-- The status is an answer for the service, so that no other candidate is tried. -/
def Request.accepts (request : Request) (status : Nat) : Bool :=
  match request with
  | .deleteInterface _ | .importConfig _ _ => 200 ≤ status && status < 300
  | _ => status ≠ 401 && status ≠ 403

/-- The loop over the candidates: the first answer that is accepted, or the last one. -/
def tryCandidates (request : Request) : HttpResponse → List (List (String × String)) → Http Fault HttpResponse
  | last, [] => pure last
  | _, headers :: candidates => do
      let response ← send (request.http headers)
      if request.accepts response.statusCode then pure response
      else tryCandidates request response candidates

def exchangeOverHttp (d : Digests) (c : Credentials) (request : Request) : Http Fault Response := do
  let candidates ← buildAuthHeaderCandidates d c
  let response ← tryCandidates request ⟨401, [], .blank⟩ candidates
  pure ⟨response.statusCode, response.body⟩

/-! ### What can follow what -/

section Dialogue

variable (d : Digests) (c : Credentials)

abbrev sessionHeaders (cookie : Option String) : List (String × String) := cookieHeaders cookie

abbrev basicHeaders (cookie : Option String) : List (String × String) := basicAuthorization c :: cookieHeaders cookie

/-- What can come right after a request and its answer. -/
inductive Follows : HttpRequest × HttpAnswer → HttpRequest × HttpAnswer → Prop where
  | anew (x : HttpRequest × HttpAnswer) (answer : HttpAnswer) : Follows x (challengeRequest, answer)
  | challenged {response : HttpResponse} {challenge realm : String}
      (hchallenge : response.header "x-ndm-challenge" = some challenge)
      (hrealm : response.header "x-ndm-realm" = some realm) (answer : HttpAnswer) :
      Follows (challengeRequest, .ok response) (authRequest d c (sessionCookie response) challenge realm, answer)
  | signedIn {response : HttpResponse} (cookie : Option String) (challenge realm : String)
      (hsuccess : response.isSuccess = true) (request : Request) (session : Option String) (answer : HttpAnswer) :
      Follows (authRequest d c cookie challenge realm, .ok response) (request.http (sessionHeaders session), answer)
  | unchallenged {response : HttpResponse}
      (hnone : response.header "x-ndm-challenge" = none ∨ response.header "x-ndm-realm" = none) (request : Request)
      (answer : HttpAnswer) :
      Follows (challengeRequest, .ok response) (request.http (basicHeaders c (sessionCookie response)), answer)
  | notSignedIn {response : HttpResponse} (cookie : Option String) (challenge realm : String)
      (hfailed : response.isSuccess = false) (request : Request) (answer : HttpAnswer) :
      Follows (authRequest d c cookie challenge realm, .ok response)
        (request.http (basicHeaders c cookie), answer)
  | refused {request : Request} {response : HttpResponse} (session cookie : Option String)
      (hrefused : request.accepts response.statusCode = false) (answer : HttpAnswer) :
      Follows (request.http (sessionHeaders session), .ok response)
        (request.http (basicHeaders c cookie), answer)

variable {d c}

theorem talks_send {request : HttpRequest} {talk : List (HttpRequest × HttpAnswer)}
    {result : Except Fault HttpResponse} (h : Program.Talks (send request) talk result) :
    talk = [(request, result)] := by
  rcases h.of_bind with ⟨error, -, herror⟩ | ⟨answer, first, second, rfl, hfirst, hsecond⟩
  · obtain ⟨_, -, hok⟩ := herror.of_request
    cases hok
  · obtain ⟨answer', rfl, hanswer⟩ := hfirst.of_request
    cases hanswer
    cases answer with
    | error cause =>
        obtain ⟨rfl, rfl⟩ := hsecond.of_throw
        rfl
    | ok response =>
        obtain ⟨rfl, rfl⟩ := hsecond.of_pure
        rfl

variable {talk : List (HttpRequest × HttpAnswer)} {request : Request} {last : HttpResponse}
  {headers headers' : List (String × String)} {result : Except Fault HttpResponse}

theorem talks_tryCandidates_cons {candidates : List (List (String × String))}
    (h : Program.Talks (tryCandidates request last (headers :: candidates)) talk result) :
    (talk = [(request.http headers, result)] ∧
        ∀ response, result = .ok response → request.accepts response.statusCode = true) ∨
      ∃ response rest, request.accepts response.statusCode = false ∧
        talk = (request.http headers, .ok response) :: rest ∧
        Program.Talks (tryCandidates request response candidates) rest result := by
  rcases h.of_bind with ⟨error, rfl, herror⟩ | ⟨response, first, second, rfl, hfirst, hsecond⟩
  · exact .inl ⟨talks_send herror, nofun⟩
  · rw [talks_send hfirst]
    split at hsecond
    next haccepts =>
      obtain ⟨rfl, rfl⟩ := hsecond.of_pure
      refine .inl ⟨rfl, ?_⟩
      rintro _ ⟨⟩
      exact haccepts
    next hrefused => exact .inr ⟨response, second, Bool.not_eq_true _ ▸ hrefused, rfl, hsecond⟩

theorem talks_tryCandidates_single (h : Program.Talks (tryCandidates request last [headers]) talk result) :
    talk = [(request.http headers, result)] := by
  rcases talks_tryCandidates_cons h with ⟨rfl, -⟩ | ⟨response, rest, -, rfl, hrest⟩
  · rfl
  · obtain ⟨rfl, rfl⟩ := hrest.of_pure
    rfl

theorem talks_tryCandidates_pair
    (h : Program.Talks (tryCandidates request last [headers, headers']) talk result) :
    (talk = [(request.http headers, result)] ∧
        ∀ response, result = .ok response → request.accepts response.statusCode = true) ∨
      ∃ response, request.accepts response.statusCode = false ∧
        talk = [(request.http headers, .ok response), (request.http headers', result)] := by
  rcases talks_tryCandidates_cons h with hone | ⟨response, rest, hrefused, rfl, hrest⟩
  · exact .inl hone
  · rw [talks_tryCandidates_single hrest]
    exact .inr ⟨response, hrefused, rfl⟩

/-- The ways to prepare a request, with the candidates they lead to. -/
inductive Prepared (d : Digests) (c : Credentials) :
    List (HttpRequest × HttpAnswer) → List (List (String × String)) → Prop where
  | unchallenged {response : HttpResponse}
      (hnone : response.header "x-ndm-challenge" = none ∨ response.header "x-ndm-realm" = none) :
      Prepared d c [(challengeRequest, .ok response)] [basicHeaders c (sessionCookie response)]
  | signedIn {response authResponse : HttpResponse} {challenge realm : String}
      (hchallenge : response.header "x-ndm-challenge" = some challenge)
      (hrealm : response.header "x-ndm-realm" = some realm) (hsuccess : authResponse.isSuccess = true)
      (session : Option String) :
      Prepared d c
        [(challengeRequest, .ok response),
          (authRequest d c (sessionCookie response) challenge realm, .ok authResponse)]
        [sessionHeaders session, basicHeaders c (sessionCookie response)]
  | notSignedIn {response authResponse : HttpResponse} {challenge realm : String}
      (hchallenge : response.header "x-ndm-challenge" = some challenge)
      (hrealm : response.header "x-ndm-realm" = some realm) (hfailed : authResponse.isSuccess = false) :
      Prepared d c
        [(challengeRequest, .ok response),
          (authRequest d c (sessionCookie response) challenge realm, .ok authResponse)]
        [basicHeaders c (sessionCookie response)]

/-- A dialogue begins with the question for a challenge. -/
structure Dialogue (d : Digests) (c : Credentials) (talk : List (HttpRequest × HttpAnswer)) : Prop where
  chain : talk.IsChain (Follows d c)
  begins : ∃ answer rest, talk = (challengeRequest, answer) :: rest

/-- The request carries the password, not a hash of it. -/
def HttpRequest.CarriesPassword (r : HttpRequest) : Prop := ∃ value, ("authorization", value) ∈ r.headers

theorem carriesPassword_basic (request : Request) (cookie : Option String) :
    (request.http (basicHeaders c cookie)).CarriesPassword := ⟨_, List.mem_cons_self⟩

/-- The messages of one exchange: what is said about the session, at most one sending of the request that is refused,
and the last message. If that one is about the session, it has failed; otherwise it sends the request, and a refusal
of it stands only if it had the password with it. -/
structure Messages (request : Request) (asked tried : List (HttpRequest × HttpAnswer))
    (last : HttpRequest × HttpAnswer) : Prop where
  session : ∀ x ∈ asked, x.1.path = "/auth"
  refused : ∀ x ∈ tried, ∃ headers response, x = (request.http headers, .ok response) ∧
    request.accepts response.statusCode = false
  once : tried.length ≤ 1
  ends : (tried = [] ∧ last.1.path = "/auth" ∧ ∃ cause, last.2 = .error cause) ∨
    ∃ headers, last.1 = request.http headers ∧
      ∀ response, last.2 = .ok response → request.accepts response.statusCode = true ∨ last.1.CarriesPassword

/-- What the service is told of an answer. -/
def replyOf : HttpAnswer → Except Fault Response
  | .error cause => .error cause
  | .ok response => .ok ⟨response.statusCode, response.body⟩

/-- The dialogue of one exchange ends with its answer. -/
structure DialogueOf (d : Digests) (c : Credentials) (request : Request) (answer : Except Fault Response)
    (talk : List (HttpRequest × HttpAnswer)) : Prop where
  dialogue : Dialogue d c talk
  messages : ∃ asked tried last, talk = asked ++ tried ++ [last] ∧ Messages request asked tried last ∧
    answer = replyOf last.2

theorem talks_buildAuthHeaderCandidates (request : Request) {result : Except Fault (List (List (String × String)))}
    (h : Program.Talks (buildAuthHeaderCandidates d c) talk result) :
    (∃ candidates, result = .ok candidates ∧ Prepared d c talk candidates) ∨
      ∃ error, result = .error error ∧ DialogueOf d c request (.error error) talk := by
  rcases h.of_bind with ⟨error, rfl, herror⟩ | ⟨response, first, second, rfl, hfirst, hsecond⟩
  · rw [talks_send herror]
    exact .inr ⟨error, rfl, ⟨List.isChain_singleton _, _, _, rfl⟩, [], [], _, rfl,
      ⟨nofun, nofun, Nat.zero_le 1, .inl ⟨rfl, rfl, error, rfl⟩⟩, rfl⟩
  · rw [talks_send hfirst]
    simp only at hsecond
    split at hsecond
    next challenge realm hchallenge hrealm =>
      rcases hsecond.of_bind with ⟨error, rfl, herror⟩ | ⟨authResponse, third, fourth, rfl, hthird, hfourth⟩
      · rw [talks_send herror]
        refine .inr ⟨error, rfl, ⟨List.isChain_pair.mpr ?_, _, _, rfl⟩, [_], [], _, rfl, ?_, rfl⟩
        · exact .challenged hchallenge hrealm _
        · exact ⟨List.forall_mem_singleton.mpr rfl, nofun, Nat.zero_le 1, .inl ⟨rfl, rfl, error, rfl⟩⟩
      · rw [talks_send hthird]
        split at hfourth
        next hsuccess =>
          obtain ⟨rfl, rfl⟩ := hfourth.of_pure
          exact .inl ⟨_, rfl, .signedIn hchallenge hrealm hsuccess _⟩
        next hfailed =>
          obtain ⟨rfl, rfl⟩ := hfourth.of_pure
          exact .inl ⟨_, rfl, .notSignedIn hchallenge hrealm (Bool.not_eq_true _ ▸ hfailed)⟩
    next hnone =>
      obtain ⟨rfl, rfl⟩ := hsecond.of_pure
      refine .inl ⟨_, rfl, .unchallenged ?_⟩
      cases hchallenge : response.header "x-ndm-challenge" with
      | none => exact .inl rfl
      | some challenge =>
          cases hrealm : response.header "x-ndm-realm" with
          | none => exact .inr rfl
          | some realm => exact absurd hrealm (hnone challenge realm hchallenge)

theorem Prepared.session {prepared : List (HttpRequest × HttpAnswer)} {candidates : List (List (String × String))}
    (h : Prepared d c prepared candidates) : ∀ x ∈ prepared, x.1.path = "/auth" := by
  cases h with
  | unchallenged => exact List.forall_mem_singleton.mpr rfl
  | signedIn | notSignedIn => exact List.forall_mem_cons.mpr ⟨rfl, List.forall_mem_singleton.mpr rfl⟩

theorem Prepared.messages {prepared : List (HttpRequest × HttpAnswer)} {candidates : List (List (String × String))}
    (hprepared : Prepared d c prepared candidates)
    (h : Program.Talks (tryCandidates request last candidates) talk result) :
    ∃ tried headers, talk = tried ++ [(request.http headers, result)] ∧
      Messages request prepared tried (request.http headers, result) := by
  have hsession := hprepared.session
  have honce : ∀ headers, (∀ response, result = .ok response →
      request.accepts response.statusCode = true ∨ (request.http headers).CarriesPassword) →
      Messages request prepared [] (request.http headers, result) :=
    fun headers hlast => ⟨hsession, nofun, Nat.zero_le 1, .inr ⟨headers, rfl, hlast⟩⟩
  cases hprepared with
  | unchallenged | notSignedIn =>
      rw [talks_tryCandidates_single h]
      exact ⟨[], _, rfl, honce _ fun _ _ => .inr (carriesPassword_basic request _)⟩
  | signedIn =>
      rcases talks_tryCandidates_pair h with ⟨rfl, haccepts⟩ | ⟨response, hrefused, rfl⟩
      · exact ⟨[], _, rfl, honce _ fun response hok => .inl (haccepts response hok)⟩
      · exact ⟨[_], _, rfl, hsession, List.forall_mem_singleton.mpr ⟨_, response, rfl, hrefused⟩, Nat.le_refl 1,
          .inr ⟨_, rfl, fun _ _ => .inr (carriesPassword_basic request _)⟩⟩

theorem Prepared.dialogue {prepared : List (HttpRequest × HttpAnswer)} {candidates : List (List (String × String))}
    (hprepared : Prepared d c prepared candidates)
    (h : Program.Talks (tryCandidates request last candidates) talk result) : Dialogue d c (prepared ++ talk) := by
  cases hprepared with
  | unchallenged hnone =>
      rw [talks_tryCandidates_single h]
      exact ⟨List.isChain_pair.mpr (.unchallenged hnone request result), _, _, rfl⟩
  | signedIn hchallenge hrealm hsuccess session =>
      rcases talks_tryCandidates_pair h with ⟨rfl, -⟩ | ⟨response, hrefused, rfl⟩
      · refine ⟨?_, _, _, rfl⟩
        refine .cons_cons (.challenged hchallenge hrealm _) (List.isChain_pair.mpr ?_)
        exact .signedIn _ _ _ hsuccess request session result
      · refine ⟨?_, _, _, rfl⟩
        refine .cons_cons (.challenged hchallenge hrealm _) (.cons_cons ?_ (List.isChain_pair.mpr ?_))
        · exact .signedIn _ _ _ hsuccess request session _
        · exact .refused session _ hrefused result
  | notSignedIn hchallenge hrealm hfailed =>
      rw [talks_tryCandidates_single h]
      refine ⟨?_, _, _, rfl⟩
      refine .cons_cons (.challenged hchallenge hrealm _) (List.isChain_pair.mpr ?_)
      exact .notSignedIn _ _ _ hfailed request result

theorem Prepared.dialogueOf {prepared : List (HttpRequest × HttpAnswer)} {candidates : List (List (String × String))}
    (hprepared : Prepared d c prepared candidates)
    (h : Program.Talks (tryCandidates request last candidates) talk result) :
    DialogueOf d c request (replyOf result) (prepared ++ talk) := by
  have hdialogue := hprepared.dialogue h
  obtain ⟨tried, headers, rfl, hmessages⟩ := hprepared.messages h
  exact ⟨hdialogue, prepared, tried, _, (List.append_assoc _ _ _).symm, hmessages, rfl⟩

theorem talks_exchangeOverHttp {result : Except Fault Response}
    (h : Program.Talks (exchangeOverHttp d c request) talk result) : DialogueOf d c request result talk := by
  rcases h.of_bind with ⟨error, rfl, herror⟩ | ⟨candidates, first, second, rfl, hfirst, hsecond⟩
  · rcases talks_buildAuthHeaderCandidates request herror with ⟨_, hok, -⟩ | ⟨_, hfail, hdialogue⟩
    · cases hok
    · cases hfail
      exact hdialogue
  · rcases talks_buildAuthHeaderCandidates request hfirst with
      ⟨candidates', hok, hprepared⟩ | ⟨error, hfail, -⟩
    · cases hok
      rcases hsecond.of_bind with ⟨error, rfl, herror⟩ | ⟨response, third, fourth, rfl, hthird, hfourth⟩
      · exact hprepared.dialogueOf herror
      · obtain ⟨rfl, rfl⟩ := hfourth.of_pure
        rw [List.append_nil]
        exact hprepared.dialogueOf hthird
    · cases hfail

theorem Dialogue.append {log : List (HttpRequest × HttpAnswer)} (hlog : log = [] ∨ Dialogue d c log)
    (h : Dialogue d c talk) : Dialogue d c (log ++ talk) := by
  rcases hlog with rfl | hlog
  · exact h
  · obtain ⟨answer, rest, rfl⟩ := h.begins
    obtain ⟨answer', rest', rfl⟩ := hlog.begins
    refine ⟨?_, answer', rest' ++ (challengeRequest, answer) :: rest, rfl⟩
    refine List.isChain_append.mpr ⟨hlog.chain, h.chain, fun x _ y hy => ?_⟩
    cases hy
    exact .anew x answer

end Dialogue

/-! ### The password -/

section Password

variable {d : Digests} {c : Credentials}

/-- The answer to the request before makes the password necessary: there is no challenge, the answer to it was not
accepted, or the same request was refused in the session. -/
inductive Needed (d : Digests) (c : Credentials) : HttpRequest → HttpResponse → HttpRequest → Prop where
  | unchallenged {response : HttpResponse} {r : HttpRequest}
      (hnone : response.header "x-ndm-challenge" = none ∨ response.header "x-ndm-realm" = none) :
      Needed d c challengeRequest response r
  | notSignedIn {response : HttpResponse} {r : HttpRequest} (cookie : Option String) (challenge realm : String)
      (hfailed : response.isSuccess = false) : Needed d c (authRequest d c cookie challenge realm) response r
  | refused {request : Request} {response : HttpResponse} (session cookie : Option String)
      (hrefused : request.accepts response.statusCode = false) :
      Needed d c (request.http (sessionHeaders session)) response (request.http (basicHeaders c cookie))

theorem not_mem_cookieHeaders (cookie : Option String) (value : String) :
    ("authorization", value) ∉ cookieHeaders cookie := by
  cases cookie with
  | none => exact List.not_mem_nil
  | some text => simp [cookieHeaders]

theorem not_carriesPassword_session (request : Request) (session : Option String) :
    ¬ (request.http (sessionHeaders session)).CarriesPassword := by
  rintro ⟨value, hmem⟩
  simp only [Request.http, List.mem_append, List.mem_singleton] at hmem
  rcases hmem with ((hmem | hmem) | hmem) | hmem
  · exact not_mem_cookieHeaders session value hmem
  · simp [accept] at hmem
  · split at hmem
    next => simp [contentType] at hmem
    next => cases hmem
  · simp [userAgent] at hmem

theorem not_carriesPassword_challenge : ¬ challengeRequest.CarriesPassword := by
  rintro ⟨value, hmem⟩
  simp [challengeRequest, accept, userAgent] at hmem

theorem not_carriesPassword_auth (cookie : Option String) (challenge realm : String) :
    ¬ (authRequest d c cookie challenge realm).CarriesPassword := by
  rintro ⟨value, hmem⟩
  rcases List.mem_append.mp hmem with hmem | hmem
  · simp [accept, contentType, userAgent] at hmem
  · exact not_mem_cookieHeaders cookie value hmem

theorem Follows.needed {x y : HttpRequest × HttpAnswer} (h : Follows d c x y) (hpassword : y.1.CarriesPassword) :
    ∃ response, x.2 = .ok response ∧ Needed d c x.1 response y.1 := by
  cases h with
  | anew x answer => exact absurd hpassword not_carriesPassword_challenge
  | challenged hchallenge hrealm answer => exact absurd hpassword (not_carriesPassword_auth _ _ _)
  | signedIn cookie challenge realm hsuccess request session answer =>
      exact absurd hpassword (not_carriesPassword_session request session)
  | unchallenged hnone request answer => exact ⟨_, rfl, .unchallenged hnone⟩
  | notSignedIn cookie challenge realm hfailed request answer =>
      exact ⟨_, rfl, .notSignedIn cookie challenge realm hfailed⟩
  | refused session cookie hrefused answer => exact ⟨_, rfl, .refused session cookie hrefused⟩

/-- A request of the service is sent again in its dialogue only after it was refused in the session. -/
theorem Follows.again {x y : HttpRequest × HttpAnswer} (h : Follows d c x y) (hpath : x.1.path ≠ "/auth")
    (hsame : y.1 ≠ challengeRequest) :
    ∃ response, x.2 = .ok response ∧ ¬ x.1.CarriesPassword ∧ Needed d c x.1 response y.1 ∧
      y.1.method = x.1.method ∧ y.1.path = x.1.path ∧ y.1.payload = x.1.payload := by
  cases h with
  | anew x answer => exact absurd rfl hsame
  | challenged hchallenge hrealm answer => exact absurd rfl hpath
  | signedIn cookie challenge realm hsuccess request session answer => exact absurd rfl hpath
  | unchallenged hnone request answer => exact absurd rfl hpath
  | notSignedIn cookie challenge realm hfailed request answer => exact absurd rfl hpath
  | refused session cookie hrefused answer =>
      exact ⟨_, rfl, not_carriesPassword_session _ session, .refused session cookie hrefused, rfl, rfl, rfl⟩

end Password

/-! ### Runs over HTTP -/

/-- The outside of a run: the state of the network, what was said to it, and the session of the service. -/
structure OverHttp (σ : Type) where
  network : σ
  log : List (HttpRequest × HttpAnswer)
  session : Session

section Runs

variable {σ α : Type} (d : Digests) (c : Credentials) (network : Program.Handler HttpRequest (fun _ => HttpAnswer) σ)
  (carriedOut : σ → σ → Nat → Bool) (lookups : Nat → Option (List InternetAddress))

/-- The calls of the service, with every exchange as a dialogue. What the router has carried out of a request is
read off the states of the network before and after it. -/
def OverHttp.handle : Program.Handler Call Call.Answer (OverHttp σ)
  | .exchange request, s =>
      let r := (exchangeOverHttp d c request).attempt.outcome (Program.logged network) (s.network, s.log)
      (r.1, ⟨r.2.1, r.2.2, { s.session with
        exchanges := s.session.exchanges ++ [⟨request, r.1, carriedOut s.network r.2.1⟩] }⟩)
  | .lookup domain, s =>
      let answer := lookups s.session.lookups.length
      (answer, { s with session := { s.session with lookups := s.session.lookups ++ [⟨domain, answer⟩] } })
  | .selected host, s => (s.session.selectedInterfaceByHost host, s)
  | .setSelected host name, s =>
      ((), { s with session := { s.session with
        selectedInterfaceByHost := Function.update s.session.selectedInterfaceByHost host (some name) } })
  | .standby host, s => (s.session.standbyInterfaceByHost host, s)
  | .setStandby host name, s =>
      ((), { s with session := { s.session with
        standbyInterfaceByHost := Function.update s.session.standbyInterfaceByHost host (some name) } })

variable {d c network carriedOut lookups}

theorem dialogue_of_run (p : Rci α) {s : OverHttp σ} (hs : s.log = [] ∨ Dialogue d c s.log) :
    (p.run (OverHttp.handle d c network carriedOut lookups) s).2.log = [] ∨
      Dialogue d c (p.run (OverHttp.handle d c network carriedOut lookups) s).2.log := by
  have hcalls : p.Calls fun _ => True := by
    induction p with
    | pure value => trivial
    | throw error => trivial
    | call op next ih => exact ⟨trivial, ih⟩
  refine hcalls.run_invariant (I := fun s : OverHttp σ => s.log = [] ∨ Dialogue d c s.log) ?_ hs
  intro op s _ hs
  cases op with
  | exchange request =>
      obtain ⟨talk, htalk, hlog⟩ := Program.Talks.of_outcome network (exchangeOverHttp d c request) s.network s.log
      right
      show Dialogue d c ((exchangeOverHttp d c request).attempt.outcome (Program.logged network)
        (s.network, s.log)).2.2
      rw [hlog]
      exact Dialogue.append hs (talks_exchangeOverHttp htalk).dialogue
  | lookup domain => exact hs
  | selected host => exact hs
  | setSelected host name => exact hs
  | standby host => exact hs
  | setStandby host name => exact hs

variable (d c network carriedOut lookups) in
/-- What a program says, from the start. -/
def OverHttp.talk (p : Rci α) (s : σ) (session : Session) : List (HttpRequest × HttpAnswer) :=
  (p.run (OverHttp.handle d c network carriedOut lookups) ⟨s, [], session⟩).2.log

theorem dialogue_of_talk (p : Rci α) (s : σ) (session : Session) :
    OverHttp.talk d c network carriedOut lookups p s session = [] ∨
      Dialogue d c (OverHttp.talk d c network carriedOut lookups p s session) :=
  dialogue_of_run p (.inl rfl)

theorem follows_of_dialogue {log : List (HttpRequest × HttpAnswer)} (h : log = [] ∨ Dialogue d c log) {i : Nat}
    {x y : HttpRequest × HttpAnswer} (hx : log[i]? = some x) (hy : log[i + 1]? = some y) : Follows d c x y := by
  rcases h with rfl | h
  · cases hx
  · obtain ⟨hi, rfl⟩ := List.getElem?_eq_some_iff.mp hx
    obtain ⟨hi', rfl⟩ := List.getElem?_eq_some_iff.mp hy
    exact h.chain.getElem i hi'

theorem needed_of_dialogue {log : List (HttpRequest × HttpAnswer)} (h : log = [] ∨ Dialogue d c log) {i : Nat}
    {y : HttpRequest × HttpAnswer} (hy : log[i]? = some y) (hpassword : y.1.CarriesPassword) :
    ∃ j x response, i = j + 1 ∧ log[j]? = some x ∧ x.2 = .ok response ∧ Needed d c x.1 response y.1 := by
  cases i with
  | zero =>
      rcases h with rfl | h
      · cases hy
      · obtain ⟨answer, rest, rfl⟩ := h.begins
        cases hy
        exact absurd hpassword not_carriesPassword_challenge
  | succ j =>
      obtain ⟨hj, -⟩ := List.getElem?_eq_some_iff.mp hy
      have hx := List.getElem?_eq_getElem (Nat.lt_of_succ_lt hj)
      obtain ⟨response, hresponse, hneeded⟩ := (follows_of_dialogue h hx hy).needed hpassword
      exact ⟨j, _, response, rfl, hx, hresponse, hneeded⟩

/-- **The password stays with the phone while the router plays its part.** In every run of every program of the
service, the password itself is sent only right after an answer that made it necessary; and a request is sent a
second time only right after it was refused in the session. -/
theorem password_of_run (p : Rci α) (s : σ) (session : Session) :
    (∀ i y, (OverHttp.talk d c network carriedOut lookups p s session)[i]? = some y → y.1.CarriesPassword →
      ∃ j x response, i = j + 1 ∧ (OverHttp.talk d c network carriedOut lookups p s session)[j]? = some x ∧
        x.2 = .ok response ∧ Needed d c x.1 response y.1) ∧
      ∀ i x y, (OverHttp.talk d c network carriedOut lookups p s session)[i]? = some x →
        (OverHttp.talk d c network carriedOut lookups p s session)[i + 1]? = some y → x.1.path ≠ "/auth" →
        y.1 ≠ challengeRequest →
        ∃ response, x.2 = .ok response ∧ ¬ x.1.CarriesPassword ∧ Needed d c x.1 response y.1 ∧
          y.1.method = x.1.method ∧ y.1.path = x.1.path ∧ y.1.payload = x.1.payload := by
  have htalk : OverHttp.talk d c network carriedOut lookups p s session = [] ∨
      Dialogue d c (OverHttp.talk d c network carriedOut lookups p s session) := dialogue_of_talk p s session
  refine ⟨fun i y hy hpassword => needed_of_dialogue htalk hy hpassword, fun i x y hx hy hpath hsame => ?_⟩
  exact (follows_of_dialogue htalk hx hy).again hpath hsame

/-! ### The exchanges of a run -/

/-- What a net answers, as a run found it. -/
def Net.of (session : Session) : Net where
  answers n := (session.exchanges[n]?).elim ⟨.error .timeout, fun _ => false⟩ Exchange.answer
  lookups n := (session.lookups[n]?).bind Lookup.answer

/-- The session keeps its exchanges and its lookups. -/
structure Session.Continues (s t : Session) : Prop where
  exchanges : s.exchanges <+: t.exchanges
  lookups : s.lookups <+: t.lookups

theorem Session.continues_refl (s : Session) : s.Continues s := ⟨List.prefix_rfl, List.prefix_rfl⟩

theorem Session.Continues.trans {s t u : Session} (hst : s.Continues t) (htu : t.Continues u) : s.Continues u :=
  ⟨hst.exchanges.trans htu.exchanges, hst.lookups.trans htu.lookups⟩

theorem OverHttp.handle_continues (op : Call) (s : OverHttp σ) :
    s.session.Continues (OverHttp.handle d c network carriedOut lookups op s).2.session := by
  cases op with
  | exchange request => exact ⟨List.prefix_append _ _, List.prefix_rfl⟩
  | lookup domain => exact ⟨List.prefix_rfl, List.prefix_append _ _⟩
  | selected host => exact s.session.continues_refl
  | setSelected host name => exact ⟨List.prefix_rfl, List.prefix_rfl⟩
  | standby host => exact s.session.continues_refl
  | setStandby host name => exact ⟨List.prefix_rfl, List.prefix_rfl⟩

theorem OverHttp.run_continues (p : Rci α) (s : OverHttp σ) :
    s.session.Continues (p.run (OverHttp.handle d c network carriedOut lookups) s).2.session := by
  induction p generalizing s with
  | pure value => exact s.session.continues_refl
  | throw error => exact s.session.continues_refl
  | call op next ih =>
      have hstep : s.session.Continues (OverHttp.handle d c network carriedOut lookups op s).2.session :=
        OverHttp.handle_continues op s
      exact hstep.trans (ih _ _)

theorem Net.handle_of {op : Call} {s : OverHttp σ} {later : Session}
    (h : (OverHttp.handle d c network carriedOut lookups op s).2.session.Continues later) :
    (Net.of later).handle op s.session =
      ((OverHttp.handle d c network carriedOut lookups op s).1,
        (OverHttp.handle d c network carriedOut lookups op s).2.session) := by
  cases op with
  | exchange request =>
      obtain ⟨rest, hrest⟩ := h.exchanges
      have hanswer : (Net.of later).answers s.session.exchanges.length =
          ⟨((exchangeOverHttp d c request).attempt.outcome (Program.logged network) (s.network, s.log)).1,
            carriedOut s.network ((exchangeOverHttp d c request).attempt.outcome (Program.logged network)
              (s.network, s.log)).2.1⟩ := by
        rw [Net.of]
        simp only
        rw [← hrest]
        simp [OverHttp.handle]
      simp only [Net.handle, hanswer]
      rfl
  | lookup domain =>
      obtain ⟨rest, hrest⟩ := h.lookups
      have hanswer : (Net.of later).lookups s.session.lookups.length = lookups s.session.lookups.length := by
        rw [Net.of]
        simp only
        rw [← hrest]
        simp [OverHttp.handle]
      simp only [Net.handle, hanswer]
      rfl
  | selected host => rfl
  | setSelected host name => rfl
  | standby host => rfl
  | setStandby host name => rfl

variable (d c network carriedOut lookups) in
/-- What holds over every net holds over HTTP: a run ends as it does over the net that gives the answers of its
exchanges. -/
theorem run_over_net (p : Rci α) (s : OverHttp σ) :
    ∃ net : Net, p.run net.handle s.session =
      ((p.run (OverHttp.handle d c network carriedOut lookups) s).1,
        (p.run (OverHttp.handle d c network carriedOut lookups) s).2.session) := by
  have hgeneral : ∀ later : Session,
      (p.run (OverHttp.handle d c network carriedOut lookups) s).2.session.Continues later →
      p.run (Net.of later).handle s.session =
        ((p.run (OverHttp.handle d c network carriedOut lookups) s).1,
          (p.run (OverHttp.handle d c network carriedOut lookups) s).2.session) := by
    induction p generalizing s with
    | pure value => exact fun _ _ => rfl
    | throw error => exact fun _ _ => rfl
    | call op next ih =>
        intro later hlater
        have hstep : (OverHttp.handle d c network carriedOut lookups op s).2.session.Continues later :=
          (OverHttp.run_continues _ _).trans hlater
        show (next ((Net.of later).handle op s.session).1).run (Net.of later).handle
          ((Net.of later).handle op s.session).2 = _
        rw [Net.handle_of hstep]
        exact ih _ _ later hlater
  exact ⟨Net.of _, hgeneral _ (Session.continues_refl _)⟩

/-- The dialogues of the exchanges, one after the other. -/
def Dialogues (d : Digests) (c : Credentials) (exchanges : List Exchange)
    (talks : List (List (HttpRequest × HttpAnswer))) : Prop :=
  List.Forall₂ (fun e talk => DialogueOf d c e.request e.answer.reply talk) exchanges talks

variable (d c network carriedOut lookups) in
/-- One call adds the dialogue of its exchange, or nothing. -/
theorem OverHttp.handle_dialogues (op : Call) (s : OverHttp σ) :
    ∃ exchanges talks, Dialogues d c exchanges talks ∧
      (OverHttp.handle d c network carriedOut lookups op s).2.session.exchanges = s.session.exchanges ++ exchanges ∧
      (OverHttp.handle d c network carriedOut lookups op s).2.log = s.log ++ talks.flatten := by
  have hnothing : ∃ exchanges talks, Dialogues d c exchanges talks ∧
      s.session.exchanges = s.session.exchanges ++ exchanges ∧ s.log = s.log ++ talks.flatten :=
    ⟨[], [], .nil, (List.append_nil _).symm, (List.append_nil _).symm⟩
  cases op with
  | exchange request =>
      obtain ⟨talk, htalk, hlog⟩ := Program.Talks.of_outcome network (exchangeOverHttp d c request) s.network s.log
      refine ⟨[⟨request, _, carriedOut s.network _⟩], [talk], .cons (talks_exchangeOverHttp htalk) .nil, rfl, ?_⟩
      rw [List.flatten_singleton, ← hlog]
      rfl
  | lookup | selected | setSelected | standby | setStandby => exact hnothing

variable (d c network carriedOut lookups) in
theorem OverHttp.run_dialogues (p : Rci α) (s : OverHttp σ) :
    ∃ exchanges talks, Dialogues d c exchanges talks ∧
      (p.run (OverHttp.handle d c network carriedOut lookups) s).2.session.exchanges =
        s.session.exchanges ++ exchanges ∧
      (p.run (OverHttp.handle d c network carriedOut lookups) s).2.log = s.log ++ talks.flatten := by
  induction p generalizing s with
  | pure value => exact ⟨[], [], .nil, (List.append_nil _).symm, (List.append_nil _).symm⟩
  | throw error => exact ⟨[], [], .nil, (List.append_nil _).symm, (List.append_nil _).symm⟩
  | call op next ih =>
      obtain ⟨first, talks, hfirst, hexchanges, hlog⟩ :=
        OverHttp.handle_dialogues d c network carriedOut lookups op s
      obtain ⟨more, talks', hmore, hexchanges', hlog'⟩ := ih _ (OverHttp.handle d c network carriedOut lookups op s).2
      refine ⟨first ++ more, talks ++ talks', List.rel_append hfirst hmore, ?_, ?_⟩
      · rw [← List.append_assoc, ← hexchanges]
        exact hexchanges'
      · rw [List.flatten_append, ← List.append_assoc, ← hlog]
        exact hlog'

/-- **A run over HTTP is a run over a net, dialogue by dialogue.** Whatever the network answers, a program of the
service ends with the result and the session it has over some net, and what was said is one dialogue for each
exchange of that run, which asks for a challenge, sends the request of the exchange and nothing else besides, sends
it again only after a refusal, and ends with the answer that the net gives. -/
theorem dialogues_of_run (p : Rci α) (s : OverHttp σ) :
    ∃ (net : Net) (exchanges : List Exchange) (talks : List (List (HttpRequest × HttpAnswer))),
      p.run net.handle s.session =
          ((p.run (OverHttp.handle d c network carriedOut lookups) s).1,
            (p.run (OverHttp.handle d c network carriedOut lookups) s).2.session) ∧
        (p.run net.handle s.session).2.exchanges = s.session.exchanges ++ exchanges ∧
        (p.run (OverHttp.handle d c network carriedOut lookups) s).2.log = s.log ++ talks.flatten ∧
        Dialogues d c exchanges talks := by
  obtain ⟨net, hnet⟩ := run_over_net d c network carriedOut lookups p s
  obtain ⟨exchanges, talks, hdialogues, hexchanges, hlog⟩ :=
    OverHttp.run_dialogues d c network carriedOut lookups p s
  exact ⟨net, exchanges, talks, hnet, by rw [hnet]; exact hexchanges, hlog, hdialogues⟩

end Runs

end Keenetic
