import Storyboard.App.Network
import Storyboard.Json.Reader
import Storyboard.Proofs.Stages

/-!
# When a submit keeps its promise

A submit promises a result for a response with success, and otherwise a refusal with the
endpoint and the status of the response. Of the client little is relied on: statuses are kept
and told apart, and a number that is not finite has no place in a JSON body. What else goes wrong
while a request is made, or while a reply is read, is whatever the client raises; the promise is
kept exactly if that is an error of HTTP and there was no response yet.
-/
namespace Storyboard.Http

/-- A status that counts as a success. -/
def Succeeded (status : Nat) : Prop := 200 ≤ status ∧ status ≤ 299

instance (status : Nat) : Decidable (Succeeded status) := inferInstanceAs (Decidable (_ ∧ _))

section Clients

variable {Request : Type}

/-- What is relied on of a client. -/
structure Client.Documented (client : Client Request) : Prop where
  /-- Before there is a response, there is no status to raise. -/
  build_status : ∀ call n, client.build call ≠ .error (.status n)
  /-- A number that is not finite is refused as a value, if nothing else is refused before. -/
  build_finite : ∀ call payload, call.load = .json payload → (Json.obj payload).allFinite = false →
    ∃ kind message, client.build call = .error (.value kind message) ∨
      client.build call = .error (.other kind message)
  /-- While a reply is read, its status is not looked at. -/
  receive_status : ∀ request reply n, client.receive request reply ≠ .error (.status n)
  receive_keeps : ∀ request reply response, client.receive request reply = .ok response →
    response.status = reply.status
  accepts : ∀ response, Succeeded response.status → client.raiseForStatus response = .ok ()
  rejects : ∀ response, ¬Succeeded response.status →
    client.raiseForStatus response = .error (.status response.status)

/-- Whatever gets lost on the way is an error of HTTP. -/
def Transport.Documented (transport : Transport Request) : Prop :=
  ∀ request raised, transport request = .error raised → ∃ kind message, raised = .http kind message

/-- What a response stands for: nothing, a JSON value, or else its text. -/
inductive Response.Decodes (response : Response) : Json → Prop
  | nothing (empty : response.content = []) : Decodes response .null
  | value {v : Json} (some_content : response.content ≠ []) (read : response.json = .ok v) :
    Decodes response v
  | text {kind message text : String} (some_content : response.content ≠ [])
    (no_value : response.json = .error (.value kind message)) (read : response.text = .ok text) :
    Decodes response (.str text)

theorem Response.read_eq_ok {response : Response} {v : Json} :
    response.read = .ok v ↔ response.Decodes v := by
  rw [Response.read]
  split
  · next hempty =>
    have hnothing : response.content = [] := List.isEmpty_iff.mp hempty
    constructor
    · rintro ⟨⟩
      exact .nothing hnothing
    · rintro (_ | ⟨hsome, -⟩ | ⟨hsome, -, -⟩)
      · rfl
      · exact absurd hnothing hsome
      · exact absurd hnothing hsome
  · next hempty =>
    have hsome : response.content ≠ [] := fun h => hempty (List.isEmpty_iff.mpr h)
    split
    · next kind message hjson =>
      constructor
      · intro h
        cases htext : response.text with
        | error raised =>
          rw [htext] at h
          cases h
        | ok text =>
          rw [htext] at h
          cases h
          exact .text hsome hjson htext
      · rintro (hnothing | ⟨-, hread⟩ | ⟨-, -, hread⟩)
        · exact absurd hnothing hsome
        · cases hjson.symm.trans hread
        · rw [hread]
          rfl
    · next hvalue =>
      constructor
      · exact .value hsome
      · rintro (hnothing | ⟨-, hread⟩ | ⟨-, hread, -⟩)
        · exact absurd hnothing hsome
        · exact hread
        · exact absurd hread (hvalue _ _)

theorem caught_eq_refused {endpoint : String} {raised : Raised} {refusal : Refusal} :
    caught endpoint raised = .refused refusal ↔
      (∃ n, raised = .status n ∧ (⟨endpoint, "HTTP " ++ toString n, some n⟩ : Refusal) = refusal) ∨
      ∃ kind message, raised = .http kind message ∧
        (⟨endpoint, if message == "" then kind else message, none⟩ : Refusal) = refusal := by
  cases raised with
  | http kind message =>
    constructor
    · rintro ⟨⟩
      exact .inr ⟨kind, message, rfl, rfl⟩
    · rintro (⟨_, h, -⟩ | ⟨_, _, ⟨⟩, rfl⟩)
      · cases h
      · rfl
  | _ => simp [caught]

section Calls

variable {client : Client Request} {transport : Transport Request} {call : Call}

/-- A call has led to a response. -/
structure Received (client : Client Request) (transport : Transport Request) (call : Call)
    (request : Request) (reply : Reply) (response : Response) : Prop where
  made : client.build call = .ok request
  replied : transport request = .ok reply
  received : client.receive request reply = .ok response

/-- What is raised for a call is raised at one of its four stages. -/
theorem request_eq_error {raised : Raised} :
    client.request transport call = .error raised ↔
      client.build call = .error raised ∨
      (∃ request, client.build call = .ok request ∧ transport request = .error raised) ∨
      (∃ request reply, client.build call = .ok request ∧ transport request = .ok reply ∧
        client.receive request reply = .error raised) ∨
      ∃ request reply response, Received client transport call request reply response ∧
        client.raiseForStatus response = .error raised := by
  have hreturn (response : Response) :
      (client.raiseForStatus response >>= fun _ => (pure response : Except Raised Response)) =
        .error raised ↔ client.raiseForStatus response = .error raised := by
    cases client.raiseForStatus response <;> simp [bind, Except.bind, pure, Except.pure]
  simp only [Client.request, Stages.bind_eq_error, hreturn]
  constructor
  · rintro (h | ⟨request, hmade, h | ⟨reply, hreplied, h | ⟨response, hreceived, h⟩⟩⟩)
    · exact .inl h
    · exact .inr (.inl ⟨request, hmade, h⟩)
    · exact .inr (.inr (.inl ⟨request, reply, hmade, hreplied, h⟩))
    · exact .inr (.inr (.inr ⟨request, reply, response, ⟨hmade, hreplied, hreceived⟩, h⟩))
  · rintro (h | ⟨request, hmade, h⟩ | ⟨request, reply, hmade, hreplied, h⟩ |
      ⟨request, reply, response, ⟨hmade, hreplied, hreceived⟩, h⟩)
    · exact .inl h
    · exact .inr ⟨request, hmade, .inl h⟩
    · exact .inr ⟨request, hmade, .inr ⟨reply, hreplied, .inl h⟩⟩
    · exact .inr ⟨request, hmade, .inr ⟨reply, hreplied, .inr ⟨response, hreceived, h⟩⟩⟩

theorem request_eq_ok (documented : client.Documented) {response : Response} :
    client.request transport call = .ok response ↔
      ∃ request reply, Received client transport call request reply response ∧
        Succeeded reply.status := by
  simp only [Client.request, Stages.bind_eq_ok, Stages.pure_eq_ok]
  constructor
  · rintro ⟨request, hmade, reply, hreplied, _, hreceived, _, haccepted, rfl⟩
    refine ⟨request, reply, ⟨hmade, hreplied, hreceived⟩, ?_⟩
    rw [← documented.receive_keeps _ _ _ hreceived]
    exact Decidable.byContradiction fun hfailed =>
      nomatch haccepted.symm.trans (documented.rejects _ hfailed)
  · rintro ⟨request, reply, ⟨hmade, hreplied, hreceived⟩, hsucceeded⟩
    rw [← documented.receive_keeps _ _ _ hreceived] at hsucceeded
    exact ⟨request, hmade, reply, hreplied, response, hreceived, (),
      documented.accepts _ hsucceeded, rfl⟩

/-- A status is raised exactly for a response without success. -/
theorem request_eq_status (documented : client.Documented) (carried : transport.Documented)
    {n : Nat} :
    client.request transport call = .error (.status n) ↔
      ∃ request reply response, Received client transport call request reply response ∧
        ¬Succeeded reply.status ∧ reply.status = n := by
  rw [request_eq_error]
  constructor
  · rintro (h | ⟨request, -, h⟩ | ⟨request, reply, -, -, h⟩ |
      ⟨request, reply, response, received, h⟩)
    · exact absurd h (documented.build_status _ _)
    · obtain ⟨_, _, hhttp⟩ := carried _ _ h
      cases hhttp
    · exact absurd h (documented.receive_status _ _ _)
    · have hkept := documented.receive_keeps _ _ _ received.received
      have hfailed : ¬Succeeded response.status := fun hsucceeded =>
        nomatch (documented.accepts _ hsucceeded).symm.trans h
      cases (documented.rejects _ hfailed).symm.trans h
      exact ⟨request, reply, response, received, hkept ▸ hfailed, hkept.symm⟩
  · rintro ⟨request, reply, response, received, hfailed, rfl⟩
    rw [← documented.receive_keeps _ _ _ received.received] at hfailed ⊢
    exact .inr (.inr (.inr ⟨request, reply, response, received, documented.rejects _ hfailed⟩))

/-- Another error of HTTP is raised while a request is made, carried or read. -/
theorem request_eq_http (documented : client.Documented) {kind message : String} :
    client.request transport call = .error (.http kind message) ↔
      client.build call = .error (.http kind message) ∨
      (∃ request, client.build call = .ok request ∧
        transport request = .error (.http kind message)) ∨
      ∃ request reply, client.build call = .ok request ∧ transport request = .ok reply ∧
        client.receive request reply = .error (.http kind message) := by
  rw [request_eq_error, ← or_assoc (b := ∃ _, _), ← or_assoc, ← or_assoc, or_iff_left]
  rintro ⟨_, _, response, -, h⟩
  by_cases hsucceeded : Succeeded response.status
  · cases (documented.accepts _ hsucceeded).symm.trans h
  · cases (documented.rejects _ hsucceeded).symm.trans h

end Calls

section Promise

variable (client : Client Request) (transport : Transport Request)

/-- The status of the response to a submit, if there was one. -/
def Submission.status? (s : Submission Request) : Option Nat :=
  s.request.bind fun request => (transport request).toOption.map (·.status)

/-- What a submit promises: what a response with success holds, or else a refusal with the
endpoint and with the status of the response, if there was one. -/
inductive Fulfilled (endpoint : String) (s : Submission Request) : Prop
  | returned {request : Request} {reply : Reply} {response : Response} {v : Json}
    (made : s.request = some request) (replied : transport request = .ok reply)
    (received : client.receive request reply = .ok response) (succeeded : Succeeded reply.status)
    (decodes : response.Decodes v) (result : s.result = .ok v) : Fulfilled endpoint s
  | refused {reason : String}
    (result : s.result = .error (.refused ⟨endpoint, reason, s.status? transport⟩)) :
    Fulfilled endpoint s

/-- A call that goes right, or wrong in a way that is provided for: an error of HTTP before there
is a response, a response without success, or one with success that can be read. -/
inductive Regular (call : Call) : Prop
  | unmade {kind message : String} (declined : client.build call = .error (.http kind message)) :
    Regular call
  | lost {request : Request} {raised : Raised} (made : client.build call = .ok request)
    (lost : transport request = .error raised) : Regular call
  | failure {request : Request} {reply : Reply} {response : Response}
    (received : Received client transport call request reply response)
    (failed : ¬Succeeded reply.status) : Regular call
  | success {request : Request} {reply : Reply} {response : Response} {v : Json}
    (received : Received client transport call request reply response)
    (succeeded : Succeeded reply.status) (decodes : response.Decodes v) : Regular call

variable {client transport} {endpoint method : String} {payload headers : Assoc Json}

theorem submit_eq_ok {v : Json} :
    (submit client transport endpoint payload method headers).result = .ok v ↔
      ∃ response, client.request transport (callFor endpoint payload method headers) =
        .ok response ∧ response.Decodes v := by
  simp only [submit, Stages.bind_eq_ok, Stages.mapError_eq_ok, Response.read_eq_ok]

theorem submit_eq_refused {refusal : Refusal} :
    (submit client transport endpoint payload method headers).result = .error (.refused refusal) ↔
      ∃ raised, client.request transport (callFor endpoint payload method headers) =
        .error raised ∧ caught endpoint raised = .refused refusal := by
  simp [submit, Stages.bind_eq_error, Stages.mapError_eq_error]

/-- The status is that of the reply once a request was made and carried. -/
theorem status?_submit {request : Request}
    (made : client.build (callFor endpoint payload method headers) = .ok request) :
    (submit client transport endpoint payload method headers).status? transport =
      (transport request).toOption.map (·.status) := by
  simp only [Submission.status?, submit, made]
  rfl

/-- A refusal is what was promised if it has the status of the response. -/
theorem fulfilled_of_caught {raised : Raised} {reason : String} {status : Option Nat}
    (hraised : client.request transport (callFor endpoint payload method headers) = .error raised)
    (hcaught : caught endpoint raised = .refused ⟨endpoint, reason, status⟩)
    (hstatus : (submit client transport endpoint payload method headers).status? transport =
      status) :
    Fulfilled client transport endpoint
      (submit client transport endpoint payload method headers) := by
  subst hstatus
  exact .refused (submit_eq_refused.mpr ⟨raised, hraised, hcaught⟩)

theorem Regular.fulfilled (documented : client.Documented) (carried : transport.Documented)
    (h : Regular client transport (callFor endpoint payload method headers)) :
    Fulfilled client transport endpoint
      (submit client transport endpoint payload method headers) := by
  cases h with
  | unmade declined =>
    refine fulfilled_of_caught ((request_eq_http documented).mpr (.inl declined)) rfl ?_
    rw [Submission.status?, submit, declined]
    rfl
  | lost made lost =>
    obtain ⟨kind, message, rfl⟩ := carried _ _ lost
    refine fulfilled_of_caught
      ((request_eq_http documented).mpr (.inr (.inl ⟨_, made, lost⟩))) rfl ?_
    rw [status?_submit made, lost]
    rfl
  | failure received failed =>
    refine fulfilled_of_caught ((request_eq_status documented carried).mpr
      ⟨_, _, _, received, failed, rfl⟩) rfl ?_
    rw [status?_submit received.made, received.replied]
    rfl
  | success received succeeded decodes =>
    refine .returned ?_ received.replied received.received succeeded decodes
      (submit_eq_ok.mpr ⟨_, (request_eq_ok documented).mpr ⟨_, _, received, succeeded⟩, decodes⟩)
    rw [submit, received.made]
    rfl

theorem regular_of_fulfilled (documented : client.Documented) (carried : transport.Documented)
    (h : Fulfilled client transport endpoint
      (submit client transport endpoint payload method headers)) :
    Regular client transport (callFor endpoint payload method headers) := by
  cases h with
  | returned _ _ _ _ _ result =>
    obtain ⟨response, hresponse, hdecodes⟩ := submit_eq_ok.mp result
    obtain ⟨_, _, received, succeeded⟩ := (request_eq_ok documented).mp hresponse
    exact .success received succeeded hdecodes
  | refused result =>
    obtain ⟨raised, hraised, hcaught⟩ := submit_eq_refused.mp result
    obtain ⟨n, rfl, -⟩ | ⟨kind, message, rfl, hrefusal⟩ := caught_eq_refused.mp hcaught
    · obtain ⟨_, _, _, received, hfailed, -⟩ := (request_eq_status documented carried).mp hraised
      exact .failure received hfailed
    · obtain hdeclined | ⟨_, hmade, hlost⟩ | ⟨_, _, hmade, hreplied, -⟩ :=
        (request_eq_http documented).mp hraised
      · exact .unmade hdeclined
      · exact .lost hmade hlost
      · -- A reply that cannot be read has a status, and the refusal has none.
        rw [status?_submit hmade, hreplied] at hrefusal
        cases congrArg Refusal.status hrefusal

/-- Whatever leaves a submit otherwise is no refusal. -/
theorem not_fulfilled_of_raised {s : Submission Request} {raised : Raised}
    (h : s.result = .error (.raised raised)) : ¬Fulfilled client transport endpoint s := by
  rintro (⟨-, -, -, -, -, result⟩ | ⟨result⟩)
  · cases h.symm.trans result
  · cases h.symm.trans result

/-- A payload with a number that is not finite never becomes a JSON body. -/
theorem not_regular_of_not_finite (documented : client.Documented)
    (json : hasQuery (Text.upper method) = false)
    (infinite : (Json.obj payload).allFinite = false) :
    ¬Regular client transport (callFor endpoint payload method headers) := by
  have hload : (callFor endpoint payload method headers).load = .json payload := by
    simp [callFor, json]
  obtain ⟨kind, message, hbuild | hbuild⟩ := documented.build_finite _ payload hload infinite
  all_goals
    rintro (hdeclined | ⟨hmade, -⟩ | ⟨⟨hmade, -, -⟩, -⟩ | ⟨⟨hmade, -, -⟩, -, -⟩)
    · cases hbuild.symm.trans hdeclined
    · cases hbuild.symm.trans hmade
    · cases hbuild.symm.trans hmade
    · cases hbuild.symm.trans hmade

end Promise

/-- A submit keeps its promise exactly if its call is regular. A JSON payload with a number that
is not finite breaks it. A refusal names the endpoint, and no other status than that of a response
without success. -/
theorem submit_keeps_promise_iff (client : Client Request) (transport : Transport Request)
    (documented : client.Documented) (carried : transport.Documented) (endpoint : String)
    (payload : Assoc Json) (method : String) (headers : Assoc Json) :
    let s := submit client transport endpoint payload method headers
    (Fulfilled client transport endpoint s ↔
      Regular client transport (callFor endpoint payload method headers)) ∧
    (hasQuery (Text.upper method) = false → (Json.obj payload).allFinite = false →
      ¬Fulfilled client transport endpoint s) ∧
    ∀ refusal, s.result = .error (.refused refusal) → refusal.endpoint = endpoint ∧
      ∀ n, refusal.status = some n → s.status? transport = some n ∧ ¬Succeeded n := by
  refine ⟨⟨regular_of_fulfilled documented carried, fun h => h.fulfilled documented carried⟩,
    fun json infinite h => not_regular_of_not_finite documented json infinite
      (regular_of_fulfilled documented carried h), fun refusal hrefused => ?_⟩
  obtain ⟨raised, hraised, hcaught⟩ := submit_eq_refused.mp hrefused
  obtain ⟨code, rfl, rfl⟩ | ⟨kind, message, rfl, rfl⟩ := caught_eq_refused.mp hcaught
  · obtain ⟨_, _, _, received, hfailed, rfl⟩ := (request_eq_status documented carried).mp hraised
    refine ⟨rfl, fun n hn => ?_⟩
    cases hn
    exact ⟨by rw [status?_submit received.made, received.replied]; rfl, hfailed⟩
  · exact ⟨rfl, fun n hn => nomatch hn⟩

/-- A client that knows the address of one shop. Any other has a misspelt port. -/
def shop : Client Call where
  build call :=
    if call.endpoint == "https://shop.example/orders" then
      match call.load with
      | .query _ => .ok call
      | .json payload =>
        if (Json.obj payload).allFinite then .ok call
        else .error (.value "ValueError" "Out of range float values are not JSON compliant")
    else .error (.other "InvalidURL" "Invalid port: 'port'")
  receive _ reply :=
    if Assoc.has reply.headers "location" then
      .error (.http "RemoteProtocolError"
        "Invalid URL in location header: Invalid port: 'port'.")
    else
      let text := String.ofList (reply.body.map Char.ofNat)
      .ok {
        status := reply.status
        content := reply.body
        json := (Json.read ⟨980, 4300⟩ text).mapError fun _ => .value "JSONDecodeError" ""
        text := .ok text }
  raiseForStatus response :=
    if Succeeded response.status then .ok () else .error (.status response.status)

theorem shop_documented : shop.Documented where
  build_status call n := by
    simp only [shop]
    split
    · split
      · simp
      · split <;> simp
    · simp
  build_finite call payload json infinite := by
    simp only [shop, json, infinite]
    split <;> simp
  receive_status request reply n := by
    simp only [shop]
    split <;> simp
  receive_keeps request reply response h := by
    simp only [shop] at h
    split at h
    · cases h
    · cases h
      rfl
  accepts response h := if_pos h
  rejects response h := if_neg h

/-- A shop that gives every order a number. -/
def openShop : Transport Call := fun _ =>
  .ok ⟨201, [], "\x7b\"id\": 7\x7d".toList.map Char.toNat⟩

/-- An order with the method in lower case. -/
theorem order_keeps_promise :
    shop.Documented ∧ openShop.Documented ∧
      Fulfilled shop openShop "https://shop.example/orders"
        (submit shop openShop "https://shop.example/orders" [("count", .int 2)] "post" []) := by
  have carried : openShop.Documented := fun _ _ h => nomatch h
  refine ⟨shop_documented, carried, (submit_keeps_promise_iff shop openShop shop_documented carried
    "https://shop.example/orders" [("count", .int 2)] "post" []).1.mpr ?_⟩
  exact .success ⟨rfl, rfl, rfl⟩ (by decide) (.value (List.cons_ne_nil _ _) rfl)

/-- A shop that has moved. The port of its new address is misspelt. -/
def movedShop : Transport Call := fun _ =>
  .ok ⟨302, [("location", .str "https://shop.example:port/")], []⟩

/-- Three orders that break the promise: an address with a misspelt port and a price that is no
number never become a request, and what the shop that has moved responds is refused without
its status. -/
theorem orders_break_promise :
    (submit shop movedShop "https://shop.example:port/orders" [] "POST" []).result =
        .error (.raised (.other "InvalidURL" "Invalid port: 'port'")) ∧
      ¬Fulfilled shop movedShop "https://shop.example:port/orders"
        (submit shop movedShop "https://shop.example:port/orders" [] "POST" []) ∧
      (submit shop movedShop "https://shop.example/orders" [("price", .float (.nan 0))] "POST"
        []).result =
        .error (.raised (.value "ValueError" "Out of range float values are not JSON compliant")) ∧
      ¬Fulfilled shop movedShop "https://shop.example/orders"
        (submit shop movedShop "https://shop.example/orders" [("price", .float (.nan 0))]
          "POST" []) ∧
      (submit shop movedShop "https://shop.example/orders" [] "POST" []).result =
        .error (.refused ⟨"https://shop.example/orders",
          "Invalid URL in location header: Invalid port: 'port'.", none⟩) ∧
      ¬Fulfilled shop movedShop "https://shop.example/orders"
        (submit shop movedShop "https://shop.example/orders" [] "POST" []) := by
  have hport : (submit shop movedShop "https://shop.example:port/orders" [] "POST" []).result =
      .error (.raised (.other "InvalidURL" "Invalid port: 'port'")) := rfl
  have hprice : (submit shop movedShop "https://shop.example/orders"
      [("price", .float (.nan 0))] "POST" []).result =
      .error (.raised (.value "ValueError" "Out of range float values are not JSON compliant")) :=
    rfl
  refine ⟨hport, not_fulfilled_of_raised hport, hprice, not_fulfilled_of_raised hprice, rfl, ?_⟩
  rintro (⟨-, -, -, -, -, result⟩ | ⟨result⟩)
  · cases result
  · cases result

end Clients

/-- A fault of a call that is no matter of HTTP. -/
def Raised.IsForeign (raised : Raised) : Prop :=
  ∃ kind message, raised = .value kind message ∨ raised = .other kind message

section Running

variable {raised : Raised}

theorem UrlFault.isForeign (fault : UrlFault) : fault.raised.IsForeign :=
  ⟨_, _, .inr rfl⟩

theorem HeaderFault.isForeign (fault : HeaderFault) : fault.raised.IsForeign := by
  cases fault with
  | notAscii first position length => exact ⟨_, _, .inl rfl⟩
  | notText kind => exact ⟨_, _, .inr rfl⟩

theorem labelRaised_isForeign (fault : HostName.LabelFault) : (labelRaised fault).IsForeign :=
  ⟨_, _, .inl rfl⟩

theorem checkPayload_isForeign {payload : Assoc Json} (h : checkPayload payload = .error raised) :
    raised.IsForeign := by
  rw [checkPayload] at h
  split at h
  · cases h
    exact ⟨_, _, .inr rfl⟩
  · split at h
    · cases h
      exact ⟨_, _, .inl rfl⟩
    · cases h

theorem place_isForeign {url : Url} {load : Load} (h : load.place url = .error raised) :
    raised.IsForeign := by
  cases load with
  | query payload =>
    simp only [Load.place, Stages.bind_eq_error, Stages.mapError_eq_error] at h
    obtain h | ⟨_, -, ⟨fault, -, rfl⟩ | ⟨_, -, h⟩⟩ := h
    · exact checkPayload_isForeign h
    · exact fault.isForeign
    · cases h
  | json payload =>
    simp only [Load.place, Stages.refuse_eq_error, Stages.bind_eq_error] at h
    obtain ⟨-, rfl⟩ | ⟨-, h | ⟨_, -, h⟩⟩ := h
    · exact ⟨_, _, .inl rfl⟩
    · exact checkPayload_isForeign h
    · cases h

theorem build_isForeign {call : Call} (h : Request.build call = .error raised) :
    raised.IsForeign := by
  simp only [Request.build, Stages.bind_eq_error, Stages.mapError_eq_error] at h
  obtain ⟨fault, -, rfl⟩ | ⟨_, -, ⟨fault, -, rfl⟩ | ⟨_, -, h | ⟨_, -, h⟩⟩⟩ := h
  · exact fault.isForeign
  · exact fault.isForeign
  · exact place_isForeign h
  · split at h
    · simp only [Stages.bind_eq_error, Stages.mapError_eq_error] at h
      obtain ⟨fault, -, rfl⟩ | ⟨_, -, ⟨fault, -, rfl⟩ | ⟨_, -, h⟩⟩ := h
      · exact labelRaised_isForeign fault
      · exact fault.isForeign
      · cases h
    · cases h

/-- A request with a JSON body has a payload of finite numbers. -/
theorem allFinite_of_build {call : Call} {request : Request} {payload : Assoc Json}
    (h : Request.build call = .ok request) (json : call.load = .json payload) :
    (Json.obj payload).allFinite = true := by
  simp only [Request.build, Stages.bind_eq_ok, json, Load.place, Stages.refuse_eq_ok] at h
  obtain ⟨_, -, _, -, _, ⟨hfinite, -⟩, -⟩ := h
  simpa using hfinite

theorem checkRedirect_ne_status {url : Url} {location : String} {n : Nat} :
    checkRedirect url location ≠ .error (.status n) := by
  have hlabel (fault : HostName.LabelFault) : labelRaised fault ≠ .status n := nofun
  have hurl (fault : UrlFault) : fault.raised ≠ .status n := nofun
  intro h
  simp only [checkRedirect, Stages.bind_eq_error, Stages.mapError_eq_error, hlabel, reduceCtorEq,
    and_false, exists_false, false_or] at h
  obtain ⟨_, -, _, -, h⟩ := h
  split at h
  · simp only [Stages.bind_eq_error, Stages.mapError_eq_error, hlabel, hurl, and_false,
      exists_false, or_false] at h
  · simp only [Stages.mapError_eq_error, hlabel, and_false, exists_false] at h

theorem checkLocation_ne_status {url : Url} {status n : Nat} {location : Option String} :
    checkLocation url status location ≠ .error (.status n) := by
  cases location with
  | none => exact nofun
  | some place =>
    rw [checkLocation]
    split
    · exact checkRedirect_ne_status
    · exact nofun

theorem read_ne_status {request : Request} {reply : Reply} {n : Nat} :
    reply.read request ≠ .error (.status n) := by
  intro h
  simp only [Reply.read, Stages.bind_eq_error, Stages.mapError_eq_error,
    Stages.refuse_eq_error] at h
  obtain ⟨fault, -, h⟩ | ⟨_, -, ⟨_, -, h⟩ | ⟨_, -, ⟨-, h⟩ | ⟨-, h | ⟨_, -, h⟩⟩⟩⟩ := h
  · cases fault <;> cases h
  · cases h
  · cases h
  · exact checkLocation_ne_status h
  · cases h

theorem read_keeps_status {request : Request} {reply : Reply} {response : Response}
    (h : reply.read request = .ok response) : response.status = reply.status := by
  simp only [Reply.read, Stages.bind_eq_ok, Stages.refuse_eq_ok, Stages.pure_eq_ok] at h
  obtain ⟨_, -, _, -, -, _, -, rfl⟩ := h
  rfl

/-- What is relied on of a client holds of the one the program runs with. -/
theorem documented_running : Client.running.Documented where
  build_status call n h := by
    obtain ⟨_, _, h | h⟩ := build_isForeign h <;> cases h
  build_finite call payload json infinite := by
    cases hbuild : Request.build call with
    | error raised =>
      obtain ⟨kind, message, rfl | rfl⟩ := build_isForeign hbuild
      · exact ⟨kind, message, .inl hbuild⟩
      · exact ⟨kind, message, .inr hbuild⟩
    | ok request => cases infinite.symm.trans (allFinite_of_build hbuild json)
  receive_status _ _ _ := read_ne_status
  receive_keeps _ _ _ := read_keeps_status
  accepts response h := if_pos (by simpa [Succeeded] using h)
  rejects response h := if_neg (by simpa [Succeeded] using h)

theorem documented_unconnected : unconnected.Documented := by
  intro request raised h
  simp only [unconnected] at h
  split at h
  · cases h
    exact ⟨_, _, rfl⟩
  · split at h <;> (cases h; exact ⟨_, _, rfl⟩)

end Running

/-- Without a network no submit succeeds. -/
theorem unconnected_never_succeeds (number : Nat) (posting : Posting) :
    (Submitter.unconnected.send number posting).outcome ≠ .succeeded := by
  intro h
  simp only [Submitter.unconnected, Submitter.http] at h
  cases hresult : (submit Client.running unconnected posting.endpoint posting.payload
      posting.method.name (Assoc.mapValues .str (posting.headers.getD []))).result with
  | error fault =>
    rw [hresult] at h
    cases fault <;> cases h
  | ok v =>
    obtain ⟨_, hresponse, -⟩ := submit_eq_ok.mp hresult
    obtain ⟨request, _, received, -⟩ := (request_eq_ok documented_running).mp hresponse
    have hreplied := received.replied
    simp only [unconnected] at hreplied
    split at hreplied
    · cases hreplied
    · split at hreplied <;> cases hreplied

end Storyboard.Http
