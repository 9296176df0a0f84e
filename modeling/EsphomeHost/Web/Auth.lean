import Mathlib.Data.List.Induction
import EsphomeHost.Lib.Base64
import EsphomeHost.Web.Response

/-!
# Authentication

`WebServerBase::add_handler` puts the authentication middleware in front of a handler, and the
middleware asks the request whether its credentials are right.  On the host every request says yes.

* `handleConnection`: what the client receives and which entries of handlers behind the middleware
  run, for one connection.
* `Authorized`: the request carries the configured credentials.
* `handleConnection_written`: the code that a client receives is that of the response on the socket.
* `authorized_text`: a request written with them does.
* `guarded_iff`: **exactly the requests that carry the credentials, or that no handler behind the
  middleware takes, are treated as they should be**.
-/

namespace EsphomeHost.AsyncWebServer

open Cut

/-! ## Handlers -/

/-- What a handler does with the connection: send a response, or take the socket over. -/
inductive HandlerAction
  | send (code : Nat)
  | takeFd
deriving DecidableEq

/-- A handler, with what it does in each of its methods. -/
structure AsyncWebHandler where
  canHandle : Request → Bool
  handleRequest : Request → List HandlerAction
  handleBody : Request → (data : List UInt8) → (index total : Nat) → List HandlerAction
  handleUpload : Request → (filename : List UInt8) → (index : Nat) → (data : List UInt8) →
    (final : Bool) → List HandlerAction

/-- The methods of a handler the middleware stands in front of. -/
inductive Entry
  | request
  | body
  | upload
deriving DecidableEq

/-- A request while it is handled.  `received` are the codes of the responses that went out on the
socket, `entered` the methods behind the middleware that ran. -/
structure Exchange where
  request : Request
  fdOpen : Bool := true
  responseSent : Bool := false
  received : List Nat := []
  entered : List Entry := []

namespace Exchange

variable (x : Exchange)

/-- `send`, which sends only the first response. -/
def send (code : Nat) : Exchange :=
  if x.responseSent then x
  else
    { x with
      responseSent := true
      received := if x.fdOpen then x.received ++ [code] else x.received }

def act : HandlerAction → Exchange
  | .send code => x.send code
  | .takeFd => { x with fdOpen := false }

def perform (actions : List HandlerAction) : Exchange := actions.foldl act x

/-- `AsyncWebServerRequest::authenticate`. -/
def authenticate (_request : Exchange) (_username _password : List UInt8) : Bool := true

/-- `AsyncWebServerRequest::requestAuthentication`. -/
def requestAuthentication : Exchange := x

end Exchange

structure Credentials where
  username : List UInt8
  password : List UInt8
deriving DecidableEq

/-- A handler as it is registered: as it is, or behind the middleware. -/
inductive WebHandler
  | bare (handler : AsyncWebHandler)
  | auth (next : AsyncWebHandler)

namespace WebHandler

/-- `canHandle`, which the middleware passes on. -/
def canHandle (r : Request) : WebHandler → Bool
  | bare handler => handler.canHandle r
  | auth next => next.canHandle r

/-- `check_auth`. -/
def checkAuth (c : Credentials) (x : Exchange) : Bool × Exchange :=
  if x.authenticate c.username c.password then (true, x) else (false, x.requestAuthentication)

/-- The methods of the middleware: `check_auth`, then the method it stands in front of. -/
def guardEntry (c : Credentials) (entry : Entry) (actions : List HandlerAction) (x : Exchange) :
    Exchange :=
  match checkAuth c x with
  | (false, x) => x
  | (true, x) => { x with entered := x.entered ++ [entry] }.perform actions

def handleRequest (c : Credentials) (x : Exchange) : WebHandler → Exchange
  | bare handler => x.perform (handler.handleRequest x.request)
  | auth next => guardEntry c .request (next.handleRequest x.request) x

def handleBody (c : Credentials) (data : List UInt8) (index total : Nat) (x : Exchange) :
    WebHandler → Exchange
  | bare handler => x.perform (handler.handleBody x.request data index total)
  | auth next => guardEntry c .body (next.handleBody x.request data index total) x

/-- The host never calls `handleUpload`. -/
def handleUpload (c : Credentials) (filename : List UInt8) (index : Nat) (data : List UInt8)
    (final : Bool) (x : Exchange) : WebHandler → Exchange
  | bare handler => x.perform (handler.handleUpload x.request filename index data final)
  | auth next => guardEntry c .upload (next.handleUpload x.request filename index data final) x

end WebHandler

/-! ## The server -/

structure WebServerBase where
  credentials : Credentials
  onNotFound : Option (Request → List HandlerAction) := none
  handlers : List WebHandler := []

/-- A call of `add_handler` or `add_handler_without_auth`. -/
inductive Registration
  | addHandler (handler : AsyncWebHandler)
  | addHandlerWithoutAuth (handler : AsyncWebHandler)

namespace WebServerBase

variable (base : WebServerBase)

def addHandlerWithoutAuth (handler : WebHandler) : WebServerBase :=
  { base with handlers := base.handlers ++ [handler] }

def addHandler (handler : AsyncWebHandler) : WebServerBase :=
  base.addHandlerWithoutAuth
    (if base.credentials.username ≠ [] then .auth handler else .bare handler)

def register : Registration → WebServerBase
  | .addHandler handler => base.addHandler handler
  | .addHandlerWithoutAuth handler => base.addHandlerWithoutAuth (.bare handler)

/-- `dispatch_`: the first handler that can handle the request gets it. -/
def dispatch (x : Exchange) : Exchange :=
  match base.handlers.find? (·.canHandle x.request) with
  | some h =>
      let body := x.request.body
      let x := if body = [] then x else h.handleBody base.credentials body 0 body.length x
      h.handleRequest base.credentials x
  | none =>
      match base.onNotFound with
      | some f => x.perform (f x.request)
      | none => x.send 404

/-- `handle_connection_`: the codes the client receives, and the methods that ran. -/
def handleConnection (recv : List (List UInt8)) : List Nat × List Entry :=
  match parseRequest recv with
  | none => ([400], [])
  | some r =>
      let x := base.dispatch { request := r }
      let x := if x.fdOpen = false ∨ x.responseSent then x else x.send 204
      (x.received, x.entered)

end WebServerBase

/-- A server with these credentials and handlers. -/
def configured (c : Credentials) (onNotFound : Option (Request → List HandlerAction))
    (registrations : List Registration) : WebServerBase :=
  registrations.foldl WebServerBase.register { credentials := c, onNotFound := onNotFound }

/-! ## What has to hold -/

/-- The username and the password in Basic credentials. -/
def basicCredentials (value : List UInt8) : Option Credentials :=
  match cut [SPACE] value with
  | none => none
  | some (scheme, token) =>
      if lowercase scheme = ascii "basic" then
        (Base64.decode (token.dropWhile isBlank)).bind fun decoded =>
          (cut [COLON] decoded).map fun parts => ⟨parts.1, parts.2⟩
      else none

/-- The request carries the configured credentials. -/
def Authorized (c : Credentials) (r : Request) : Prop :=
  (getHeader r (ascii "Authorization")).bind basicCredentials = some c

instance (c : Credentials) (r : Request) : Decidable (Authorized c r) :=
  inferInstanceAs (Decidable (_ = _))

namespace Registration

def handler : Registration → AsyncWebHandler
  | addHandler handler | addHandlerWithoutAuth handler => handler

def isProtected : Registration → Bool
  | addHandler _ => true
  | addHandlerWithoutAuth _ => false

/-- The first handler that can handle the request was registered with `add_handler`. -/
def takes (registrations : List Registration) (r : Request) : Bool :=
  (registrations.find? (·.handler.canHandle r)).any isProtected

end Registration

/-- Methods behind the middleware run for authorized requests only, and any other request that is
for a handler behind it is answered with 401. -/
structure Guarded (c : Credentials) (registrations : List Registration)
    (recv : List (List UInt8)) (outcome : List Nat × List Entry) : Prop where
  entered : ∀ r, parseRequest recv = some r → outcome.2 ≠ [] → Authorized c r
  rejected : ∀ r, parseRequest recv = some r → Registration.takes registrations r = true →
    ¬ Authorized c r → outcome.1 = [401]

/-! ## What the code does -/

variable {c : Credentials} {registrations : List Registration} {x : Exchange}
  {onNotFound : Option (Request → List HandlerAction)}

/-- Every request is authenticated. -/
theorem guardEntry_eq (entry : Entry) (actions : List HandlerAction) :
    WebHandler.guardEntry c entry actions x =
      { x with entered := x.entered ++ [entry] }.perform actions := rfl

theorem act_entered (x : Exchange) (action : HandlerAction) :
    (x.act action).entered = x.entered ∧ (x.act action).request = x.request := by
  cases action with
  | takeFd => exact ⟨rfl, rfl⟩
  | send code =>
      unfold Exchange.act Exchange.send
      cases x.responseSent <;> exact ⟨rfl, rfl⟩

/-- A handler does not call another one. -/
theorem perform_entered (actions : List HandlerAction) (x : Exchange) :
    (x.perform actions).entered = x.entered ∧ (x.perform actions).request = x.request := by
  induction actions generalizing x with
  | nil => exact ⟨rfl, rfl⟩
  | cons action rest ih =>
      obtain ⟨entered, request⟩ := ih (x.act action)
      exact ⟨entered.trans (act_entered x action).1, request.trans (act_entered x action).2⟩

/-- The handler as `add_handler` or `add_handler_without_auth` registers it. -/
def Registration.wrapped : Registration → WebHandler
  | addHandler handler => .auth handler
  | addHandlerWithoutAuth handler => .bare handler

theorem configured_eq (named : c.username ≠ []) :
    configured c onNotFound registrations =
      { credentials := c, onNotFound := onNotFound
        handlers := registrations.map Registration.wrapped } := by
  induction registrations using List.reverseRecOn with
  | nil => rfl
  | append_singleton registrations registration ih =>
      rw [configured, List.foldl_append, ← configured, ih, List.map_append]
      cases registration with
      | addHandler handler =>
          simp only [List.foldl_cons, List.foldl_nil, WebServerBase.register,
            WebServerBase.addHandler, if_pos named]
          rfl
      | addHandlerWithoutAuth handler => rfl

theorem canHandle_wrapped (registration : Registration) (r : Request) :
    registration.wrapped.canHandle r = registration.handler.canHandle r := by
  cases registration <;> rfl

/-- **The dispatcher enters a handler behind the middleware** exactly if one takes the request. -/
theorem dispatch_entered (named : c.username ≠ []) (r : Request) :
    ((configured c onNotFound registrations).dispatch { request := r }).entered ≠ [] ↔
      Registration.takes registrations r = true := by
  have wrapped : (fun h : WebHandler => h.canHandle r) ∘ Registration.wrapped =
      fun registration => registration.handler.canHandle r :=
    funext fun registration => canHandle_wrapped registration r
  rw [configured_eq named, WebServerBase.dispatch, Registration.takes, List.find?_map, wrapped]
  cases found : registrations.find? fun registration => registration.handler.canHandle r with
  | none =>
      simp only [Option.map_none, Option.any_none, Bool.false_eq_true, iff_false, not_not]
      split
      · exact (perform_entered _ _).1
      · rfl
  | some registration =>
      simp only [Option.map_some, Option.any_some]
      cases registration with
      | addHandler handler =>
          refine ⟨fun _ => rfl, fun _ => ?_⟩
          simp only [Registration.wrapped, WebHandler.handleRequest, guardEntry_eq]
          rw [(perform_entered _ _).1]
          exact List.append_ne_nil_of_right_ne_nil _ (List.cons_ne_nil _ _)
      | addHandlerWithoutAuth handler =>
          refine ⟨fun some => absurd ?_ some, fun never => absurd never Bool.false_ne_true⟩
          simp only [Registration.wrapped, WebHandler.handleRequest, WebHandler.handleBody]
          rw [(perform_entered _ _).1]
          split
          · rfl
          · exact (perform_entered _ _).1

theorem handleConnection_entered {base : WebServerBase} {recv : List (List UInt8)} {r : Request}
    (parsed : parseRequest recv = some r) :
    (base.handleConnection recv).2 = (base.dispatch { request := r }).entered := by
  rw [WebServerBase.handleConnection, parsed]
  simp only
  split
  · rfl
  · unfold Exchange.send
    split <;> rfl

/-- **Exactly when the middleware does its work**: no handler behind it takes the request, or the
request carries the credentials. -/
theorem guarded_iff (named : c.username ≠ []) (recv : List (List UInt8)) :
    Guarded c registrations recv
        ((configured c onNotFound registrations).handleConnection recv) ↔
      ∀ r, parseRequest recv = some r → Registration.takes registrations r = true →
        Authorized c r := by
  constructor
  · intro guarded r parsed takes
    refine guarded.entered r parsed ?_
    rw [handleConnection_entered parsed]
    exact (dispatch_entered named r).mpr takes
  · intro authorized
    refine ⟨fun r parsed some => ?_, fun r parsed takes bad => ?_⟩
    · rw [handleConnection_entered parsed] at some
      exact authorized r parsed ((dispatch_entered named r).mp some)
    · exact absurd (authorized r parsed takes) bad

/-! ## On the socket

What is received, and the bytes that are written. -/

def HandlerAction.response : HandlerAction → ResponseAction
  | send code => .send code none none
  | takeFd => .handOff

/-- A registered handler with what it writes; the middleware lets every request through. -/
def WebHandler.responding : WebHandler → ResponseHandler
  | bare h | auth h =>
      { canHandle := h.canHandle
        handleBody := fun r =>
          (h.handleBody r r.body 0 r.body.length).map HandlerAction.response
        handleRequest := fun r => (h.handleRequest r).map HandlerAction.response }

/-- The codes that were received and what was written, for a socket that is open or not and a
response that was sent or not. -/
inductive Wrote : (fdOpen responseSent : Bool) → List Nat → List SocketOp → Prop
  | nothing : Wrote true false [] []
  | session (responseSent : Bool) : Wrote false responseSent [] [.send SSE_HEAD]
  | response (fdOpen : Bool) (code : Nat) (headers : HeaderList) (rest : List SocketOp) :
    Wrote fdOpen true [code] (.send (headOf code (reasonOf code) headers) :: rest)

theorem Wrote.gone {sent : Bool} {received : List Nat} {ops : List SocketOp}
    (wrote : Wrote false sent received ops) : Wrote false true received ops := by
  cases wrote with
  | session => exact .session true
  | response _ code headers rest => exact .response false code headers rest

theorem Wrote.append {received : List Nat} {ops more : List SocketOp}
    (wrote : Wrote true true received ops) : Wrote true true received (ops ++ more) := by
  cases wrote with
  | response _ code headers rest => exact .response true code headers (rest ++ more)

/-- The two see the same request. -/
structure Exchange.Sees (x : Exchange) (s : Responding) : Prop where
  fd : s.ownsFd = x.fdOpen
  sent : s.responseSent = x.responseSent
  wrote : Wrote x.fdOpen x.responseSent x.received s.socket

section Socket

variable {s : Responding} (defaults : HeaderList)

/-- The response that is sent is the one whose code is received. -/
theorem Exchange.Sees.sendCurrent (sees : x.Sees s) {r : AsyncWebServerResponse} {code : Nat}
    (current : s.current = some r) (same : r.code = code) :
    (x.send code).Sees (s.sendCurrent defaults) := by
  unfold Exchange.send
  cases sent : x.responseSent with
  | true =>
      rw [Responding.sendCurrent_of_sent (sees.sent.trans sent)]
      exact sees
  | false =>
      rw [Responding.sendCurrent_of_unsent (sees.sent.trans sent), current, sees.fd]
      obtain ⟨headers, head⟩ :
          ∃ headers, responseHead defaults (some r) = headOf code (reasonOf code) headers := by
        rw [← same]
        exact ⟨_, rfl⟩
      refine ⟨rfl, rfl, ?_⟩
      have wrote := sees.wrote
      rw [sent] at wrote
      generalize x.fdOpen = fdOpen at wrote
      generalize x.received = received at wrote
      generalize s.socket = socket at wrote
      cases wrote with
      | nothing =>
          simp only [if_true, List.nil_append, Responding.sending, head]
          exact .response true code _ _
      | session => exact .session true

theorem Exchange.Sees.send (sees : x.Sees s) (code : Nat)
    (contentType content : Option (List UInt8)) :
    (x.send code).Sees (s.send defaults code contentType content) := by
  have begun : x.Sees (s.beginResponse code contentType (.content (content.getD []))) :=
    ⟨sees.fd, sees.sent, sees.wrote⟩
  exact begun.sendCurrent defaults List.getElem?_concat_length rfl

theorem Exchange.Sees.handOff (sees : x.Sees s) : (x.act .takeFd).Sees s.handOff := by
  have sent : s.handOff.responseSent = s.responseSent := by
    unfold Responding.handOff Responding.sendAll
    split <;> rfl
  have socket : s.handOff.socket =
      if x.fdOpen then s.socket ++ [.send SSE_HEAD] else s.socket := by
    unfold Responding.handOff Responding.sendAll
    rw [sees.fd]
    split <;> rfl
  refine ⟨rfl, sent.trans sees.sent, ?_⟩
  · rw [socket]
    show Wrote false x.responseSent x.received _
    have wrote := sees.wrote
    generalize x.fdOpen = fdOpen at wrote
    generalize x.responseSent = sent at wrote
    generalize x.received = received at wrote
    generalize s.socket = socket at wrote
    cases wrote with
    | nothing => exact .session false
    | session sent => exact .session sent
    | response fdOpen code headers rest => cases fdOpen <;> exact .response false code headers _

theorem Exchange.Sees.act (sees : x.Sees s) (action : HandlerAction) :
    (x.act action).Sees (s.act defaults action.response) := by
  cases action with
  | send code => exact sees.send defaults code none none
  | takeFd => exact sees.handOff

theorem Exchange.Sees.perform (sees : x.Sees s) (actions : List HandlerAction) :
    (x.perform actions).Sees
      ((actions.map HandlerAction.response).foldl (Responding.act defaults) s) := by
  induction actions generalizing x s with
  | nil => exact sees
  | cons action rest ih => exact ih (sees.act defaults action)

/-- The methods of the middleware are those it stands in front of. -/
theorem Exchange.Sees.guardEntry (sees : x.Sees s) (entry : Entry) (actions : List HandlerAction) :
    (WebHandler.guardEntry c entry actions x).Sees
      ((actions.map HandlerAction.response).foldl (Responding.act defaults) s) := by
  have entered : { x with entered := x.entered ++ [entry] }.Sees s :=
    ⟨sees.fd, sees.sent, sees.wrote⟩
  exact entered.perform defaults actions

theorem Exchange.Sees.handleBody (sees : x.Sees s) (h : WebHandler) :
    (h.handleBody c x.request.body 0 x.request.body.length x).Sees
      ((h.responding.handleBody x.request).foldl (Responding.act defaults) s) := by
  cases h with
  | bare h => exact sees.perform defaults _
  | auth h => exact sees.guardEntry (c := c) defaults .body _

theorem Exchange.Sees.handleRequest (sees : x.Sees s) (h : WebHandler) :
    (h.handleRequest c x).Sees
      ((h.responding.handleRequest x.request).foldl (Responding.act defaults) s) := by
  cases h with
  | bare h => exact sees.perform defaults _
  | auth h => exact sees.guardEntry (c := c) defaults .request _

theorem handleBody_request (h : WebHandler) (data : List UInt8) (index total : Nat) :
    (h.handleBody c data index total x).request = x.request := by
  cases h <;> exact (perform_entered _ _).2

theorem dispatch_sees (base : WebServerBase) (r : Request) :
    (base.dispatch { request := r }).Sees
      ((selected (base.handlers.map WebHandler.responding)
        (base.onNotFound.map fun f r => (f r).map HandlerAction.response) r).foldl
          (Responding.act defaults) {}) := by
  have start : ({ request := r } : Exchange).Sees {} := ⟨rfl, rfl, .nothing⟩
  have takes : (fun h : ResponseHandler => h.canHandle r) ∘ WebHandler.responding =
      fun h : WebHandler => h.canHandle r :=
    funext fun h => by cases h <;> rfl
  unfold WebServerBase.dispatch selected
  rw [List.find?_map, takes]
  cases base.handlers.find? fun h : WebHandler => h.canHandle r with
  | none =>
      cases base.onNotFound with
      | none =>
          exact start.send defaults 404 (some (ascii "text/plain")) (some (ascii "not found\n"))
      | some f => exact start.perform defaults (f r)
  | some h =>
      dsimp only [Option.map_some]
      rw [List.foldl_append]
      by_cases empty : r.body = []
      · rw [if_pos empty, if_pos empty]
        exact start.handleRequest defaults h
      · rw [if_neg empty, if_neg empty]
        have body := start.handleBody (c := base.credentials) defaults h
        have handled := body.handleRequest (c := base.credentials) defaults h
        rwa [handleBody_request] at handled

/-- **The code that a client receives is that of the response on its socket**; it receives none if
a session takes the socket. -/
theorem handleConnection_written (base : WebServerBase) (recv : List (List UInt8)) :
    ∃ fdOpen, Wrote fdOpen true (base.handleConnection recv).1
      (handleSocket defaults (base.handlers.map WebHandler.responding)
        (base.onNotFound.map fun f r => (f r).map HandlerAction.response) recv) := by
  unfold WebServerBase.handleConnection handleSocket
  cases parseRequest recv with
  | none => exact ⟨true, .response true 400 _ _⟩
  | some r =>
      dsimp only
      have sees := dispatch_sees defaults base r
      generalize base.dispatch { request := r } = x at sees
      generalize List.foldl (Responding.act defaults) {} _ = s at sees
      rw [sees.fd, sees.sent]
      by_cases taken : x.fdOpen = false
      · rw [if_pos (.inl taken), if_pos taken]
        exact ⟨false, (taken ▸ sees.wrote).gone⟩
      · have answered : (if x.fdOpen = false ∨ x.responseSent = true then x else x.send 204).Sees
            (if x.responseSent = true then s else s.send defaults 204 none none) := by
          by_cases sent : x.responseSent = true
          · rw [if_pos (.inr sent), if_pos sent]
            exact sees
          · rw [if_neg (not_or.mpr ⟨taken, sent⟩), if_neg sent]
            exact sees.send defaults 204 none none
        have kept : (if x.fdOpen = false ∨ x.responseSent = true then x
            else x.send 204).fdOpen = true ∧
            (if x.fdOpen = false ∨ x.responseSent = true then x
              else x.send 204).responseSent = true := by
          have owns : x.fdOpen = true := eq_true_of_ne_false taken
          unfold Exchange.send
          split <;> simp_all
        rw [if_neg taken]
        generalize (if x.fdOpen = false ∨ x.responseSent = true then x else x.send 204) = y
          at answered kept
        generalize (if x.responseSent = true then s else s.send defaults 204 none none) = t
          at answered
        have wrote := answered.wrote
        rw [kept.1, kept.2] at wrote
        rw [Responding.destroy, if_pos (answered.fd.trans kept.1)]
        exact ⟨true, wrote.append⟩

end Socket

/-! ## Authorized requests -/

/-- The value of an `Authorization` header. -/
def authorization (c : Credentials) : List UInt8 :=
  ascii "Basic" ++ SPACE :: Base64.encode (c.username ++ COLON :: c.password)

theorem encode_not_blank (l : List UInt8) :
    (Base64.encode l).dropWhile isBlank = Base64.encode l := by
  have letter (n i : Nat) : isBlank (Base64.digit n i) = false := by
    have small : n / 64 ^ i % 64 < 64 := Nat.mod_lt _ (by decide)
    unfold Base64.digit
    revert small
    generalize n / 64 ^ i % 64 = m
    revert m
    decide
  cases l using Base64.encode.fun_cases with
  | case1 | case2 | case3 => exact List.dropWhile_cons_of_neg (by simp [letter])
  | case4 => rfl

theorem basicCredentials_authorization (plain : COLON ∉ c.username) :
    basicCredentials (authorization c) = some c := by
  have scheme : cut [SPACE] (authorization c) =
      some (ascii "Basic", Base64.encode (c.username ++ COLON :: c.password)) :=
    cut_here (by decide)
  have named : cut [COLON] (c.username ++ COLON :: c.password) = some (c.username, c.password) :=
    cut_here plain
  have basic : lowercase (ascii "Basic") = ascii "basic" := by decide
  rw [basicCredentials, scheme]
  dsimp only
  rw [if_pos basic, encode_not_blank, Base64.decode_encode, Option.bind_some, named]
  rfl

/-- **A request written with the credentials is authorized**, whatever the pieces it arrives in. -/
theorem authorized_text {m : Message} (valid : m.Valid) {recv : List (List UInt8)}
    (cuts : Cuts m.text recv) (plain : COLON ∉ c.username)
    (header : (ascii "Authorization", authorization c) ∈ m.headers) :
    ∃ r, parseRequest recv = some r ∧ Authorized c r := by
  have parsed := parseRequest_of_cut valid.cut_text valid.small valid.block_read
    valid.contentLength cuts
  refine ⟨_, parsed, ?_⟩
  have stored : (lowercase (ascii "Authorization"), authorization c) ∈ m.lowered :=
    List.mem_map.mpr ⟨_, header, rfl⟩
  have found : m.lowered.lookup (lowercase (ascii "Authorization")) = some (authorization c) :=
    lookup_of_mem valid.distinct stored
  unfold Authorized getHeader
  rw [found]
  exact basicCredentials_authorization plain

/-! ## Two requests -/

/-- A handler that takes every request and answers it. -/
def plainHandler : AsyncWebHandler where
  canHandle _ := true
  handleRequest _ := [.send 200]
  handleBody _ _ _ _ := []
  handleUpload _ _ _ _ _ := []

def admin : Credentials := ⟨ascii "admin", ascii "web"⟩

/-- A request with the credentials of `admin`, or without any. -/
def toggle (authorized : Bool) : Message where
  method := .post
  path := ascii "/switch/relay/toggle"
  query := []
  headers := if authorized then [(ascii "Authorization", authorization admin)]
    else [(ascii "Host", ascii "x")]
  body := []

theorem toggle_valid (authorized : Bool) : (toggle authorized).Valid := by
  constructor
  · cases authorized <;> decide
  · exact nofun
  · cases authorized <;> exact List.cons_ne_nil _ _
  · cases authorized <;> exact fun h mem => by
      obtain rfl := List.mem_singleton.mp mem
      exact forall_of_all (by decide)
  · cases authorized <;> exact fun h mem => by
      obtain rfl := List.mem_singleton.mp mem
      exact forall_of_all (by decide)
  · cases authorized <;> exact fun h mem => by
      obtain rfl := List.mem_singleton.mp mem
      exact fun c first => by cases first; rfl
  · cases authorized <;> decide
  · cases authorized <;> exact .inr (by decide)
  · cases authorized <;> decide
  · cases authorized <;> decide

theorem guarded_toggle : Guarded admin [.addHandler plainHandler] (bytewise (toggle true).text)
    ((configured admin none [.addHandler plainHandler]).handleConnection
      (bytewise (toggle true).text)) := by
  refine (guarded_iff (by decide) _).mpr fun r parsed _ => ?_
  obtain ⟨r', parsed', authorized⟩ := authorized_text (c := admin) (toggle_valid true)
    (cuts_bytewise _) (by decide) (List.mem_singleton.mpr rfl)
  obtain rfl : r' = r := Option.some.inj (parsed'.symm.trans parsed)
  exact authorized

/-- A request without credentials is handled and answered. -/
theorem not_guarded_toggle : ∃ recv r, parseRequest recv = some r ∧
    Registration.takes [.addHandler plainHandler] r = true ∧ ¬ Authorized admin r ∧
      (configured admin none [.addHandler plainHandler]).handleConnection recv =
          ([200], [.request]) ∧
        ¬ Guarded admin [.addHandler plainHandler] recv
          ((configured admin none [.addHandler plainHandler]).handleConnection recv) := by
  have valid := toggle_valid false
  have parsed := parseRequest_of_cut valid.cut_text valid.small valid.block_read
    valid.contentLength (cuts_bytewise _)
  have bad : ¬ Authorized admin
      { head := ⟨.post, ascii "/switch/relay/toggle", [], (toggle false).lowered⟩
        body := [] } := by
    decide
  have handled : (configured admin none [.addHandler plainHandler]).handleConnection
      (bytewise (toggle false).text) = ([200], [.request]) := by
    rw [WebServerBase.handleConnection, parsed]
    rfl
  refine ⟨_, _, parsed, rfl, bad, handled, fun guarded => ?_⟩
  have rejected := guarded.rejected _ parsed rfl bad
  rw [handled] at rejected
  exact absurd rejected (by decide)

end EsphomeHost.AsyncWebServer
