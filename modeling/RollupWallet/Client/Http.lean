import RollupWallet.Error.Basic
import RollupWallet.Text.FormUrl

/-!
# Exchanges with a server

A network answers each request or fails to. An exchange is a computation that sends requests to a
network; it yields the requests it has sent, in their order, beside its result, so that what was
sent is known also where the result is an error.
-/

namespace RollupWallet

/-- The methods in use. -/
inductive HttpMethod where
  | get
  | post
deriving DecidableEq, Repr

/-- A request. The query is part of its address, and the form is its body. -/
structure HttpRequest where
  method : HttpMethod
  url : String
  query : List (String × String)
  form : List (String × String)
deriving DecidableEq

/-- An answer. -/
structure HttpResponse where
  status : Nat
  body : Bytes
deriving DecidableEq

/-- The answers to all requests; there is none where no connection comes about. -/
abbrev Network := HttpRequest → Option HttpResponse

/-- The network that reaches nobody. -/
def Network.unreachable : Network := fun _ => none

/-- A computation over a network, with the requests it sends. -/
def Exchange (α : Type) := Network → List HttpRequest × α

namespace Exchange

variable {α β : Type}

/-- Runs an exchange on a network. -/
def run (exchange : Exchange α) (network : Network) : List HttpRequest × α := exchange network

/-- Sends one request. What the transport does by itself is left to the network: where it follows a
redirect, the request is the one that it was given and the answer the last that it gets. -/
def send (request : HttpRequest) : Exchange (Option HttpResponse) :=
  fun network => ([request], network request)

instance : Monad Exchange where
  pure value := fun _ => ([], value)
  bind exchange next := fun network =>
    let (first, value) := exchange network
    let (later, result) := next value network
    (first ++ later, result)

@[simp] theorem run_pure (value : α) (network : Network) :
    (pure value : Exchange α).run network = ([], value) := rfl

@[simp] theorem run_send (request : HttpRequest) (network : Network) :
    (send request).run network = ([request], network request) := rfl

theorem run_bind (exchange : Exchange α) (next : α → Exchange β) (network : Network) :
    (exchange >>= next).run network =
      ((exchange.run network).1 ++ ((next (exchange.run network).2).run network).1,
        ((next (exchange.run network).2).run network).2) := rfl

end Exchange

/-- An exchange that may fail. -/
abbrev Online := ExceptT WalletError Exchange

namespace HttpResponse

/-- Whether the status tells of success. -/
def isSuccess (response : HttpResponse) : Bool := 200 ≤ response.status && response.status < 300

/-- The value in the body of a successful answer. The body of any other one is reported as it
is. -/
def value {α : Type} (codec : Json.Codec α) (response : HttpResponse) : Except WalletError α :=
  if response.isSuccess then
    match codec.ofText response.body with
    | .ok value => .ok value
    | .error _ => .error (.json .malformed)
  else .error (.remote response.status (Text.ofUtf8Lossy response.body))

end HttpResponse

/-- Sends a request and reads the value in the answer. -/
def HttpRequest.fetch {α : Type} (codec : Json.Codec α) (request : HttpRequest) : Online α := do
  match ← (Exchange.send request : Exchange _) with
  | none => throw .transport
  | some response => response.value codec

end RollupWallet
