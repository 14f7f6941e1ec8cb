import Mathlib
import RollupWallet.Client.Http

/-!
# Runs of an exchange that may fail

A run yields the requests that were sent and an outcome.  It goes on behind a step only if the step
gives a result (`Online.run_bind_ok`); an error ends it, and then nothing more is sent
(`Online.run_bind_error`).  A step that sends nothing is decided by its outcome alone
(`Online.run_lift`).

Most steps only ask, and steps that only ask do so together (`Online.Asks.bind`).  Questions post
nothing (`posts_eq_nil`).
-/

namespace RollupWallet

variable {α β : Type}

/-- The posts among requests. -/
def posts (requests : List HttpRequest) : List HttpRequest :=
  requests.filter fun request => request.method = .post

@[simp] theorem posts_append (first later : List HttpRequest) :
    posts (first ++ later) = posts first ++ posts later :=
  List.filter_append first later

theorem posts_eq_nil {requests : List HttpRequest} (h : ∀ request ∈ requests, request.method = .get) :
    posts requests = [] := by
  rw [posts, List.filter_eq_nil_iff]
  intro request hrequest
  rw [h request hrequest]
  decide

theorem posts_replicate {post : HttpRequest} (hpost : post.method = .post) (n : ℕ) :
    posts (List.replicate n post) = List.replicate n post := by
  rw [posts, List.filter_replicate, if_pos (decide_eq_true hpost)]

/-- The questions among requests. -/
def reads (requests : List HttpRequest) : List HttpRequest :=
  requests.filter fun request => request.method = .get

theorem reads_append_posts {questions later : List HttpRequest}
    (hquestions : ∀ question ∈ questions, question.method = .get)
    (hlater : ∀ request ∈ later, request.method = .post) :
    reads (questions ++ later) = questions ∧ posts (questions ++ later) = later := by
  have hreads : reads questions = questions := by
    rw [reads, List.filter_eq_self]
    exact fun question hquestion => decide_eq_true (hquestions question hquestion)
  have hnone : reads later = [] := by
    rw [reads, List.filter_eq_nil_iff]
    intro request hrequest
    rw [hlater request hrequest]
    decide
  have hposts : posts later = later := by
    rw [posts, List.filter_eq_self]
    exact fun request hrequest => decide_eq_true (hlater request hrequest)
  refine ⟨?_, ?_⟩
  · rw [reads, List.filter_append, ← reads, ← reads, hreads, hnone, List.append_nil]
  · rw [posts_append, posts_eq_nil hquestions, hposts, List.nil_append]

/-- Questions first, and then one request that is posted again and again. -/
theorem posts_append_replicate {questions : List HttpRequest} {post : HttpRequest}
    (hquestions : ∀ question ∈ questions, question.method = .get) (hpost : post.method = .post)
    (n : ℕ) : posts (questions ++ List.replicate n post) = List.replicate n post := by
  rw [posts_append, posts_eq_nil hquestions, List.nil_append, posts_replicate hpost]

/-- The network of a server that answers every request. -/
def Network.of (server : HttpRequest → HttpResponse) : Network := fun request => some (server request)

/-- The value that a network answers a request with. -/
def HttpRequest.answer (codec : Json.Codec α) (request : HttpRequest) (network : Network) :
    Except WalletError α :=
  match network request with
  | none => .error .transport
  | some response => response.value codec

/-- Transcripts are appended, so it does not matter how the steps are grouped. -/
instance : LawfulMonad Exchange := by
  refine LawfulMonad.mk' _ ?_ ?_ ?_
  · intro α exchange
    funext network
    show ((exchange network).1 ++ [], (exchange network).2) = _
    rw [List.append_nil]
  · intro α β value next
    rfl
  · intro α β γ exchange next last
    funext network
    show ((exchange network).1 ++ _ ++ _, _) = ((exchange network).1 ++ (_ ++ _), _)
    rw [List.append_assoc]

namespace Online

variable {network : Network} {sent : List HttpRequest} {x : Online α} {f : α → Online β}

/-! ### Steps -/

@[simp] theorem run_pure (value : α) :
    (pure value : Online α).run.run network = ([], .ok value) := rfl

@[simp] theorem run_lift (result : Except WalletError α) :
    (liftM result : Online α).run.run network = ([], result) := rfl

theorem run_bind_ok {value : α} (h : x.run.run network = (sent, .ok value)) :
    (x >>= f).run.run network =
      (sent ++ ((f value).run.run network).1, ((f value).run.run network).2) := by
  rw [ExceptT.run_bind, Exchange.run_bind, h]

theorem run_bind_error {error : WalletError} (h : x.run.run network = (sent, .error error)) :
    (x >>= f).run.run network = (sent, .error error) := by
  rw [ExceptT.run_bind, Exchange.run_bind, h]
  show (sent ++ [], _) = _
  rw [List.append_nil]
  rfl

theorem run_map (g : α → β) (x : Online α) :
    (g <$> x).run.run network = ((x.run.run network).1, g <$> (x.run.run network).2) := by
  rw [map_eq_pure_bind]
  cases hx : x.run.run network with
  | mk sent outcome =>
      cases outcome with
      | error error => exact run_bind_error hx
      | ok value =>
          rw [run_bind_ok hx, run_pure, List.append_nil]
          rfl

theorem run_lift_bind {value : α} {result : Except WalletError α} (h : result = .ok value) :
    ((liftM result : Online α) >>= f).run.run network = (f value).run.run network := by
  have hrun : (liftM result : Online α).run.run network = ([], .ok value) := by rw [run_lift, h]
  rw [run_bind_ok hrun, List.nil_append]

theorem run_lift_bind_error {error : WalletError} {result : Except WalletError α}
    (h : result = .error error) :
    ((liftM result : Online α) >>= f).run.run network = ([], .error error) := by
  apply run_bind_error
  rw [run_lift, h]

theorem run_tryCatch_ok {value : α} {handler : WalletError → Online α}
    (h : x.run.run network = (sent, .ok value)) :
    (tryCatch x handler).run.run network = (sent, .ok value) := by
  rw [ExceptT.run_tryCatch, Exchange.run_bind, h]
  show (sent ++ [], _) = _
  rw [List.append_nil]
  rfl

theorem run_tryCatch_error {error : WalletError} {handler : WalletError → Online α}
    (h : x.run.run network = (sent, .error error)) :
    (tryCatch x handler).run.run network =
      (sent ++ ((handler error).run.run network).1, ((handler error).run.run network).2) := by
  rw [ExceptT.run_tryCatch, Exchange.run_bind, h]

/-! ### Requests -/

/-- A request is sent once, and its answer is read. -/
theorem run_fetch (codec : Json.Codec α) (request : HttpRequest) :
    (request.fetch codec).run.run network = ([request], request.answer codec network) := by
  have hsend : (liftM (Exchange.send request) : Online (Option HttpResponse)).run.run network =
      ([request], .ok (network request)) := rfl
  unfold HttpRequest.fetch HttpRequest.answer
  rw [run_bind_ok hsend]
  cases network request with
  | none => rfl
  | some response => rfl

/-! ### Runs that only ask -/

/-- Every request that is sent asks for something. -/
def Asks (x : Online α) (network : Network) : Prop :=
  ∀ request ∈ (x.run.run network).1, request.method = .get

namespace Asks

theorem pure (value : α) : Asks (pure value) network := nofun

theorem lift (result : Except WalletError α) : Asks (liftM result) network := nofun

theorem fetch (codec : Json.Codec α) {request : HttpRequest} (h : request.method = .get) :
    Asks (request.fetch codec) network := by
  intro other hother
  rw [run_fetch, List.mem_singleton] at hother
  rw [hother]
  exact h

theorem bind (hx : Asks x network) (hf : ∀ value, Asks (f value) network) :
    Asks (x >>= f) network := by
  intro request hrequest
  cases hrun : x.run.run network with
  | mk sent outcome =>
      have hsent : ∀ request ∈ sent, request.method = .get := by
        intro request hrequest
        apply hx
        rw [hrun]
        exact hrequest
      cases outcome with
      | error error =>
          rw [run_bind_error hrun] at hrequest
          exact hsent request hrequest
      | ok value =>
          rw [run_bind_ok hrun] at hrequest
          rcases List.mem_append.mp hrequest with hfirst | hlater
          · exact hsent request hfirst
          · exact hf value request hlater

theorem map (g : α → β) (hx : Asks x network) : Asks (g <$> x) network := by
  rw [map_eq_pure_bind]
  exact hx.bind fun value => Asks.pure (g value)

end Asks

end Online

end RollupWallet
