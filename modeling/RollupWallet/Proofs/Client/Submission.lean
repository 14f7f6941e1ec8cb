import Mathlib
import RollupWallet.Client.Basic
import RollupWallet.Proofs.Client.Exchange
import RollupWallet.Proofs.Error
import RollupWallet.Proofs.Tx.Wire

/-!
# What is sent when a transaction is posted

One request is all that is ever posted for a transaction.  It is sent again only as long as nobody
answers (`HttpRequest.run_fetchAgain`), since no answer leads to an error that allows another try.
The request holds a text from which the transaction is read back, at the path of its kind
(`HttpRequest.Posts`): that text is UTF-8, so nothing of it is lost in the form
(`Api.run_submit`).

A client asks first and posts last, and only what it has cleared (`PostsIf`).  This is a property of
runs that one step after the other keeps (`PostsIf.bind`): a step that fails must leave nothing
cleared, and the last step is the post of a transaction whose signature verifies
(`PostsIf.submitSigned`).
-/

namespace RollupWallet

open Eddsa Online

variable {α : Type} {network : Network}

/-! ### Tries -/

/-- An answer is an answer, whatever it says. -/
theorem HttpResponse.isRetryable_of_value {codec : Json.Codec α} {response : HttpResponse}
    {error : WalletError} (h : response.value codec = .error error) :
    error.isRetryable = false := by
  unfold value at h
  split at h
  · split at h
    · cases h
    · rw [← Except.error.inj h]
      rfl
  · rw [← Except.error.inj h]
    rfl

namespace HttpRequest

/-- How often a request is sent: once if it is answered. -/
def tries (request : HttpRequest) (retries : ℕ) (network : Network) : ℕ :=
  if (network request).isSome then 1 else retries + 1

/-- **A request is sent until it is answered**, and otherwise as often as is allowed. -/
theorem run_fetchAgain (codec : Json.Codec α) (request : HttpRequest) (retries : ℕ) :
    (request.fetchAgain codec retries).run.run network =
      (List.replicate (request.tries retries network) request, request.answer codec network) := by
  have hfetch : (request.fetch codec).run.run network = ([request], request.answer codec network) :=
    run_fetch codec request
  unfold tries
  unfold answer at hfetch ⊢
  cases hanswer : network request with
  | none =>
      rw [hanswer] at hfetch
      -- each try that gets no answer sends the request once and leaves one try less
      induction retries with
      | zero => exact hfetch
      | succ retries ih =>
          rw [fetchAgain, run_tryCatch_error hfetch]
          show ([request] ++ ((request.fetchAgain codec retries).run.run network).1,
            ((request.fetchAgain codec retries).run.run network).2) = _
          rw [ih]
          rfl
  | some response =>
      rw [hanswer] at hfetch
      change _ = ([request], response.value codec) at hfetch
      show _ = ([request], response.value codec)
      cases retries with
      | zero => exact hfetch
      | succ retries =>
          cases hvalue : response.value codec with
          | ok value =>
              rw [hvalue] at hfetch
              exact run_tryCatch_ok hfetch
          | error error =>
              rw [hvalue] at hfetch
              -- the error is passed on, since it does not allow another try
              rw [fetchAgain, run_tryCatch_error hfetch, HttpResponse.isRetryable_of_value hvalue]
              rfl

/-- The request posts a transaction: at the path of its kind, with a text from which the transaction
is read back. -/
structure Posts (request : HttpRequest) (api : Api) (tx : Tx) : Prop where
  is_post : request.method = .post
  path : ∃ path, submitPath tx.content.kind = .ok path ∧ request.url = api.base ++ path
  tx_info : ∃ text, request.form.lookup "tx_info" = some text ∧
    Tx.ofJson tx.content.kind (Text.utf8 text) = .ok tx

end HttpRequest

/-! ### Submissions -/

theorem Operation.exists_submitPath (op : Operation) : ∃ path, submitPath op.kind = .ok path := by
  cases op
  all_goals exact ⟨_, rfl⟩

/-- **A transaction is posted by one request**, whatever the network is. -/
theorem Api.run_submit (api : Api) (retries : ℕ) (tx : Tx) :
    ∃ post : HttpRequest, post.Posts api tx ∧ ∀ network : Network,
      (api.submit retries tx.content.kind tx.toJson).run.run network =
        (List.replicate (post.tries retries network) post,
          post.answer SubmitResponse.codec network) := by
  obtain ⟨path, hpath⟩ := tx.content.exists_submitPath
  obtain ⟨text, htext⟩ := tx.isUtf8_toJson
  refine ⟨{ method := .post, url := api.base ++ path, query := [],
            form := submitForm path tx.content.kind text }, ⟨rfl, ⟨path, hpath, rfl⟩, text, ?_, ?_⟩,
    ?_⟩
  · rfl
  · rw [htext]
    exact tx.ofJson_toJson
  · intro network
    unfold submit
    rw [run_lift_bind hpath, ← htext, Text.utf8Fault?_utf8, Text.ofUtf8Lossy_utf8]
    exact HttpRequest.run_fetchAgain _ _ _

/-! ### Questions, then a post -/

/-- How a run posts: behind its questions, and exactly if a transaction is cleared.  That one is
posted, and the answer is the outcome.  If none is cleared, the outcome is an error. -/
def PostsIf (client : Client) (network : Network) (cleared : Tx → Prop)
    (x : Online SubmitResponse) : Prop :=
  ∃ questions : List HttpRequest, (∀ question ∈ questions, question.method = .get) ∧
    ((∃ error, x.run.run network = (questions, .error error) ∧ ∀ tx, ¬ cleared tx) ∨
      ∃ (tx : Tx) (post : HttpRequest), cleared tx ∧ post.Posts client.api tx ∧
        x.run.run network =
          (questions ++ List.replicate (post.tries client.retries network) post,
            post.answer SubmitResponse.codec network))

namespace PostsIf

variable {client : Client} {cleared : Tx → Prop}

/-- A transaction that is cleared and whose signature verifies is posted. -/
theorem submitSigned {tx : Tx} {key : PublicKey} (hcleared : cleared tx)
    (h : tx.verify client.revision key = .ok ()) :
    PostsIf client network cleared (client.submitSigned tx key) := by
  obtain ⟨post, hpost, hrun⟩ := client.api.run_submit client.retries tx
  refine ⟨[], nofun, Or.inr ⟨tx, post, hcleared, hpost, ?_⟩⟩
  unfold Client.submitSigned
  rw [run_lift_bind h]
  exact hrun network

/-- A question in front: either its answer leads on, or nothing is cleared. -/
theorem bind {x : Online α} {f : α → Online SubmitResponse} (hasks : Asks x network)
    (herror : ∀ error, (x.run.run network).2 = .error error → ∀ tx, ¬ cleared tx)
    (hok : ∀ value, (x.run.run network).2 = .ok value → PostsIf client network cleared (f value)) :
    PostsIf client network cleared (x >>= f) := by
  cases hx : x.run.run network with
  | mk questions answer =>
      rw [Asks, hx] at hasks
      rw [hx] at herror hok
      cases answer with
      | error error =>
          exact ⟨questions, hasks, Or.inl ⟨error, run_bind_error hx, herror error rfl⟩⟩
      | ok value =>
          obtain ⟨later, hlater, hrun⟩ := hok value rfl
          -- the questions of both steps together come before the post of the second one
          refine ⟨questions ++ later, ?_, ?_⟩
          · intro question hquestion
            rcases List.mem_append.mp hquestion with hfirst | hsecond
            · exact hasks question hfirst
            · exact hlater question hsecond
          · rw [run_bind_ok hx]
            rcases hrun with ⟨error, hrun, hnone⟩ | ⟨tx, post, hcleared, hpost, hrun⟩
            · exact Or.inl ⟨error, by rw [hrun], hnone⟩
            · refine Or.inr ⟨tx, post, hcleared, hpost, ?_⟩
              rw [hrun, List.append_assoc]

theorem congr {other : Tx → Prop} {x : Online SubmitResponse}
    (h : PostsIf client network cleared x) (hiff : ∀ tx, cleared tx ↔ other tx) :
    PostsIf client network other x := by
  have heq : cleared = other := funext fun tx => propext (hiff tx)
  exact heq ▸ h

/-! What such a run posts -/

variable {x : Online SubmitResponse}

/-- Everything is asked before anything is posted. -/
theorem exists_questions (h : PostsIf client network cleared x) :
    ∃ questions : List HttpRequest, (∀ question ∈ questions, question.method = .get) ∧
      (x.run.run network).1 = questions ++ posts (x.run.run network).1 := by
  obtain ⟨questions, hquestions, ⟨error, hrun, _⟩ | ⟨tx, post, _, hpost, hrun⟩⟩ := h
  · refine ⟨questions, hquestions, ?_⟩
    rw [hrun, posts_eq_nil hquestions, List.append_nil]
  · refine ⟨questions, hquestions, ?_⟩
    rw [hrun, posts_append_replicate hquestions hpost.is_post]

theorem exists_cleared (h : PostsIf client network cleared x) :
    ∀ post ∈ posts (x.run.run network).1, ∃ tx, cleared tx ∧ post.Posts client.api tx := by
  intro other hother
  obtain ⟨questions, hquestions, ⟨error, hrun, _⟩ | ⟨tx, post, hcleared, hpost, hrun⟩⟩ := h
  · rw [hrun, posts_eq_nil hquestions] at hother
    cases hother
  · rw [hrun, posts_append_replicate hquestions hpost.is_post] at hother
    rw [List.eq_of_mem_replicate hother]
    exact ⟨tx, hcleared, hpost⟩

theorem posts_eq_nil_iff (h : PostsIf client network cleared x) :
    posts (x.run.run network).1 = [] ↔ ∀ tx, ¬ cleared tx := by
  obtain ⟨questions, hquestions, ⟨error, hrun, hnone⟩ | ⟨tx, post, hcleared, hpost, hrun⟩⟩ := h
  · rw [hrun]
    exact ⟨fun _ => hnone, fun _ => posts_eq_nil hquestions⟩
  · rw [hrun, posts_append_replicate hquestions hpost.is_post]
    constructor
    · intro hnil
      rw [List.replicate_eq_nil_iff] at hnil
      unfold HttpRequest.tries at hnil
      split at hnil
      · cases hnil
      · cases hnil
    · intro hnone
      exact absurd hcleared (hnone tx)

theorem exists_error (h : PostsIf client network cleared x) (hnone : ∀ tx, ¬ cleared tx) :
    ∃ error, (x.run.run network).2 = .error error := by
  obtain ⟨_, _, ⟨error, hrun, _⟩ | ⟨tx, _, hcleared, _, _⟩⟩ := h
  · exact ⟨error, by rw [hrun]⟩
  · exact absurd hcleared (hnone tx)

/-- A server that answers every request is posted to once at most, and its answer to the post is the
outcome. -/
theorem answered {server : HttpRequest → HttpResponse}
    (h : PostsIf client (Network.of server) cleared x) :
    posts (x.run.run (Network.of server)).1 = [] ∨
      ∃ post, posts (x.run.run (Network.of server)).1 = [post] ∧
        (x.run.run (Network.of server)).2 = (server post).value SubmitResponse.codec := by
  obtain ⟨questions, hquestions, ⟨error, hrun, _⟩ | ⟨tx, post, _, hpost, hrun⟩⟩ := h
  · rw [hrun]
    exact Or.inl (posts_eq_nil hquestions)
  · rw [hrun, posts_append_replicate hquestions hpost.is_post]
    exact Or.inr ⟨post, rfl, rfl⟩

end PostsIf

end RollupWallet
