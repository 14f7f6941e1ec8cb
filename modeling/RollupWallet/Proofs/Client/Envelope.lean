import Mathlib
import RollupWallet.Proofs.Client.Account
import RollupWallet.Proofs.Client.Send
import RollupWallet.Proofs.Request.Settled

/-!
# Who pays what in a posted transaction

The account that collects the fee, the fee and the counter are taken from the options, or else from
the server.  The options are read twice, once when the server is asked and once when the operation is
built, and in between the fee is only a number.  So it has to be the fee of the asset that is charged
and of the kind that is posted (`Client.Fills`).

Three things are in the way.

* **Questions may stop short.**  An error ends a run, so what is asked is a beginning of the list of
  all questions, and all of it only if every one was answered (`Online.Inquires`).  Such lists are
  appended where steps are joined (`Online.Inquires.bind`), and a value that is given adds no question
  to them (`openQuestion`).
* **Answers are texts.**  Two servers may spell the same fee in two ways.  What counts is the value
  that is read (`Client.Agree`).
* **A post is more than the transaction in it.**  Two servers get the same request, word for word,
  since all that follows the questions is decided by the answers
  (`Client.exists_posting`).
-/

namespace RollupWallet

open Eddsa Json Online

variable {α β : Type} {network : Network}

/-! ### Questions about the envelope -/

instance : GasAccount.codec.Lawful :=
  (Codec.lawful_record (by decide)).imap fun _ => rfl

instance : GasFee.codec.Lawful :=
  (Codec.lawful_record (by decide)).imap fun _ => rfl

instance : (Codec.single "nonce").Lawful :=
  (Codec.lawful_record (by decide)).imap fun _ => rfl

namespace Api

variable (api : Api)

/-- The question for the account that collects fees. -/
def gasAccountQuestion : HttpRequest where
  method := .get
  url := api.base ++ "/api/v1/gasAccount"
  query := []
  form := []

/-- The question for the fee of a kind in an asset. -/
def gasFeeQuestion (asset : Int64) (kind : TxKind) : HttpRequest where
  method := .get
  url := api.base ++ "/api/v1/gasFee"
  query := [("asset_id", toString asset.toInt), ("tx_type", toString kind.tag)]
  form := []

/-- The question for the next counter of an account. -/
def nonceQuestion (account : Int64) : HttpRequest where
  method := .get
  url := api.base ++ "/api/v1/nextNonce"
  query := [("account_index", toString account.toInt)]
  form := []

/-- The account that a network says collects fees. -/
def answeredGasAccount (network : Network) : Except WalletError Int64 :=
  GasAccount.index <$> api.gasAccountQuestion.answer GasAccount.codec network

/-- The fee that a network says a kind costs in an asset. -/
def answeredGasFee (network : Network) (asset : Int64) (kind : TxKind) : Except WalletError Nat := do
  let fee ← (api.gasFeeQuestion asset kind).answer GasFee.codec network
  fee.amount

/-- The counter that a network says is the next one of an account. -/
def answeredNonce (network : Network) (account : Int64) : Except WalletError Int64 :=
  (api.nonceQuestion account).answer (.single "nonce") network

theorem run_gasAccount : (GasAccount.index <$> api.gasAccount).run.run network =
    ([api.gasAccountQuestion], api.answeredGasAccount network) := by
  have hfetch : api.gasAccount.run.run network = ([api.gasAccountQuestion],
      api.gasAccountQuestion.answer GasAccount.codec network) := run_fetch _ _
  rw [run_map, hfetch]
  rfl

theorem run_gasFee (asset : Int64) (kind : TxKind) : (api.gasFee asset kind).run.run network =
    ([api.gasFeeQuestion asset kind], api.answeredGasFee network asset kind) := by
  have hfetch : (api.get GasFee.codec "/api/v1/gasFee"
      [("asset_id", toString asset.toInt), ("tx_type", toString kind.tag)]).run.run network =
      ([api.gasFeeQuestion asset kind],
        (api.gasFeeQuestion asset kind).answer GasFee.codec network) := run_fetch _ _
  unfold gasFee answeredGasFee
  cases hanswer : (api.gasFeeQuestion asset kind).answer GasFee.codec network with
  | error error =>
      rw [hanswer] at hfetch
      exact run_bind_error hfetch
  | ok fee =>
      rw [hanswer] at hfetch
      exact run_bind_ok hfetch

theorem run_nextNonce (account : Int64) : (api.nextNonce account).run.run network =
    ([api.nonceQuestion account], api.answeredNonce network account) :=
  run_fetch _ _

end Api

/-! ### What is given and what is asked -/

/-- The value that is given, or else the answer. -/
def settled (given : Option α) (answer : Except WalletError α) : Except WalletError α :=
  match given with
  | some value => .ok value
  | none => answer

/-- A question is open unless the value is given. -/
def openQuestion (given : Option α) (question : HttpRequest) : List HttpRequest :=
  match given with
  | some _ => []
  | none => [question]

theorem eq_of_mem_openQuestion {given : Option α} {question other : HttpRequest}
    (h : other ∈ openQuestion given question) : other = question := by
  cases given with
  | some value => cases h
  | none => exact List.mem_singleton.mp h

theorem settled_eq_ok_getD {given : Option α} {answer : Except WalletError α} {value : α}
    (h : settled given answer = .ok value) : settled given answer = .ok (given.getD value) := by
  cases given with
  | some given => rfl
  | none => exact h

theorem settled_congr {given : Option α} {answer other : Except WalletError α}
    (h : given = none → ∀ value, answer = .ok value ↔ other = .ok value) (value : α) :
    settled given answer = .ok value ↔ settled given other = .ok value := by
  cases given with
  | some given => exact Iff.rfl
  | none => exact h rfl value

theorem Client.run_settle {given : Option α} {x : Online α} {question : HttpRequest}
    {answer : Except WalletError α} (h : x.run.run network = ([question], answer)) :
    (settle given x).run.run network = (openQuestion given question, settled given answer) := by
  cases given with
  | some value => rfl
  | none => exact h

/-- A run asks the questions in their order, as far as it gets. -/
structure Online.Inquires (x : Online α) (network : Network) (questions : List HttpRequest)
    (outcome : Except WalletError α) : Prop where
  outcome_eq : (x.run.run network).2 = outcome
  asked : (x.run.run network).1 <+: questions
  asked_all : ∀ value, outcome = .ok value → (x.run.run network).1 = questions

namespace Online.Inquires

variable {x : Online α} {f : α → Online β} {questions later : List HttpRequest}
  {outcome : Except WalletError α} {next : α → Except WalletError β}

theorem of_run (h : x.run.run network = (questions, outcome)) :
    Inquires x network questions outcome := by
  refine ⟨congrArg Prod.snd h, ?_, fun _ _ => congrArg Prod.fst h⟩
  rw [h]

theorem bind (hx : Inquires x network questions outcome)
    (hf : ∀ value, Inquires (f value) network later (next value)) :
    Inquires (x >>= f) network (questions ++ later) (outcome >>= next) := by
  obtain ⟨rfl, hasked, hall⟩ := hx
  cases hrun : x.run.run network with
  | mk sent result =>
      rw [hrun] at hasked hall
      cases result with
      | error error =>
          have hend := run_bind_error (f := f) hrun
          refine ⟨congrArg Prod.snd hend, ?_, nofun⟩
          rw [hend]
          exact hasked.trans (List.prefix_append _ _)
      | ok value =>
          obtain rfl : sent = questions := hall value rfl
          have hjoined := run_bind_ok (f := f) hrun
          refine ⟨(congrArg Prod.snd hjoined).trans (hf value).outcome_eq, ?_, ?_⟩
          · rw [hjoined]
            exact (List.prefix_append_right_inj _).mpr (hf value).asked
          · intro result hresult
            rw [hjoined, (hf value).asked_all result hresult]

end Online.Inquires

namespace Client

variable {client : Client} {kind : TxKind} {options : RequestOptions}

/-- What the options leave open, in the order in which it is asked. -/
def openQuestions (client : Client) (kind : TxKind) (options : RequestOptions) :
    List HttpRequest :=
  openQuestion options.gasAccount client.api.gasAccountQuestion ++
    (openQuestion options.gasAmount
        (client.api.gasFeeQuestion (options.gasAsset.getD defaultGasAsset) kind) ++
      openQuestion options.nonce (client.api.nonceQuestion options.fromAccount))

theorem get_of_mem_openQuestions {question : HttpRequest}
    (h : question ∈ client.openQuestions kind options) : question.method = .get := by
  rcases List.mem_append.mp h with h | h
  · exact congrArg HttpRequest.method (eq_of_mem_openQuestion h)
  rcases List.mem_append.mp h with h | h
  · exact congrArg HttpRequest.method (eq_of_mem_openQuestion h)
  · exact congrArg HttpRequest.method (eq_of_mem_openQuestion h)

/-- The defaults that a network leads to. -/
def answeredDefaults (client : Client) (network : Network) (kind : TxKind)
    (options : RequestOptions) : Except WalletError EnvelopeDefaults := do
  let gasAccount ← settled options.gasAccount (client.api.answeredGasAccount network)
  let gasAmount ← settled options.gasAmount
    (client.api.answeredGasFee network (options.gasAsset.getD defaultGasAsset) kind)
  let nonce ← settled options.nonce (client.api.answeredNonce network options.fromAccount)
  return { gasAccount, gasAmount, nonce, now := client.now }

/-- **What the options leave open is asked for, and nothing else.** -/
theorem inquires_envelopeDefaults (client : Client) (kind : TxKind) (options : RequestOptions)
    (network : Network) :
    Inquires (client.envelopeDefaults kind options) network (client.openQuestions kind options)
      (client.answeredDefaults network kind options) := by
  refine Inquires.bind (.of_run (run_settle (Api.run_gasAccount _))) fun gasAccount => ?_
  refine Inquires.bind (.of_run (run_settle (Api.run_gasFee _ _ _))) fun gasAmount => ?_
  rw [← List.append_nil (openQuestion options.nonce _)]
  refine Inquires.bind (.of_run (run_settle (Api.run_nextNonce _ _))) fun nonce => ?_
  exact .of_run (run_pure _)

theorem answeredDefaults_eq_ok {defaults : EnvelopeDefaults} :
    client.answeredDefaults network kind options = .ok defaults ↔
      settled options.gasAccount (client.api.answeredGasAccount network) =
          .ok defaults.gasAccount ∧
        settled options.gasAmount (client.api.answeredGasFee network
          (options.gasAsset.getD defaultGasAsset) kind) = .ok defaults.gasAmount ∧
        settled options.nonce (client.api.answeredNonce network options.fromAccount) =
          .ok defaults.nonce ∧
        defaults.now = client.now := by
  constructor
  · intro h
    obtain ⟨gasAccount, hgasAccount, h⟩ := bind_eq_ok.mp h
    obtain ⟨gasAmount, hgasAmount, h⟩ := bind_eq_ok.mp h
    obtain ⟨nonce, hnonce, h⟩ := bind_eq_ok.mp h
    obtain rfl := Except.ok.inj h
    exact ⟨hgasAccount, hgasAmount, hnonce, rfl⟩
  · rintro ⟨hgasAccount, hgasAmount, hnonce, hnow⟩
    refine bind_eq_ok.mpr ⟨_, hgasAccount, bind_eq_ok.mpr ⟨_, hgasAmount, ?_⟩⟩
    refine bind_eq_ok.mpr ⟨_, hnonce, ?_⟩
    rw [← hnow]
    rfl

/-! ### The envelope -/

/-- Each part of an envelope is the one that the options give, or else the one that the network
answers.  The fee is that of the asset in the envelope. -/
structure Fills (client : Client) (network : Network) (kind : TxKind) (options : RequestOptions)
    (envelope : Envelope) : Prop where
  gasAccount : settled options.gasAccount (client.api.answeredGasAccount network) =
    .ok envelope.gasAccount
  gasAsset : envelope.gasAsset = options.gasAsset.getD 0
  gasAmount : settled options.gasAmount
    (client.api.answeredGasFee network envelope.gasAsset kind) = .ok envelope.gasAmount
  nonce : settled options.nonce (client.api.answeredNonce network options.fromAccount) =
    .ok envelope.nonce
  expiredAt : envelope.expiredAt = options.expiredAt.getD (client.now + defaultLifetime)

theorem Fills.unique {first second : Envelope}
    (hfirst : client.Fills network kind options first)
    (hsecond : client.Fills network kind options second) : first = second := by
  have hgasAccount := Except.ok.inj (hfirst.gasAccount.symm.trans hsecond.gasAccount)
  have hgasAsset : first.gasAsset = second.gasAsset := by rw [hfirst.gasAsset, hsecond.gasAsset]
  have hgasAmount := Except.ok.inj
    ((hgasAsset ▸ hfirst.gasAmount).symm.trans hsecond.gasAmount)
  have hnonce := Except.ok.inj (hfirst.nonce.symm.trans hsecond.nonce)
  have hexpiredAt : first.expiredAt = second.expiredAt := by
    rw [hfirst.expiredAt, hsecond.expiredAt]
  cases first
  cases second
  rw [Envelope.mk.injEq]
  exact ⟨hgasAccount, hgasAsset, hgasAmount, hexpiredAt, hnonce⟩

/-- What is asked for first and filled in later fits together. -/
theorem fills_envelope {defaults : EnvelopeDefaults}
    (h : client.answeredDefaults network kind options = .ok defaults) :
    client.Fills network kind options (options.envelope defaults) := by
  obtain ⟨hgasAccount, hgasAmount, hnonce, hnow⟩ := answeredDefaults_eq_ok.mp h
  refine ⟨settled_eq_ok_getD hgasAccount, rfl, settled_eq_ok_getD hgasAmount,
    settled_eq_ok_getD hnonce, ?_⟩
  rw [← hnow]
  rfl

end Client

/-- Every kind of request but an offer takes the envelope as it is. -/
theorem Request.envelope?_of_build {request : Request} {options : RequestOptions}
    {defaults : EnvelopeDefaults} {op : Operation} (h : request.build options defaults = .ok op)
    (hkind : request.kind ≠ .offer) : op.envelope? = some (options.envelope defaults) := by
  cases request
  case offer request => exact absurd rfl hkind
  case transfer request | mintNft request | transferNft request =>
    obtain ⟨_, _, h⟩ := bind_eq_ok.mp h
    obtain ⟨_, _, h⟩ := bind_eq_ok.mp h
    cases h
    rfl
  case createCollection request =>
    simp only [build] at h
    split at h
    · cases h
      rfl
    · cases h
  all_goals
    cases h
    rfl

namespace Client

variable {client : Client} {kind : TxKind} {options : RequestOptions}

/-! ### What follows the questions -/

/-- Two networks answer alike what the options leave open. -/
structure Agree (client : Client) (kind : TxKind) (options : RequestOptions)
    (network other : Network) : Prop where
  gasAccount : options.gasAccount = none → ∀ index,
    client.api.answeredGasAccount network = .ok index ↔
      client.api.answeredGasAccount other = .ok index
  gasAmount : options.gasAmount = none → ∀ amount,
    client.api.answeredGasFee network (options.gasAsset.getD 0) kind = .ok amount ↔
      client.api.answeredGasFee other (options.gasAsset.getD 0) kind = .ok amount
  nonce : options.nonce = none → ∀ nonce,
    client.api.answeredNonce network options.fromAccount = .ok nonce ↔
      client.api.answeredNonce other options.fromAccount = .ok nonce

theorem Agree.answeredDefaults_eq_ok_iff {other : Network}
    (h : client.Agree kind options network other) (defaults : EnvelopeDefaults) :
    client.answeredDefaults network kind options = .ok defaults ↔
      client.answeredDefaults other kind options = .ok defaults := by
  rw [answeredDefaults_eq_ok, answeredDefaults_eq_ok]
  refine and_congr (settled_congr h.gasAccount _) (and_congr ?_ (and_congr ?_ Iff.rfl))
  · exact settled_congr h.gasAmount _
  · exact settled_congr h.nonce _

/-- A run asks nothing, and every server is sent the same. -/
def SendsAlike (x : Online α) (requests : List HttpRequest) : Prop :=
  (∀ request ∈ requests, request.method = .post) ∧
    ∀ server, (x.run.run (Network.of server)).1 = requests

/-- A step in front that sends nothing does not change this: either it leads on, or nothing is
sent. -/
theorem SendsAlike.exists_lift_bind {result : Except WalletError α} {f : α → Online β}
    (h : ∀ value, ∃ requests, SendsAlike (f value) requests) :
    ∃ requests, SendsAlike (liftM result >>= f) requests := by
  cases hresult : result with
  | error error =>
      exact ⟨[], nofun, fun server => congrArg Prod.fst (run_lift_bind_error rfl)⟩
  | ok value =>
      obtain ⟨requests, hposts, hrun⟩ := h value
      refine ⟨requests, hposts, fun server => ?_⟩
      rw [run_lift_bind rfl, hrun]

theorem exists_sendsAlike_submit (api : Api) (retries : ℕ) (tx : Tx) :
    ∃ requests, SendsAlike (api.submit retries tx.content.kind tx.toJson) requests := by
  obtain ⟨post, hpost, hrun⟩ := api.run_submit retries tx
  refine ⟨[post], fun request hrequest => ?_, fun server => ?_⟩
  · rw [List.mem_singleton.mp hrequest]
    exact hpost.is_post
  · rw [hrun]
    rfl

/-- What is done once the defaults are known. -/
def submitRequest (client : Client) (signer : Signer) (request : Request)
    (options : RequestOptions) (key : PublicKey) (defaults : EnvelopeDefaults) :
    Online SubmitResponse := do
  let tx ← (Assembler.mk client.context (some signer)).signRequest request options defaults
  client.submitSigned tx key

theorem exists_sendsAlike_submitRequest (client : Client) (signer : Signer) (request : Request)
    (options : RequestOptions) (key : PublicKey) (defaults : EnvelopeDefaults) :
    ∃ requests, SendsAlike (client.submitRequest signer request options key defaults) requests :=
  SendsAlike.exists_lift_bind fun tx => SendsAlike.exists_lift_bind fun _ =>
    exists_sendsAlike_submit client.api client.retries tx

/-- What is posted for the defaults that were found out, and nothing if they were not. -/
def posted (posting : EnvelopeDefaults → List HttpRequest) :
    Except WalletError EnvelopeDefaults → List HttpRequest
  | .ok defaults => posting defaults
  | .error _ => []

@[simp] theorem posted_nil (outcome : Except WalletError EnvelopeDefaults) :
    posted (fun _ => []) outcome = [] := by
  cases outcome with
  | ok defaults => rfl
  | error error => rfl

theorem post_of_mem_posted {posting : EnvelopeDefaults → List HttpRequest}
    (h : ∀ defaults, ∀ post ∈ posting defaults, post.method = .post)
    (outcome : Except WalletError EnvelopeDefaults) :
    ∀ post ∈ posted posting outcome, post.method = .post := by
  cases outcome with
  | ok defaults => exact h defaults
  | error error => exact nofun

theorem posted_congr {posting : EnvelopeDefaults → List HttpRequest}
    {outcome other : Except WalletError EnvelopeDefaults}
    (h : ∀ defaults, outcome = .ok defaults ↔ other = .ok defaults) :
    posted posting outcome = posted posting other := by
  cases outcome with
  | ok defaults => rw [(h defaults).mp rfl]
  | error error =>
      cases other with
      | ok defaults => cases (h defaults).mpr rfl
      | error other => rfl

/-- Behind the questions, the answers decide what is sent. -/
theorem exists_transcript (client : Client) (signer : Signer) (request : Request)
    (options : RequestOptions) :
    ∃ posting : EnvelopeDefaults → List HttpRequest,
      (∀ defaults, ∀ post ∈ posting defaults, post.method = .post) ∧
      ∀ server, ∃ asked, asked <+: client.openQuestions request.kind options ∧
        (posted posting (client.answeredDefaults (Network.of server) request.kind options) ≠ [] →
          asked = client.openQuestions request.kind options) ∧
        ((client.send signer request options).run.run (Network.of server)).1 = asked ++
          posted posting (client.answeredDefaults (Network.of server) request.kind options) := by
  cases hkey : signerKey signer with
  | error error =>
      refine ⟨fun _ => [], fun _ => nofun, fun server => ⟨[], List.nil_prefix, ?_, ?_⟩⟩
      · exact fun hsome => absurd (posted_nil _) hsome
      · rw [posted_nil]
        exact congrArg Prod.fst (run_lift_bind_error hkey)
  | ok key =>
      choose posting hposting using
        exists_sendsAlike_submitRequest client signer request options key
      refine ⟨posting, fun defaults => (hposting defaults).1, fun server => ?_⟩
      obtain ⟨houtcome, hasked, hall⟩ :=
        inquires_envelopeDefaults client request.kind options (Network.of server)
      have hsend : (client.send signer request options).run.run (Network.of server) =
          (client.envelopeDefaults request.kind options >>=
            client.submitRequest signer request options key).run.run (Network.of server) :=
        run_lift_bind hkey
      rw [hsend, ← houtcome]
      rw [← houtcome] at hall
      cases hrun : (client.envelopeDefaults request.kind options).run.run (Network.of server) with
      | mk asked outcome =>
          rw [hrun] at hasked hall
          cases outcome with
          | error error =>
              refine ⟨asked, hasked, fun hsome => absurd rfl hsome, ?_⟩
              rw [run_bind_error hrun]
              exact (List.append_nil asked).symm
          | ok defaults =>
              refine ⟨asked, hasked, fun _ => hall defaults rfl, ?_⟩
              rw [run_bind_ok hrun, (hposting defaults).2 server]
              rfl

/-- **What is read and what is posted.**  The questions are a beginning of those that are open, and
all of these before a post; what is posted depends on the answers only. -/
theorem exists_posting (client : Client) (signer : Signer) (request : Request)
    (options : RequestOptions) :
    ∃ posting : EnvelopeDefaults → List HttpRequest, ∀ server,
      let run := (client.send signer request options).run.run (Network.of server)
      reads run.1 <+: client.openQuestions request.kind options ∧
        (posts run.1 ≠ [] → reads run.1 = client.openQuestions request.kind options) ∧
        posts run.1 =
          posted posting (client.answeredDefaults (Network.of server) request.kind options) := by
  obtain ⟨posting, hposting, htranscript⟩ := exists_transcript client signer request options
  refine ⟨posting, fun server => ?_⟩
  obtain ⟨asked, hasked, hall, hrun⟩ := htranscript server
  have hget : ∀ question ∈ asked, question.method = .get := fun question hquestion =>
    get_of_mem_openQuestions (hasked.subset hquestion)
  obtain ⟨hreads, hposts⟩ := reads_append_posts hget (post_of_mem_posted hposting _)
  intro run
  rw [show run.1 = _ from hrun, hreads, hposts]
  exact ⟨hasked, hall, rfl⟩

/-- **The options come first, then the server.**  In a posted transaction the account that collects
the fee, the fee and the counter are those of the options, or else those that the server answers; the
fee is the one that it answers for the asset that is charged, and the kind that is posted.  Nothing
is asked that the options settle, and everything else is asked before a post.  Two servers that answer
alike what is left open are sent the same posts at the same time. -/
theorem send_fills_envelope (client : Client) (signer : Signer) (request : Request)
    (options : RequestOptions) (server : HttpRequest → HttpResponse)
    (hkind : request.kind ≠ .offer) :
    let run := fun server => (client.send signer request options).run.run (Network.of server)
    (∀ post ∈ posts (run server).1, ∃ tx envelope, post.Posts client.api tx ∧
      tx.content.kind = request.kind ∧ tx.content.envelope? = some envelope ∧
      client.Fills (Network.of server) tx.content.kind options envelope) ∧
    reads (run server).1 <+: client.openQuestions request.kind options ∧
    (posts (run server).1 ≠ [] →
      reads (run server).1 = client.openQuestions request.kind options) ∧
    ∀ other, client.Agree request.kind options (Network.of server) (Network.of other) →
      posts (run server).1 = posts (run other).1 := by
  have hsend := postsIf_send client signer request options (Network.of server)
  obtain ⟨posting, hposting⟩ := exists_posting client signer request options
  obtain ⟨hasked, hall, hposts⟩ := hposting server
  refine ⟨?_, hasked, hall, ?_⟩
  · intro post hpost
    obtain ⟨tx, ⟨_, defaults, hclears⟩, htx⟩ := hsend.exists_cleared post hpost
    have hdefaults : client.answeredDefaults (Network.of server) request.kind options =
        .ok defaults :=
      (inquires_envelopeDefaults client _ _ _).outcome_eq.symm.trans hclears.answered
    refine ⟨tx, options.envelope defaults, htx, hclears.kind,
      Request.envelope?_of_build hclears.built hkind, ?_⟩
    rw [hclears.kind]
    exact fills_envelope hdefaults
  · intro other hagree
    show posts _ = posts _
    rw [hposts, (hposting other).2.2]
    exact posted_congr hagree.answeredDefaults_eq_ok_iff

/-- A server that answers each of the three questions, under a name and with the fee in a text. -/
def quotingServer (name fee : String) (request : HttpRequest) : HttpResponse :=
  match request.query with
  | [] => ⟨200, GasAccount.codec.toText ⟨1, name⟩⟩
  | [_] => ⟨200, (Codec.single "nonce").toText 3⟩
  | _ => ⟨200, GasFee.codec.toText ⟨fee⟩⟩

section Quoting

variable (api : Api) {name fee : String}

theorem answeredGasAccount_quotingServer :
    api.answeredGasAccount (Network.of (quotingServer name fee)) = .ok 1 := by
  have hanswer : api.gasAccountQuestion.answer GasAccount.codec
      (Network.of (quotingServer name fee)) = .ok ⟨1, name⟩ := HttpRequest.answer_toText rfl
  exact map_eq_ok.mpr ⟨_, hanswer, rfl⟩

theorem answeredGasFee_quotingServer {amount : ℕ} (h : GasFee.amount ⟨fee⟩ = .ok amount)
    (asset : Int64) (kind : TxKind) :
    api.answeredGasFee (Network.of (quotingServer name fee)) asset kind = .ok amount := by
  have hanswer : (api.gasFeeQuestion asset kind).answer GasFee.codec
      (Network.of (quotingServer name fee)) = .ok ⟨fee⟩ := HttpRequest.answer_toText rfl
  exact bind_eq_ok.mpr ⟨_, hanswer, lift_eq_ok.mpr h⟩

theorem answeredNonce_quotingServer (account : Int64) :
    api.answeredNonce (Network.of (quotingServer name fee)) account = .ok 3 :=
  HttpRequest.answer_toText rfl

end Quoting

/-- Two servers spell the same fee in two ways, and are sent the same cancellation. -/
theorem send_fills_envelope_spelled :
    ∃ key : SecretKey, SecretKey.ofSeed "wallet" = .ok key ∧
      let client : Client := ⟨⟨"http://rollup"⟩, .v2, 5, 0⟩
      let options : RequestOptions :=
        ⟨1, none, none, none, none, none, none, "", none, some 9, none, ""⟩
      let request : Request := .cancelOffer ⟨2⟩
      let plain := quotingServer "gas" "7"
      let padded := quotingServer "treasury" "007"
      let run := fun server => (client.send (.ofKey key) request options).run.run (Network.of server)
      request.kind ≠ .offer ∧
        client.Agree request.kind options (Network.of plain) (Network.of padded) ∧
        ∃ post tx, posts (run plain).1 = [post] ∧ posts (run padded).1 = [post] ∧
          reads (run plain).1 = [client.api.gasAccountQuestion,
            client.api.gasFeeQuestion 0 .cancelOffer, client.api.nonceQuestion 1] ∧
          post.Posts client.api tx ∧ tx.content.envelope? = some ⟨1, 0, 7, 9, 3⟩ := by
  obtain ⟨key, hseed, hkey⟩ := SecretKey.exists_ofSeed_eq_ok (show "wallet" ≠ "" by decide)
  refine ⟨key, hseed, ?_⟩
  intro client options request plain padded run
  have hkind : request.kind ≠ .offer := by decide
  have hplain : GasFee.amount ⟨"7"⟩ = .ok 7 := by decide +kernel
  have hpadded : GasFee.amount ⟨"007"⟩ = .ok 7 := by decide +kernel
  have hagree : client.Agree request.kind options (Network.of plain) (Network.of padded) := by
    refine ⟨fun _ index => ?_, fun _ amount => ?_, fun _ nonce => ?_⟩
    · rw [answeredGasAccount_quotingServer, answeredGasAccount_quotingServer]
    · rw [answeredGasFee_quotingServer _ hplain, answeredGasFee_quotingServer _ hpadded]
    · rw [answeredNonce_quotingServer, answeredNonce_quotingServer]
  -- a post is made, since everything before it succeeds
  have hdefaults : client.answeredDefaults (Network.of plain) request.kind options =
      .ok ⟨1, 7, 3, 5⟩ :=
    answeredDefaults_eq_ok.mpr ⟨answeredGasAccount_quotingServer _,
      answeredGasFee_quotingServer _ hplain _ _, answeredNonce_quotingServer _ _, rfl⟩
  have hanswered : ((client.envelopeDefaults request.kind options).run.run
      (Network.of plain)).2 = .ok ⟨1, 7, 3, 5⟩ :=
    (inquires_envelopeDefaults client _ _ _).outcome_eq.trans hdefaults
  have hvalid : Operation.validate client.context (.cancelOffer ⟨1, 2, ⟨1, 0, 7, 9, 3⟩⟩) =
      .ok () := by decide +kernel
  obtain ⟨sig, hsigned, _⟩ := Signer.signOperation_ofKey hkey hvalid
  have hclears : client.Clears (.ofKey key) request options (Network.of plain) key.publicKey
      ⟨1, 7, 3, 5⟩ ⟨.cancelOffer ⟨1, 2, ⟨1, 0, 7, 9, 3⟩⟩, some sig⟩ :=
    Clears.of_signRequest rfl hanswered
      (Assembler.signRequest_eq_ok_iff.mpr ⟨_, rfl, by decide, hsigned⟩)
  have hsend := postsIf_send client (.ofKey key) request options (Network.of plain)
  have hsome : posts (run plain).1 ≠ [] := fun hnil =>
    hsend.posts_eq_nil_iff.mp hnil _ ⟨_, _, hclears⟩
  obtain ⟨hfilled, _, hasked, halike⟩ :=
    send_fills_envelope client (.ofKey key) request options plain hkind
  obtain ⟨post, hpost, _⟩ := hsend.answered.resolve_left hsome
  obtain ⟨tx, envelope, htx, _, henvelope, hfills⟩ :=
    hfilled post (hpost ▸ List.mem_singleton_self post)
  obtain rfl := hfills.unique (fills_envelope hdefaults)
  exact ⟨hkind, hagree, post, tx, hpost, (halike padded hagree).symm.trans hpost, hasked hsome,
    htx, henvelope⟩

end Client

end RollupWallet
