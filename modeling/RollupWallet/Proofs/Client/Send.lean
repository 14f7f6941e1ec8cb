import Mathlib
import RollupWallet.Proofs.Client.Submission
import RollupWallet.Proofs.Signing

/-!
# What a client posts for a request

Sending a request first asks for what the options leave open and then posts.  Everything that can
fail on this side comes before the post: the signer's key must be known, the questions answered, the
operation built, found valid and signed, and the signature checked (`Client.Clears`).  So a run is a
list of questions, and behind them, exactly if all of that succeeds, the post
(`Client.postsIf_send`).

With a server that answers every request the post is sent once, and whatever error there is either
comes from the answer to the post or nothing was posted (`Client.send_posts_cleared`).
-/

namespace RollupWallet

open Eddsa Online

variable {α : Type} {network : Network} {client : Client} {signer : Signer} {request : Request}
  {options : RequestOptions}

/-! ### Questions -/

namespace Client

theorem signerKey_eq_ok {key : PublicKey} :
    signerKey signer = .ok key ↔ signer.publicKey = some key := by
  unfold signerKey
  cases signer.publicKey with
  | none => exact ⟨nofun, nofun⟩
  | some other => exact ⟨fun h => congrArg some (Except.ok.inj h), fun h => by cases h; rfl⟩

theorem asks_settle {given : Option α} {question : Online α} (h : Asks question network) :
    Asks (settle given question) network := by
  cases given with
  | none => exact h
  | some value => exact Asks.pure value

theorem asks_gasFee (api : Api) (asset : Int64) (kind : TxKind) :
    Asks (api.gasFee asset kind) network := by
  refine (Asks.fetch _ rfl).bind fun fee => ?_
  exact Asks.lift (liftM fee.amount)

/-- What the options leave open is asked for, and nothing else happens. -/
theorem asks_envelopeDefaults (kind : TxKind) (options : RequestOptions) :
    Asks (client.envelopeDefaults kind options) network := by
  refine (asks_settle ((Asks.fetch _ rfl).map _)).bind fun gasAccount => ?_
  refine (asks_settle (asks_gasFee _ _ _)).bind fun gasAmount => ?_
  refine (asks_settle (Asks.fetch _ rfl)).bind fun nonce => ?_
  exact Asks.pure _

end Client

/-! ### Requests and operations -/

theorem Request.kind_build {defaults : EnvelopeDefaults} {op : Operation}
    (h : request.build options defaults = .ok op) : op.kind = request.kind := by
  cases request with
  | transfer request =>
      obtain ⟨_, _, h⟩ := bind_eq_ok.mp h
      obtain ⟨_, _, h⟩ := bind_eq_ok.mp h
      rw [← Except.ok.inj h]
      rfl
  | createCollection request =>
      simp only [build] at h
      split at h
      · rw [← Except.ok.inj h]
        rfl
      · cases h
  | mintNft request =>
      obtain ⟨_, _, h⟩ := bind_eq_ok.mp h
      obtain ⟨_, _, h⟩ := bind_eq_ok.mp h
      rw [← Except.ok.inj h]
      rfl
  | transferNft request =>
      obtain ⟨_, _, h⟩ := bind_eq_ok.mp h
      obtain ⟨_, _, h⟩ := bind_eq_ok.mp h
      rw [← Except.ok.inj h]
      rfl
  | offer request =>
      obtain ⟨_, _, h⟩ := bind_eq_ok.mp h
      rw [← Except.ok.inj h]
      rfl
  | _ =>
      rw [← Except.ok.inj h]
      rfl

theorem Assembler.signRequest_eq_ok_iff {context : Context} {defaults : EnvelopeDefaults}
    {tx : Tx} :
    (Assembler.mk context (some signer)).signRequest request options defaults = .ok tx ↔
      ∃ op, request.build options defaults = .ok op ∧ op.kind ≠ .atomicMatch ∧
        signer.signOperation context op = .ok tx := by
  constructor
  · intro h
    obtain ⟨op, hop, h⟩ := bind_eq_ok.mp h
    refine ⟨op, lift_eq_ok.mp hop, ?_⟩
    by_cases hkind : op.kind = .atomicMatch
    · unfold sign refuseMatch at h
      rw [if_pos hkind] at h
      cases h
    · rw [sign_eq signer hkind] at h
      exact ⟨hkind, h⟩
  · rintro ⟨op, hop, hkind, h⟩
    rw [← sign_eq signer hkind] at h
    exact bind_eq_ok.mpr ⟨op, lift_eq_ok.mpr hop, h⟩

/-! ### Before the post -/

/-- Everything succeeds that comes before the post: `key` is the signer's, `defaults` are found out,
and `tx` is built, valid, signed and checked. -/
structure Client.Clears (client : Client) (signer : Signer) (request : Request)
    (options : RequestOptions) (network : Network) (key : PublicKey) (defaults : EnvelopeDefaults)
    (tx : Tx) : Prop where
  key_known : signer.publicKey = some key
  answered : ((client.envelopeDefaults request.kind options).run.run network).2 = .ok defaults
  built : request.build options defaults = .ok tx.content
  kind : tx.content.kind = request.kind
  not_match : request.kind ≠ .atomicMatch
  valid : tx.content.validate client.context = .ok ()
  signed : signer.signOperation client.context tx.content = .ok tx
  verified : tx.verify client.revision key = .ok ()

namespace Client

/-- What the assembler signs for a request clears the way for the post. -/
theorem Clears.of_signRequest {key : PublicKey} {defaults : EnvelopeDefaults} {tx : Tx}
    (hkey : signer.publicKey = some key)
    (hdefaults : ((client.envelopeDefaults request.kind options).run.run network).2 = .ok defaults)
    (h : (Assembler.mk client.context (some signer)).signRequest request options defaults =
      .ok tx) :
    client.Clears signer request options network key defaults tx := by
  obtain ⟨op, hbuilt, hkind, hsigned⟩ := Assembler.signRequest_eq_ok_iff.mp h
  obtain ⟨hvalid, ⟨sig, rfl⟩, hverify⟩ := Signer.signOperation_eq_ok hsigned
  have hsame : op.kind = request.kind := Request.kind_build hbuilt
  exact ⟨hkey, hdefaults, hbuilt, hsame, hsame ▸ hkind, hvalid, hsigned, hverify key hkey⟩

theorem Clears.signRequest {key : PublicKey} {defaults : EnvelopeDefaults} {tx : Tx}
    (h : client.Clears signer request options network key defaults tx) :
    (Assembler.mk client.context (some signer)).signRequest request options defaults = .ok tx := by
  have hkind : tx.content.kind ≠ .atomicMatch := by
    rw [h.kind]
    exact h.not_match
  exact Assembler.signRequest_eq_ok_iff.mpr ⟨tx.content, h.built, hkind, h.signed⟩

theorem Clears.unique {key₁ key₂ : PublicKey} {defaults₁ defaults₂ : EnvelopeDefaults}
    {tx₁ tx₂ : Tx} (h₁ : client.Clears signer request options network key₁ defaults₁ tx₁)
    (h₂ : client.Clears signer request options network key₂ defaults₂ tx₂) :
    key₁ = key₂ ∧ defaults₁ = defaults₂ ∧ tx₁ = tx₂ := by
  have hdefaults : defaults₁ = defaults₂ := Except.ok.inj (h₁.answered.symm.trans h₂.answered)
  subst hdefaults
  exact ⟨Option.some.inj (h₁.key_known.symm.trans h₂.key_known), rfl,
    Except.ok.inj (h₁.signRequest.symm.trans h₂.signRequest)⟩

/-- **A request is posted exactly if it is cleared.** -/
theorem postsIf_send (client : Client) (signer : Signer) (request : Request)
    (options : RequestOptions) (network : Network) :
    PostsIf client network
      (fun tx => ∃ key defaults, client.Clears signer request options network key defaults tx)
      (client.send signer request options) := by
  -- at each step: what is cleared got past it, so an error there leaves nothing cleared
  refine PostsIf.bind (Asks.lift _) ?_ ?_
  · rintro error herror tx ⟨key, _, h⟩
    change signerKey signer = _ at herror
    rw [signerKey, h.key_known] at herror
    cases herror
  intro key hkey
  refine PostsIf.bind (asks_envelopeDefaults _ _) ?_ ?_
  · rintro error herror tx ⟨_, _, h⟩
    cases herror.symm.trans h.answered
  intro defaults hdefaults
  refine PostsIf.bind (Asks.lift _) ?_ ?_
  · rintro error herror tx ⟨_, _, h⟩
    obtain rfl := Except.ok.inj (hdefaults.symm.trans h.answered)
    cases Eq.trans (Eq.symm herror) h.signRequest
  intro tx hsign
  have hclears := Clears.of_signRequest (signerKey_eq_ok.mp hkey) hdefaults hsign
  exact PostsIf.submitSigned ⟨key, defaults, hclears⟩ hclears.verified

/-- **What is posted has been checked.**  With a server that answers every request, a run posts at
most once, and last of all; a post means that everything before it succeeded, and it holds the
transaction that was checked; and an error is the answer to the post or else nothing was posted. -/
theorem send_posts_cleared (client : Client) (signer : Signer) (request : Request)
    (options : RequestOptions) (server : HttpRequest → HttpResponse) :
    let run := (client.send signer request options).run.run (Network.of server)
    (posts run.1).length ≤ 1 ∧
      (∃ questions : List HttpRequest, (∀ question ∈ questions, question.method = .get) ∧
        run.1 = questions ++ posts run.1) ∧
      (∀ post ∈ posts run.1, ∃ key defaults tx,
        client.Clears signer request options (Network.of server) key defaults tx ∧
          post.Posts client.api tx) ∧
      ∀ error, run.2 = .error error → posts run.1 = [] ∨
        ∃ post, posts run.1 = [post] ∧
          (server post).value SubmitResponse.codec = .error error := by
  have hsend := postsIf_send client signer request options (Network.of server)
  intro run
  refine ⟨?_, hsend.exists_questions, ?_, ?_⟩
  · rcases hsend.answered with hnone | ⟨post, hposts, _⟩
    · exact hnone ▸ Nat.zero_le 1
    · exact hposts ▸ le_refl 1
  · intro post hpost
    obtain ⟨tx, ⟨key, defaults, hclears⟩, hposts⟩ := hsend.exists_cleared post hpost
    exact ⟨key, defaults, tx, hclears, hposts⟩
  · intro error herror
    rcases hsend.answered with hnone | ⟨post, hposts, houtcome⟩
    · exact Or.inl hnone
    · exact Or.inr ⟨post, hposts, houtcome.symm.trans herror⟩

/-- A cancellation is posted to a server that fails on everything it is sent. -/
theorem send_posts_cleared_cancelOffer :
    ∃ key : SecretKey, SecretKey.ofSeed "wallet" = .ok key ∧
      let client : Client := ⟨⟨"http://rollup"⟩, .v2, 5, 0⟩
      let options : RequestOptions :=
        ⟨1, none, none, none, some 1, some 0, some 7, "", none, some 9, some 3, ""⟩
      let run := (client.send (.ofKey key) (.cancelOffer ⟨2⟩) options).run.run
        (Network.of fun _ => ⟨500, []⟩)
      run.2 = .error (.remote 500 "") ∧ ∃ post tx, posts run.1 = [post] ∧
        post.Posts client.api tx ∧ tx.content = .cancelOffer ⟨1, 2, ⟨1, 0, 7, 9, 3⟩⟩ ∧
        tx.verify .v2 key.publicKey = .ok () ∧
        HttpResponse.value SubmitResponse.codec ⟨500, []⟩ = .error (.remote 500 "") := by
  obtain ⟨key, hseed, hkey⟩ := SecretKey.exists_ofSeed_eq_ok (show "wallet" ≠ "" by decide)
  refine ⟨key, hseed, ?_⟩
  intro client options run
  have hvalid : Operation.validate client.context (.cancelOffer ⟨1, 2, ⟨1, 0, 7, 9, 3⟩⟩) =
      .ok () := by decide +kernel
  obtain ⟨sig, hsigned, _⟩ := Signer.signOperation_ofKey hkey hvalid
  have hclears : client.Clears (.ofKey key) (.cancelOffer ⟨2⟩) options
      (Network.of fun _ => ⟨500, []⟩) key.publicKey ⟨1, 7, 3, 5⟩
      ⟨.cancelOffer ⟨1, 2, ⟨1, 0, 7, 9, 3⟩⟩, some sig⟩ := by
    refine Clears.of_signRequest rfl rfl (Assembler.signRequest_eq_ok_iff.mpr ?_)
    exact ⟨_, rfl, by decide, hsigned⟩
  have hsend := postsIf_send client (.ofKey key) (.cancelOffer ⟨2⟩) options
    (Network.of fun _ => ⟨500, []⟩)
  obtain ⟨_, _, hchecked, herrors⟩ := send_posts_cleared client (.ofKey key) (.cancelOffer ⟨2⟩)
    options fun _ => ⟨500, []⟩
  rcases hsend.answered with hnone | ⟨post, hposts, houtcome⟩
  · exact absurd ⟨_, _, hclears⟩ (hsend.posts_eq_nil_iff.mp hnone _)
  · obtain ⟨_, _, tx, htx, hpost⟩ := hchecked post (hposts ▸ List.mem_singleton_self post)
    obtain ⟨rfl, _, rfl⟩ := hclears.unique htx
    refine ⟨houtcome, post, _, hposts, hpost, rfl, htx.verified, ?_⟩
    rcases herrors _ houtcome with hnone | ⟨_, _, hvalue⟩
    · cases hposts.symm.trans hnone
    · exact hvalue

end Client

end RollupWallet
