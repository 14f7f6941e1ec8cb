import Mathlib
import RollupWallet.Proofs.Client.Account
import RollupWallet.Proofs.Client.Send
import RollupWallet.Proofs.Signing.Match

/-!
# What a client posts for a match

Before a match is posted the rollup is asked for the keys of the two accounts that made the offers.
Which key belongs to which offer is settled by the account in the offer itself: the buy offer must
verify under the key answered for the buyer, and the sell offer under the one answered for the
seller (`Client.ClearsMatch`).  Only if both do, and the match is valid, is it signed and posted
(`Client.postsIf_atomicMatch`); whatever the network answers, every other run ends in an error with
nothing posted (`Client.atomicMatch_posts_cleared`).
-/

namespace RollupWallet

open Eddsa Online

namespace Client

variable {client : Client} {signer : Signer} {op : AtomicMatch} {network : Network}

/-- Everything succeeds that comes before the post of a match.  The keys of the offers are those that
the network answers for the accounts in the offers. -/
structure ClearsMatch (client : Client) (signer : Signer) (op : AtomicMatch) (network : Network)
    (key buyKey sellKey : PublicKey) (sig : Signature) : Prop where
  key_known : signer.publicKey = some key
  buy_answered : client.answeredKey network op.buy.content.account = .ok buyKey
  sell_answered : client.answeredKey network op.sell.content.account = .ok sellKey
  buy_verified : op.buy.asTx.verify client.revision buyKey = .ok ()
  sell_verified : op.sell.asTx.verify client.revision sellKey = .ok ()
  valid : Operation.validate client.context (.atomicMatch op) = .ok ()
  signed : signer.signOperation client.context (.atomicMatch op) = .ok ⟨.atomicMatch op, some sig⟩
  verified : Tx.verify client.revision key ⟨.atomicMatch op, some sig⟩ = .ok ()

theorem ClearsMatch.signMatch {key buyKey sellKey : PublicKey} {sig : Signature}
    (h : client.ClearsMatch signer op network key buyKey sellKey sig) :
    (Assembler.mk client.context (some signer)).signMatch op buyKey sellKey =
      .ok ⟨.atomicMatch op, some sig⟩ :=
  Assembler.signMatch_eq_ok_iff.mpr ⟨h.buy_verified, h.sell_verified, signer, rfl, h.signed⟩

/-- What the assembler signs clears the way for the post. -/
theorem ClearsMatch.of_signMatch {key buyKey sellKey : PublicKey} {tx : Tx}
    (hkey : signer.publicKey = some key)
    (hbuy : client.answeredKey network op.buy.content.account = .ok buyKey)
    (hsell : client.answeredKey network op.sell.content.account = .ok sellKey)
    (h : (Assembler.mk client.context (some signer)).signMatch op buyKey sellKey = .ok tx) :
    ∃ sig, tx = ⟨.atomicMatch op, some sig⟩ ∧
      client.ClearsMatch signer op network key buyKey sellKey sig := by
  obtain ⟨hbuySig, hsellSig, _, ⟨rfl⟩, hsigned⟩ := Assembler.signMatch_eq_ok_iff.mp h
  obtain ⟨hvalid, ⟨sig, rfl⟩, hverify⟩ := Signer.signOperation_eq_ok hsigned
  exact ⟨sig, rfl, hkey, hbuy, hsell, hbuySig, hsellSig, hvalid, hsigned, hverify key hkey⟩

theorem asks_accountKey (account : Int64) : Asks (client.accountKey account) network := by
  intro request hrequest
  rw [run_accountKey, List.mem_singleton] at hrequest
  rw [hrequest]
  rfl

/-- **A match is posted exactly if it is cleared.** -/
theorem postsIf_atomicMatch (client : Client) (signer : Signer) (op : AtomicMatch)
    (network : Network) :
    PostsIf client network
      (fun tx => ∃ key buyKey sellKey sig, tx = ⟨.atomicMatch op, some sig⟩ ∧
        client.ClearsMatch signer op network key buyKey sellKey sig)
      (client.atomicMatch signer op) := by
  refine PostsIf.bind (Asks.lift _) ?_ ?_
  · rintro error herror tx ⟨_, _, _, _, _, h⟩
    cases Eq.trans (Eq.symm herror) (signerKey_eq_ok.mpr h.key_known)
  intro key hkey
  refine PostsIf.bind (asks_accountKey _) ?_ ?_
  · rintro error herror tx ⟨_, _, _, _, _, h⟩
    rw [run_accountKey, h.buy_answered] at herror
    cases herror
  intro buyKey hbuy
  refine PostsIf.bind (asks_accountKey _) ?_ ?_
  · rintro error herror tx ⟨_, _, _, _, _, h⟩
    rw [run_accountKey, h.sell_answered] at herror
    cases herror
  intro sellKey hsell
  rw [run_accountKey] at hbuy hsell
  refine PostsIf.bind (Asks.lift _) ?_ ?_
  · rintro error herror tx ⟨_, _, _, _, _, h⟩
    obtain rfl := Except.ok.inj (hbuy.symm.trans h.buy_answered)
    obtain rfl := Except.ok.inj (hsell.symm.trans h.sell_answered)
    cases Eq.trans (Eq.symm herror) h.signMatch
  intro tx hsign
  obtain ⟨sig, rfl, hclears⟩ :=
    ClearsMatch.of_signMatch (signerKey_eq_ok.mp hkey) hbuy hsell hsign
  exact PostsIf.submitSigned ⟨key, buyKey, sellKey, sig, rfl, hclears⟩ hclears.verified

/-- **A match is posted only with both offers checked under the answered keys.**  Every post holds
the match with a signature of the signer.  Nothing is posted exactly where nothing is cleared, and
then the outcome is an error. -/
theorem atomicMatch_posts_cleared (client : Client) (signer : Signer) (op : AtomicMatch)
    (network : Network) :
    let run := (client.atomicMatch signer op).run.run network
    (∀ post ∈ posts run.1, ∃ key buyKey sellKey sig,
      client.ClearsMatch signer op network key buyKey sellKey sig ∧
        post.Posts client.api ⟨.atomicMatch op, some sig⟩) ∧
    (posts run.1 = [] ↔ ¬ ∃ key buyKey sellKey sig,
      client.ClearsMatch signer op network key buyKey sellKey sig) ∧
    (posts run.1 = [] → ∃ error, run.2 = .error error) := by
  have hmatch := postsIf_atomicMatch client signer op network
  intro run
  refine ⟨?_, ?_, ?_⟩
  · intro post hpost
    obtain ⟨_, ⟨key, buyKey, sellKey, sig, rfl, hclears⟩, hposts⟩ :=
      hmatch.exists_cleared post hpost
    exact ⟨key, buyKey, sellKey, sig, hclears, hposts⟩
  · rw [hmatch.posts_eq_nil_iff]
    constructor
    · rintro hnone ⟨key, buyKey, sellKey, sig, hclears⟩
      exact hnone _ ⟨key, buyKey, sellKey, sig, rfl, hclears⟩
    · rintro hnot tx ⟨key, buyKey, sellKey, sig, _, hclears⟩
      exact hnot ⟨key, buyKey, sellKey, sig, hclears⟩
  · intro hnil
    exact hmatch.exists_error (hmatch.posts_eq_nil_iff.mp hnil)

/-- A match is posted to a server that knows the accounts of the offers, and not where nobody can be
asked for them. -/
theorem atomicMatch_posts_cleared_sample :
    ∃ (key buyKey sellKey : SecretKey) (server : HttpRequest → HttpResponse)
      (buySig sellSig : Signature),
      SecretKey.ofSeed "broker" = .ok key ∧ SecretKey.ofSeed "buyer" = .ok buyKey ∧
      SecretKey.ofSeed "seller" = .ok sellKey ∧
      let client : Client := ⟨⟨"http://rollup"⟩, .v2, 5, 2⟩
      let op := AtomicMatch.sample.withSigs buySig sellSig
      let run := fun network => (client.atomicMatch (.ofKey key) op).run.run network
      (∃ post ∈ posts (run (Network.of server)).1, ∃ sig,
        post.Posts client.api ⟨.atomicMatch op, some sig⟩ ∧
        Tx.verify .v2 key.publicKey ⟨.atomicMatch op, some sig⟩ = .ok ()) ∧
      posts (run Network.unreachable).1 = [] ∧
      ∃ error, (run Network.unreachable).2 = .error error := by
  obtain ⟨key, hseed, hkey⟩ := SecretKey.exists_ofSeed_eq_ok (show "broker" ≠ "" by decide)
  obtain ⟨buyKey, hbuySeed, hbuyKey⟩ :=
    SecretKey.exists_ofSeed_eq_ok (show "buyer" ≠ "" by decide)
  obtain ⟨sellKey, hsellSeed, hsellKey⟩ :=
    SecretKey.exists_ofSeed_eq_ok (show "seller" ≠ "" by decide)
  obtain ⟨buySig, sellSig, hbuy, hsell, hvalid⟩ :=
    AtomicMatch.exists_withSigs hbuyKey hsellKey AtomicMatch.sample_terms
  let client : Client := ⟨⟨"http://rollup"⟩, .v2, 5, 2⟩
  let server : HttpRequest → HttpResponse := fun request =>
    if request = client.keyQuestion 2 then ⟨200, Account.codec.toText (.ofKey buyKey.publicKey)⟩
    else ⟨200, Account.codec.toText (.ofKey sellKey.publicKey)⟩
  have hother : client.keyQuestion 3 ≠ client.keyQuestion 2 := by decide
  have hbuyAnswered : client.answeredKey (Network.of server) 2 = .ok buyKey.publicKey :=
    answeredKey_eq_ok hbuyKey (congrArg some (if_pos rfl))
  have hsellAnswered : client.answeredKey (Network.of server) 3 = .ok sellKey.publicKey :=
    answeredKey_eq_ok hsellKey (congrArg some (if_neg hother))
  have hclears : ∃ sig, client.ClearsMatch (.ofKey key) (AtomicMatch.sample.withSigs buySig sellSig)
      (Network.of server) key.publicKey buyKey.publicKey sellKey.publicKey sig := by
    obtain ⟨sig, hsign, hverify⟩ := Signer.signOperation_ofKey hkey hvalid
    exact ⟨sig, rfl, hbuyAnswered, hsellAnswered, hbuy, hsell, hvalid, hsign, hverify⟩
  have hnone : ¬ ∃ key' buyKey sellKey sig, client.ClearsMatch (.ofKey key)
      (AtomicMatch.sample.withSigs buySig sellSig) Network.unreachable key' buyKey sellKey sig := by
    rintro ⟨_, _, _, _, h⟩
    cases h.buy_answered
  obtain ⟨_, hnothing, hfails⟩ := atomicMatch_posts_cleared client (.ofKey key)
    (AtomicMatch.sample.withSigs buySig sellSig) Network.unreachable
  obtain ⟨hposted, hcleared, _⟩ := atomicMatch_posts_cleared client (.ofKey key)
    (AtomicMatch.sample.withSigs buySig sellSig) (Network.of server)
  have hsome : posts ((client.atomicMatch (.ofKey key)
      (AtomicMatch.sample.withSigs buySig sellSig)).run.run (Network.of server)).1 ≠ [] := by
    obtain ⟨sig, hclears⟩ := hclears
    intro hnil
    exact hcleared.mp hnil ⟨_, _, _, sig, hclears⟩
  obtain ⟨post, hpost⟩ := List.exists_mem_of_ne_nil _ hsome
  obtain ⟨_, _, _, sig, hsigned, hposts⟩ := hposted post hpost
  obtain rfl := Option.some.inj hsigned.key_known
  exact ⟨key, buyKey, sellKey, server, buySig, sellSig, hseed, hbuySeed, hsellSeed,
    ⟨post, hpost, sig, hposts, hsigned.verified⟩, hnothing.mpr hnone, hfails (hnothing.mpr hnone)⟩

end Client

end RollupWallet
