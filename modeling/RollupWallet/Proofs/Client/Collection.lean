import Mathlib
import RollupWallet.Proofs.Client.Envelope
import RollupWallet.Proofs.Tx.Allowed

/-!
# The id of a new collection

If a request leaves the id of a collection open, the server is asked for the greatest id that the
account has used, and the next one is taken.  The server may answer any number of 64 bits, and the
sum is not checked: after the greatest number comes the least one.

What is posted is safe all the same, since an operation is posted only if it is valid, and then its
id has 16 bits.  A sum that has 16 bits has not wrapped (`fitsBits_succ_iff`), so the id posted is the
next one in the integers (`Client.ClearsCollection.exists_operation`), and after every other answer
nothing is cleared and nothing is posted (`Client.createCollection_posts_next`).
-/

namespace RollupWallet

open Eddsa Json Online

variable {network : Network}

/-! ### The sum -/

/-- Below the greatest number the sum does not wrap. -/
theorem toInt_succ {id : Int64} (h : id.toInt < 2 ^ 63 - 1) : (id + 1).toInt = id.toInt + 1 := by
  have hlow := id.le_toInt
  rw [Int64.toInt_add, Int64.toInt_one]
  exact Int.bmod_eq_of_le (by omega) (by omega)

/-- After the greatest number comes a negative one. -/
theorem toInt_succ_neg {id : Int64} (h : 2 ^ 63 - 1 ≤ id.toInt) : (id + 1).toInt < 0 := by
  have hhigh := id.toInt_lt
  have hid : id.toInt = 2 ^ 63 - 1 := by omega
  rw [Int64.toInt_add, Int64.toInt_one, hid]
  decide

/-- **A sum that has 16 bits has not wrapped.** -/
theorem fitsBits_succ_iff {id : Int64} :
    FitsBits 16 (id + 1) ↔ -1 ≤ id.toInt ∧ id.toInt ≤ 65534 := by
  unfold FitsBits
  by_cases h : id.toInt < 2 ^ 63 - 1
  · rw [toInt_succ h]
    omega
  · have hneg := toInt_succ_neg (not_lt.mp h)
    omega

/-! ### The question -/

instance : (Codec.single "collection_id").Lawful :=
  (Codec.lawful_record (by decide)).imap fun _ => rfl

namespace Api

variable (api : Api)

/-- The question for the greatest id of an account's collections. -/
def collectionQuestion (account : Int64) : HttpRequest where
  method := .get
  url := api.base ++ "/api/v1/maxCollectionId"
  query := [("account_index", toString account.toInt)]
  form := []

/-- The id that a network says is the greatest of an account's collections. -/
def answeredCollection (network : Network) (account : Int64) : Except WalletError Int64 :=
  (api.collectionQuestion account).answer (.single "collection_id") network

theorem run_maxCollectionId (account : Int64) : (api.maxCollectionId account).run.run network =
    ([api.collectionQuestion account], api.answeredCollection network account) :=
  run_fetch _ _

end Api

namespace Client

variable {client : Client} {signer : Signer} {request : CreateCollectionRequest}
  {options : RequestOptions}

/-- The next id is found out by one question. -/
theorem run_nextCollection (client : Client) (network : Network) (account : Int64) :
    ((· + 1) <$> client.api.maxCollectionId account).run.run network =
      ([client.api.collectionQuestion account],
        (· + 1) <$> client.api.answeredCollection network account) := by
  rw [run_map, Api.run_maxCollectionId]

/-! ### What is posted -/

/-- The network answers what the greatest id is, and everything succeeds with the next one that comes
before the post. -/
structure ClearsCollection (client : Client) (signer : Signer) (request : CreateCollectionRequest)
    (options : RequestOptions) (network : Network) (greatest : Int64) (tx : Tx) : Prop where
  answered : client.api.answeredCollection network options.fromAccount = .ok greatest
  cleared : ∃ key defaults, client.Clears signer
    (.createCollection { request with collection := some (greatest + 1) }) options network key
    defaults tx

/-- **A collection whose id is open is posted exactly if it is cleared under the next one.** -/
theorem postsIf_createCollection (client : Client) (signer : Signer) (options : RequestOptions)
    (network : Network) (hopen : request.collection = none) :
    PostsIf client network
      (fun tx => ∃ greatest, client.ClearsCollection signer request options network greatest tx)
      (client.createCollection signer request options) := by
  have hrun := run_nextCollection client network options.fromAccount
  unfold createCollection
  rw [hopen]
  refine PostsIf.bind (asks_settle ((Asks.fetch _ rfl).map _)) ?_ ?_
  · rintro error herror tx ⟨greatest, h⟩
    rw [settle, hrun, h.answered] at herror
    cases herror
  intro collection hcollection
  rw [settle, hrun] at hcollection
  obtain ⟨greatest, hanswered, rfl⟩ := map_eq_ok.mp hcollection
  have hsend := postsIf_send client signer
    (.createCollection { request with collection := some (greatest + 1) }) options network
  refine hsend.congr fun tx => ⟨fun hcleared => ⟨greatest, hanswered, hcleared⟩, ?_⟩
  rintro ⟨other, hother, hcleared⟩
  obtain rfl := Except.ok.inj (hanswered.symm.trans hother)
  exact hcleared

/-- The operation that is cleared opens a collection of the account under the next id, which has 16
bits. -/
theorem ClearsCollection.exists_operation {greatest : Int64} {tx : Tx}
    (h : client.ClearsCollection signer request options network greatest tx) :
    ∃ op : CreateCollection, tx.content = .createCollection op ∧
      op.account = options.fromAccount ∧ op.name = request.name ∧
      op.introduction = request.introduction ∧ op.collection = greatest + 1 ∧
      FitsBits 16 (greatest + 1) := by
  obtain ⟨_, defaults, hclears⟩ := h.cleared
  have hcontent := Except.ok.inj hclears.built
  -- the sum is nowhere checked, but what is valid is hashable
  obtain ⟨hhashable, _⟩ := Operation.validate_eq_ok_iff_allowed.mp hclears.valid
  rw [← hcontent] at hhashable
  exact ⟨_, hcontent.symm, rfl, rfl, rfl, rfl, hhashable.collection⟩

/-- The first request is the question. -/
theorem head_createCollection (hopen : request.collection = none) :
    ((client.createCollection signer request options).run.run network).1.head? =
      some (client.api.collectionQuestion options.fromAccount) := by
  have hrun := run_nextCollection client network options.fromAccount
  unfold createCollection
  rw [hopen, settle]
  cases hanswer : client.api.answeredCollection network options.fromAccount with
  | error error =>
      rw [hanswer] at hrun
      rw [run_bind_error hrun]
      rfl
  | ok greatest =>
      rw [hanswer] at hrun
      rw [run_bind_ok hrun]
      rfl

/-- **A collection is opened under the next id or not at all.**  The first thing that is sent for a
request without an id is the question for the greatest id of the account.  If anything is posted, the
answer lies between minus one and 65534, and what is posted opens the collection of the request under
the id after it.  With every other answer, and without one, nothing is posted and the outcome is an
error.  What is cleared under the next id is posted. -/
theorem createCollection_posts_next (client : Client) (signer : Signer)
    (request : CreateCollectionRequest) (options : RequestOptions) (network : Network)
    (hopen : request.collection = none) :
    let run := (client.createCollection signer request options).run.run network
    let answer := client.api.answeredCollection network options.fromAccount
    run.1.head? = some (client.api.collectionQuestion options.fromAccount) ∧
    (∀ post ∈ posts run.1, ∃ (greatest : Int64) (tx : Tx) (op : CreateCollection),
      answer = .ok greatest ∧ -1 ≤ greatest.toInt ∧ greatest.toInt ≤ 65534 ∧
        post.Posts client.api tx ∧ tx.content = .createCollection op ∧
        op.account = options.fromAccount ∧ op.name = request.name ∧
        op.introduction = request.introduction ∧ op.collection.toInt = greatest.toInt + 1) ∧
    ((¬ ∃ greatest, answer = .ok greatest ∧ -1 ≤ greatest.toInt ∧ greatest.toInt ≤ 65534) →
      posts run.1 = [] ∧ ∃ error, run.2 = .error error) ∧
    ∀ greatest tx, client.ClearsCollection signer request options network greatest tx →
      posts run.1 ≠ [] := by
  have hposts := postsIf_createCollection client signer options network hopen
  intro run answer
  refine ⟨head_createCollection hopen, fun post hpost => ?_, fun hother => ?_,
    fun greatest tx hclears hnil => hposts.posts_eq_nil_iff.mp hnil tx ⟨greatest, hclears⟩⟩
  · obtain ⟨tx, ⟨greatest, hclears⟩, htx⟩ := hposts.exists_cleared post hpost
    obtain ⟨op, hcontent, haccount, hname, hintroduction, hcollection, hfits⟩ :=
      hclears.exists_operation
    obtain ⟨hlow, hhigh⟩ := fitsBits_succ_iff.mp hfits
    have hnext : op.collection.toInt = greatest.toInt + 1 := by
      rw [hcollection, toInt_succ (by omega)]
    exact ⟨greatest, tx, op, hclears.answered, hlow, hhigh, htx, hcontent, haccount, hname,
      hintroduction, hnext⟩
  · have hnone : ∀ tx, ¬ ∃ greatest,
        client.ClearsCollection signer request options network greatest tx := by
      rintro tx ⟨greatest, hclears⟩
      obtain ⟨_, _, _, _, _, _, hfits⟩ := hclears.exists_operation
      exact hother ⟨greatest, hclears.answered, fitsBits_succ_iff.mp hfits⟩
    exact ⟨hposts.posts_eq_nil_iff.mpr hnone, hposts.exists_error hnone⟩

/-- A server that answers everything with an id. -/
def countingServer (greatest : Int64) (_ : HttpRequest) : HttpResponse :=
  ⟨200, (Codec.single "collection_id").toText greatest⟩

theorem answeredCollection_countingServer (api : Api) (greatest account : Int64) :
    api.answeredCollection (Network.of (countingServer greatest)) account = .ok greatest :=
  HttpRequest.answer_toText rfl

/-- The last id of 16 bits is posted where the server answers the one before it, and nothing is where
it answers the greatest number of all. -/
theorem createCollection_posts_next_last :
    ∃ key : SecretKey, SecretKey.ofSeed "wallet" = .ok key ∧
      let client : Client := ⟨⟨"http://rollup"⟩, .v2, 5, 0⟩
      let options : RequestOptions :=
        ⟨1, none, none, none, some 1, some 0, some 7, "", none, some 9, some 3, ""⟩
      let opening := client.createCollection (.ofKey key) ⟨none, "rare", ""⟩ options
      let last := Network.of (countingServer 65534)
      let greatest := Network.of (countingServer 9223372036854775807)
      (∃ post tx op, posts (opening.run.run last).1 = [post] ∧ post.Posts client.api tx ∧
        tx.content = .createCollection op ∧ op.collection.toInt = 65535) ∧
      posts (opening.run.run greatest).1 = [] ∧
      ∃ error, (opening.run.run greatest).2 = .error error := by
  obtain ⟨key, hseed, hkey⟩ := SecretKey.exists_ofSeed_eq_ok (show "wallet" ≠ "" by decide)
  refine ⟨key, hseed, ?_⟩
  intro client options opening last greatest
  have hvalid : Operation.validate client.context
      (.createCollection ⟨1, 65535, "rare", "", ⟨1, 0, 7, 9, 3⟩⟩) = .ok () := by
    have henvelope : Envelope.Hashable ⟨1, 0, 7, 9, 3⟩ :=
      ⟨by decide, by decide, by decide, by decide, by decide⟩
    exact Operation.validate_eq_ok_iff_allowed.mpr
      ⟨⟨by decide, by decide, henvelope⟩, by decide, by decide, by decide⟩
  obtain ⟨sig, hsigned, _⟩ := Signer.signOperation_ofKey hkey hvalid
  have hclears : client.ClearsCollection (.ofKey key) ⟨none, "rare", ""⟩ options last 65534
      ⟨.createCollection ⟨1, 65535, "rare", "", ⟨1, 0, 7, 9, 3⟩⟩, some sig⟩ := by
    refine ⟨answeredCollection_countingServer _ _ _, key.publicKey, ⟨1, 7, 3, 5⟩, ?_⟩
    exact Clears.of_signRequest rfl rfl
      (Assembler.signRequest_eq_ok_iff.mpr ⟨_, rfl, by decide, hsigned⟩)
  have hposts : PostsIf client last (fun tx => ∃ greatest,
      client.ClearsCollection (.ofKey key) ⟨none, "rare", ""⟩ options last greatest tx) opening :=
    postsIf_createCollection client _ options last rfl
  obtain ⟨_, hnext, _, hsome⟩ :=
    createCollection_posts_next client (.ofKey key) ⟨none, "rare", ""⟩ options last rfl
  obtain ⟨_, _, hnothing, _⟩ :=
    createCollection_posts_next client (.ofKey key) ⟨none, "rare", ""⟩ options greatest rfl
  obtain ⟨post, hpost, _⟩ := hposts.answered.resolve_left (hsome _ _ hclears)
  refine ⟨?_, hnothing ?_⟩
  · obtain ⟨answered, tx, op, hanswer, _, _, htx, hcontent, _, _, _, hcollection⟩ :=
      hnext post (hpost ▸ List.mem_singleton_self post)
    rw [answeredCollection_countingServer] at hanswer
    obtain rfl := Except.ok.inj hanswer
    exact ⟨post, tx, op, hpost, htx, hcontent, hcollection⟩
  · rintro ⟨answered, hanswer, _, hhigh⟩
    rw [answeredCollection_countingServer] at hanswer
    obtain rfl := Except.ok.inj hanswer
    exact absurd hhigh (by decide)

end Client

end RollupWallet
