import Mathlib
import RollupWallet.Proofs.Tx.Wire
import RollupWallet.Request.Wire

/-!
# Requests are read back from their texts

The schemas of requests and options are built from the same leaves as those of transactions, and
their codecs are lawful for the same reasons.  With transactions and updates of an NFT that is
everything that goes over the wire (`wire_round_trip`).
-/

namespace RollupWallet

open Json

instance : TransferRequest.codec.Lawful :=
  (Codec.lawful_record (by decide)).imap fun _ => rfl

instance : WithdrawRequest.codec.Lawful :=
  (Codec.lawful_record (by decide)).imap fun _ => rfl

instance : CreateCollectionRequest.codec.Lawful :=
  (Codec.lawful_record (by decide)).imap fun _ => rfl

instance : MintNftRequest.codec.Lawful :=
  (Codec.lawful_record (by decide)).imap fun _ => rfl

instance : TransferNftRequest.codec.Lawful :=
  (Codec.lawful_record (by decide)).imap fun _ => rfl

instance : WithdrawNftRequest.codec.Lawful :=
  (Codec.lawful_record (by decide)).imap fun _ => rfl

instance : OfferRequest.codec.Lawful :=
  (Codec.lawful_record (by decide)).imap fun _ => rfl

instance : AtomicMatchRequest.codec.Lawful :=
  (Codec.lawful_record (by decide)).imap fun _ => rfl

instance : CancelOfferRequest.codec.Lawful :=
  (Codec.lawful_record (by decide)).imap fun _ => rfl

instance : ChangePubKeyRequest.codec.Lawful :=
  (Codec.lawful_record (by decide)).imap fun _ => rfl

instance : UpdateNftRequest.codec.Lawful :=
  (Codec.lawful_record (by decide)).imap fun _ => rfl

instance : RequestOptions.codec.Lawful :=
  (Codec.lawful_record (by decide)).imap fun _ => rfl

/-- A request is read back from its text. -/
theorem Request.ofJson_toJson (request : Request) :
    Request.ofJson request.kind request.toJson = .ok request := by
  cases request
  all_goals
    simp only [Request.kind, ofJson, toJson, Codec.ofText_toText]
    rfl

/-- **Whatever goes over the wire is read back from its text**: transactions of every kind, updates of
an NFT, requests of every kind and the options of requests. -/
theorem wire_round_trip :
    (∀ tx : Tx, Tx.ofJson tx.content.kind tx.toJson = .ok tx) ∧
      (∀ op : UpdateNft, UpdateNft.codec.ofText (UpdateNft.codec.toText op) = .ok op) ∧
      (∀ request : Request, Request.ofJson request.kind request.toJson = .ok request) ∧
      (∀ request : UpdateNftRequest,
        UpdateNftRequest.codec.ofText (UpdateNftRequest.codec.toText request) = .ok request) ∧
      ∀ options : RequestOptions,
        RequestOptions.codec.ofText (RequestOptions.codec.toText options) = .ok options :=
  ⟨Tx.ofJson_toJson, Codec.ofText_toText _, Request.ofJson_toJson, Codec.ofText_toText _,
    Codec.ofText_toText _⟩

end RollupWallet
