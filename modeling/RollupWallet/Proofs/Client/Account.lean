import Mathlib
import RollupWallet.Client.Basic
import RollupWallet.Proofs.Client.Exchange
import RollupWallet.Proofs.Eddsa.PublicKey
import RollupWallet.Proofs.Error
import RollupWallet.Proofs.Json.Record
import RollupWallet.Proofs.Text.Hex

/-!
# The keys of accounts

A client that needs the key of an account asks one question, and everything it learns is in the
answer (`Client.run_accountKey`).  A server that knows an account can answer with it: the answer is
read back as the account (`Account.codec` is lawful), and a key in it as that key
(`Account.key_ofKey`), because the compressed form of a key is a point of the curve again.
-/

namespace RollupWallet

open Eddsa Json Online

/-! ### Accounts in answers -/

instance : Account.codec.Lawful :=
  (Codec.lawful_record (by decide)).imap fun _ => rfl

theorem HttpResponse.value_toText {α : Type} (codec : Codec α) [codec.Lawful] (value : α) :
    HttpResponse.value codec ⟨200, codec.toText value⟩ = .ok value := by
  unfold HttpResponse.value
  rw [Codec.ofText_toText]
  rfl

theorem HttpRequest.answer_toText {α : Type} {codec : Codec α} [codec.Lawful] {value : α}
    {request : HttpRequest} {network : Network}
    (h : network request = some ⟨200, codec.toText value⟩) :
    request.answer codec network = .ok value := by
  unfold answer
  rw [h]
  exact HttpResponse.value_toText codec value

/-- An account of which only the key is known. -/
def Account.ofKey (key : PublicKey) : Account := ⟨0, "", key.compressed.hex, "", 0⟩

theorem Account.key_ofKey {key : SecretKey} (hkey : key.Consistent) :
    (Account.ofKey key.publicKey).key = .ok key.publicKey := by
  unfold Account.key Account.ofKey
  rw [FixedBytes.hex, Text.Hex.utf8_text, Text.Hex.stripMarks_encode, Text.Hex.decode_encode]
  simp only [FixedBytes.ofBytes?_bytes, PublicKey.ofCompressed_compressed hkey.onCurve]
  rfl

/-! ### Questions for accounts -/

/-- The question for an account. -/
def Api.accountQuestion (api : Api) (property : AccountBy) (value : String) : HttpRequest where
  method := .get
  url := api.base ++ "/api/v1/account"
  query := [("by", property.word), ("value", value)]
  form := []

theorem Api.run_account (api : Api) (property : AccountBy) (value : String) (network : Network) :
    (api.account property value).run.run network = ([api.accountQuestion property value],
      (api.accountQuestion property value).answer Account.codec network) :=
  run_fetch _ _

namespace Client

variable {client : Client} {network : Network}

/-- The question for the key of an account. -/
def keyQuestion (client : Client) (account : Int64) : HttpRequest :=
  client.api.accountQuestion .index (toString account.toInt)

/-- The key that a network answers for an account. -/
def answeredKey (client : Client) (network : Network) (account : Int64) :
    Except WalletError PublicKey :=
  (client.keyQuestion account).answer Account.codec network >>= Account.key

theorem answeredKey_eq_ok {account : Int64} {key : SecretKey} (hkey : key.Consistent)
    (hanswer : network (client.keyQuestion account) =
      some ⟨200, Account.codec.toText (.ofKey key.publicKey)⟩) :
    client.answeredKey network account = .ok key.publicKey :=
  bind_eq_ok.mpr ⟨_, HttpRequest.answer_toText hanswer, Account.key_ofKey hkey⟩

/-- The key of an account is what is answered to one question. -/
theorem run_accountKey (client : Client) (network : Network) (account : Int64) :
    (client.accountKey account).run.run network =
      ([client.keyQuestion account], client.answeredKey network account) := by
  have hfetch := client.api.run_account .index (toString account.toInt) network
  unfold accountKey answeredKey keyQuestion
  cases hanswer : (client.api.accountQuestion .index (toString account.toInt)).answer
      Account.codec network with
  | error error =>
      rw [hanswer] at hfetch
      exact run_bind_error hfetch
  | ok found =>
      rw [hanswer] at hfetch
      exact run_bind_ok hfetch

end Client

end RollupWallet
