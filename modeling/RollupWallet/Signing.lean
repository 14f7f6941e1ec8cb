import RollupWallet.Request.Build
import RollupWallet.Tx.Rules
import RollupWallet.Tx.Wire

/-!
# Signing transactions

A signer gives a signature for a digest. It may be a key that is at hand, or somebody else who
signed the digest before; then the key may be unknown. Before a transaction is signed it is
checked, and where the signer's key is known the signature is checked as well.

A match is signed on one path only, `Assembler.signMatch`, which first checks the signatures of its
offers. All other paths refuse it.
-/

namespace RollupWallet

open Eddsa

/-- A source of signatures. -/
structure Signer where
  sign : Bytes32 → Except WalletError Signature
  /-- The key under which the signatures hold, if it is known. -/
  publicKey : Option PublicKey

namespace Signer

/-- A key that is at hand. -/
def ofKey (key : SecretKey) : Signer where
  sign digest := .ok (key.sign digest.bytes)
  publicKey := some key.publicKey

/-- A signature that was made elsewhere. -/
def external (sig : Signature) (publicKey : Option PublicKey) : Signer where
  sign _ := .ok sig
  publicKey := publicKey

end Signer

/-- Checks an operation, has it signed and checks the signature as far as the key is known. -/
def Signer.signOperation (context : Context) (signer : Signer) (op : Operation) :
    Except WalletError Tx := do
  let body ← op.signBody context
  let sig ← signer.sign body.digest
  match signer.publicKey with
  | some key => key.verify body.message sig
  | none => pure ()
  return ⟨op, some sig⟩

/-- Puts transactions together under one context, with a signer or without. -/
structure Assembler where
  context : Context
  signer : Option Signer

namespace Assembler

/-- Refuses a match. -/
def refuseMatch (op : Operation) : Except WalletError Unit :=
  if op.kind = .atomicMatch then .error (.mismatch .uncheckedMatch) else .ok ()

/-- Signs any operation with the signer that is there. -/
def signAny (assembler : Assembler) (op : Operation) : Except WalletError Tx :=
  match assembler.signer with
  | none => .error (.invalidInput ⟨"signer", .noSigner⟩)
  | some signer => signer.signOperation assembler.context op

/-- Signs an operation that is no match. -/
def sign (assembler : Assembler) (op : Operation) : Except WalletError Tx := do
  refuseMatch op
  assembler.signAny op

/-- Signs an operation that is no match and writes the transaction. -/
def signJson (assembler : Assembler) (op : Operation) : Except WalletError Bytes :=
  Tx.toJson <$> assembler.sign op

/-- What is signed of an operation. -/
def signBody (assembler : Assembler) (op : Operation) : Except WalletError SignBody :=
  op.signBody assembler.context

/-- What is signed of the operation that a request asks for. -/
def signBodyOfRequest (assembler : Assembler) (request : Request) (options : RequestOptions)
    (defaults : EnvelopeDefaults) : Except WalletError SignBody := do
  assembler.signBody (← request.build options defaults)

/-- Signs the operation that a request asks for. -/
def signRequest (assembler : Assembler) (request : Request) (options : RequestOptions)
    (defaults : EnvelopeDefaults) : Except WalletError Tx := do
  assembler.sign (← request.build options defaults)

/-- Attaches a signature that was made elsewhere. The transaction is checked, and so is the
signature if its key is given. -/
def attach (assembler : Assembler) (op : Operation) (sig : Signature)
    (publicKey : Option PublicKey) : Except WalletError Tx := do
  refuseMatch op
  (Signer.external sig publicKey).signOperation assembler.context op

/-- Signs a match after checking the signature of each offer under the key of its account. -/
def signMatch (assembler : Assembler) (op : AtomicMatch) (buyKey sellKey : PublicKey) :
    Except WalletError Tx := do
  op.verifyOffers assembler.context.revision buyKey sellKey
  assembler.signAny (.atomicMatch op)

end Assembler

/-- Checks an update of an NFT and writes it. -/
def UpdateNft.encode (op : UpdateNft) : Except WalletError Bytes := do
  op.check
  return UpdateNft.codec.toText op

/-- The layer-2 key that belongs to a layer-1 key on a chain. -/
def Layer1.Key.layer2Key (key : Layer1.Key) (chainId : Nat) : Except CryptoError SecretKey := do
  SecretKey.ofSeed (← key.seed chainId)

/-- A change of key with the owner's consent. -/
def ChangePubKey.authorize (key : Layer1.Key) (op : ChangePubKey) :
    Except CryptoError ChangePubKey := do
  let sig ← key.sign (Text.utf8 op.message)
  return { op with layer1Sig := some sig.bytes }

/-- An offer with the layer-1 signature of its text. -/
def Offer.authorize (key : Layer1.Key) (op : Offer) : Except CryptoError Offer := do
  let sig ← key.sign (Text.utf8 op.message)
  return { op with layer1Sig := some sig.bytes }

end RollupWallet
