import Mathlib
import RollupWallet.Proofs.Error
import RollupWallet.Request.Build

/-!
# An operation is built again from the parts it took

What an account leaves open is settled by defaults, and those are others a moment later: the clock
has moved on, and the next counter is taken.  Whoever has to arrive at the same operation again
gives the parts that it took (`RequestOptions.settledBy`), and then the defaults must not matter any
more (`build_settledBy`).

Every part is read in one place, where a given value wins (`RequestOptions.envelope`, `expiry`,
`receiverHash`, `dataHash`), so for each of these places there is one lemma: given what it gave, it
gives the same again.  Three things keep the kinds from being all alike.

* The two hashes are no defaults but derived, and a name without a hash never gets here.
* An offer takes only the expiry, and the time of its listing is a part of the request
  (`Request.settledBy`).
* The update of an NFT takes only the counter.
-/

namespace RollupWallet

/-! ### What an operation took -/

namespace Operation

/-- The envelope of an operation.  An offer has none. -/
def envelope? : Operation → Option Envelope
  | changePubKey op => some op.envelope
  | transfer op => some op.envelope
  | withdraw op => some op.envelope
  | createCollection op => some op.envelope
  | mintNft op => some op.envelope
  | transferNft op => some op.envelope
  | atomicMatch op => some op.envelope
  | cancelOffer op => some op.envelope
  | withdrawNft op => some op.envelope
  | offer _ => none

/-- The time until which an operation may be executed. -/
def expiredAt? : Operation → Option Int64
  | offer op => some op.expiredAt
  | op => op.envelope?.map Envelope.expiredAt

/-- The hash of the receiver's name. -/
def toNameHash? : Operation → Option Bytes32
  | transfer op => some op.toNameHash
  | mintNft op => some op.toNameHash
  | transferNft op => some op.toNameHash
  | _ => none

/-- The hash of the call data. -/
def callDataHash? : Operation → Option Bytes32
  | transfer op => some op.callDataHash
  | transferNft op => some op.callDataHash
  | _ => none

theorem expiredAt?_of_envelope? {op : Operation} {envelope : Envelope}
    (h : op.envelope? = some envelope) : op.expiredAt? = some envelope.expiredAt := by
  cases op
  case offer op => cases h
  all_goals
    cases h
    rfl

end Operation

/-- The options with all that was left open as an operation took it. -/
def RequestOptions.settledBy (options : RequestOptions) (op : Operation) : RequestOptions :=
  { options with
    toNameHash := options.toNameHash.or op.toNameHash?
    gasAccount := options.gasAccount.or (op.envelope?.map Envelope.gasAccount)
    gasAsset := options.gasAsset.or (op.envelope?.map Envelope.gasAsset)
    gasAmount := options.gasAmount.or (op.envelope?.map Envelope.gasAmount)
    callDataHash := options.callDataHash.or op.callDataHash?
    expiredAt := options.expiredAt.or op.expiredAt?
    nonce := options.nonce.or (op.envelope?.map Envelope.nonce) }

/-- The request with all that was left open as an operation took it: the time at which an offer is
listed. -/
def Request.settledBy : Request → Operation → Request
  | offer request, .offer op =>
    offer { request with listedAt := request.listedAt.or (some op.listedAt) }
  | request, _ => request

/-! ### Each part is read as before -/

/-- A value that was settled once is settled. -/
theorem getD_or_getD {α : Type} (given : Option α) (a b : α) :
    (given.or (some (given.getD a))).getD b = given.getD a := by
  cases given <;> rfl

namespace RequestOptions

variable {options : RequestOptions} {defaults : EnvelopeDefaults} {op : Operation}

theorem expiry_settledBy (h : op.expiredAt? = some (options.expiry defaults))
    (others : EnvelopeDefaults) :
    (options.settledBy op).expiry others = options.expiry defaults := by
  rw [expiry, settledBy, h]
  exact getD_or_getD _ _ _

theorem envelope_settledBy (h : op.envelope? = some (options.envelope defaults))
    (others : EnvelopeDefaults) :
    (options.settledBy op).envelope others = options.envelope defaults := by
  have hexpiry := expiry_settledBy (Operation.expiredAt?_of_envelope? h) others
  unfold envelope
  rw [hexpiry]
  simp only [settledBy, h, Option.map_some]
  simp only [envelope, getD_or_getD]

theorem dataHash_settledBy (h : op.callDataHash? = some options.dataHash) :
    (options.settledBy op).dataHash = options.dataHash := by
  cases hgiven : options.callDataHash with
  | none => simp only [dataHash, settledBy, hgiven, h, Option.none_or]
  | some hash => simp only [dataHash, settledBy, hgiven, Option.some_or]

theorem receiverHash_settledBy {name : String} {hash : Bytes32}
    (hhash : options.receiverHash name = .ok hash) (h : op.toNameHash? = some hash) :
    (options.settledBy op).receiverHash name = .ok hash := by
  cases hgiven : options.toNameHash with
  | none => simp only [receiverHash, settledBy, hgiven, h, Option.none_or]
  | some given =>
      simp only [receiverHash, hgiven] at hhash
      simp only [receiverHash, settledBy, hgiven, Option.some_or, hhash]

end RequestOptions

/-! ### The operation is built again -/

namespace Request

variable {request : Request} {options : RequestOptions} {defaults : EnvelopeDefaults}
variable {op : Operation}

/-- **The defaults do not matter once the parts are settled.** -/
theorem build_settledBy (h : request.build options defaults = .ok op) (others : EnvelopeDefaults) :
    (request.settledBy op).build (options.settledBy op) others = .ok op := by
  cases request
  case transfer request | transferNft request =>
    obtain ⟨account, haccount, h'⟩ := bind_eq_ok.mp h
    obtain ⟨hash, hhash, h'⟩ := bind_eq_ok.mp h'
    have henvelope : op.envelope? = some (options.envelope defaults) := by cases h'; rfl
    have hname : op.toNameHash? = some hash := by cases h'; rfl
    have hdata : op.callDataHash? = some options.dataHash := by cases h'; rfl
    have hreceiver : (options.settledBy op).receiver = .ok account := haccount
    rw [← h']
    simp only [settledBy, build, hreceiver, RequestOptions.receiverHash_settledBy hhash hname,
      RequestOptions.envelope_settledBy henvelope, RequestOptions.dataHash_settledBy hdata]
    rfl
  case mintNft request =>
    obtain ⟨account, haccount, h'⟩ := bind_eq_ok.mp h
    obtain ⟨hash, hhash, h'⟩ := bind_eq_ok.mp h'
    have henvelope : op.envelope? = some (options.envelope defaults) := by cases h'; rfl
    have hname : op.toNameHash? = some hash := by cases h'; rfl
    have hreceiver : (options.settledBy op).receiver = .ok account := haccount
    rw [← h']
    simp only [settledBy, build, hreceiver, RequestOptions.receiverHash_settledBy hhash hname,
      RequestOptions.envelope_settledBy henvelope]
    rfl
  case offer request =>
    obtain ⟨share, hshare, h'⟩ := bind_eq_ok.mp h
    have hexpiry : op.expiredAt? = some (options.expiry defaults) := by cases h'; rfl
    have hsettled := RequestOptions.expiry_settledBy hexpiry others
    cases h'
    simp only [settledBy, build, hshare, hsettled, getD_or_getD]
    rfl
  case createCollection request =>
    cases hcollection : request.collection with
    | none =>
        simp only [build, hcollection] at h
        cases h
    | some collection =>
        simp only [build, hcollection] at h
        have henvelope : op.envelope? = some (options.envelope defaults) := by cases h; rfl
        rw [← h]
        simp only [settledBy, build, hcollection, RequestOptions.envelope_settledBy henvelope]
        rfl
  -- the other kinds read nothing that is left open but the envelope
  all_goals
    have henvelope : op.envelope? = some (options.envelope defaults) := by cases h; rfl
    rw [← h]
    simp only [settledBy, build, RequestOptions.envelope_settledBy henvelope]
    rfl

end Request

/-- **Explicit parts reproduce default ones.**  Whatever a request became under some defaults, it
becomes again under any others once the parts that were left open are given as they were taken.  The
same holds of the update of an NFT and its counter. -/
theorem explicit_reproduces :
    (∀ (request : Request) (options : RequestOptions) (defaults : EnvelopeDefaults)
        (op : Operation), request.build options defaults = .ok op → ∀ others : EnvelopeDefaults,
          (request.settledBy op).build (options.settledBy op) others = .ok op) ∧
      ∀ (request : UpdateNftRequest) (options : RequestOptions)
        (defaults others : EnvelopeDefaults),
        let op := request.build options defaults
        request.build { options with nonce := options.nonce.or (some op.nonce) } others = op := by
  refine ⟨fun request options defaults op => Request.build_settledBy, ?_⟩
  intro request options defaults others
  simp only [UpdateNftRequest.build, getD_or_getD]

/-- An offer that leaves its times open, a minute later: it is another one unless the times are
given. -/
theorem explicit_reproduces_offer :
    let request : Request := .offer ⟨.sell, 3, 7, 0, 10000, none, 50, 1, 30, 100, 40⟩
    let options : RequestOptions :=
      ⟨2, none, none, none, none, none, none, "", none, none, none, ""⟩
    let early : EnvelopeDefaults := ⟨1, 5000, 9, 1700000000000⟩
    let late : EnvelopeDefaults := ⟨1, 5000, 10, 1700000060000⟩
    let op : Operation := .offer ⟨.sell, 3, 2, 7, 0, 10000, 1700000000000, 1700007200000, 50, 1, 30,
      100, 100, 40, none⟩
    request.build options early = .ok op ∧
      (request.settledBy op).build (options.settledBy op) late = .ok op ∧
      request.build options late ≠ .ok op := by
  intro request options early late op
  have hearly : request.build options early = .ok op := by decide +kernel
  exact ⟨hearly, explicit_reproduces.1 request options early op hearly late, by decide +kernel⟩

end RollupWallet
