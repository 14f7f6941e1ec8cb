import Mathlib
import RollupWallet.Proofs.Name
import RollupWallet.Proofs.Tx.Message
import RollupWallet.Proofs.Tx.SignBody
import RollupWallet.Request.Build

/-!
# Derived hashes are accepted

A request for a named receiver becomes an operation with hashes of what it says: of the name, of the
call data, of the content of an NFT.  Whoever checks the operation computes two of them again and
asks of all that they are elements.  The two sides meet because

* every derived hash is an element, be it the word zero that stands for no call data, a digest of
  the sponge, or a digest that was reduced (`RequestOptions.isElement_dataHash`,
  `isElement_nameHash`);
* the rule for call data leaves empty data alone, which is the one case in which the derived hash is
  no digest (`RequestOptions.callData_dataHash`).

So what is built is refused for many reasons, but never for a hash (`Operation.validate_failsWith`).
A refusal is seen by its text, and the texts for hashes are those of no other reason
(`Reason.message_mem_iff`): all others begin in another way, some of them with a number.
-/

namespace RollupWallet

open Text

/-! ### Texts that refuse a hash -/

/-- The texts with which a hash is refused: it is not that of what it stands for, or it is no
element. -/
def hashRefusals : List String :=
  ["does not match CallData", "does not match MetaData", "not below the field modulus"]

/-- The reasons with these texts. -/
def Reason.IsHashRefusal : Reason → Prop
  | .callDataMismatch | .metaDataMismatch | .notCanonical => True
  | _ => False

/-- A beginning that none of these texts has. -/
def StartsNoRefusal (s : String) : Prop := ∀ rest, s ++ rest ∉ hashRefusals

namespace StartsNoRefusal

variable {s : String}

theorem append (h : StartsNoRefusal s) (t : String) : StartsNoRefusal (s ++ t) := by
  intro rest
  rw [String.append_assoc]
  exact h (t ++ rest)

theorem notMem (h : StartsNoRefusal s) : s ∉ hashRefusals := by
  have hwhole := h ""
  rwa [String.append_empty] at hwhole

theorem of_utf8 (h : ∀ text ∈ hashRefusals, ¬ utf8 s <+: utf8 text) : StartsNoRefusal s := by
  intro rest hmem
  exact h (s ++ rest) hmem ⟨utf8 rest, (utf8_append s rest).symm⟩

/-- None of the texts begins with a number. -/
theorem int (n : ℤ) : StartsNoRefusal (toString n) := by
  refine of_utf8 fun text htext => ?_
  have hhead : (utf8 text).head? = some 100 ∨ (utf8 text).head? = some 110 := by
    revert text
    decide
  obtain ⟨byte, digits, hdigits, hbyte⟩ := Json.integer_eq_cons n
  rw [utf8_toString_int, hdigits]
  rintro ⟨rest, htail⟩
  rw [← htail, List.cons_append, List.head?_cons, Option.some.injEq, Option.some.injEq] at hhead
  rcases hhead with rfl | rfl
  · exact absurd hbyte (by decide)
  · exact absurd hbyte (by decide)

theorem nat (n : ℕ) : StartsNoRefusal (toString n) := int n

end StartsNoRefusal

theorem StartsNoRefusal.hexFault (fault : HexFault) : StartsNoRefusal fault.message := by
  cases fault with
  | oddLength => exact .of_utf8 (by decide)
  | invalidByte byte position =>
      repeat refine StartsNoRefusal.append ?_ _
      exact .of_utf8 (by decide)

theorem StartsNoRefusal.utf8Fault (fault : Utf8Fault) : StartsNoRefusal fault.message := by
  unfold Utf8Fault.message
  split
  all_goals
    repeat refine StartsNoRefusal.append ?_ _
    exact .of_utf8 (by decide)

/-- **The texts that refuse a hash are those of no other reason.** -/
theorem Reason.message_mem_iff (reason : Reason) :
    reason.message ∈ hashRefusals ↔ reason.IsHashRefusal := by
  cases reason
  case callDataMismatch | metaDataMismatch | notCanonical => exact iff_of_true (by decide) trivial
  all_goals refine iff_of_false (StartsNoRefusal.notMem ?_) id
  case badKeyHex fault => exact StartsNoRefusal.hexFault fault
  case notUtf8 fault => exact StartsNoRefusal.utf8Fault fault
  -- the texts that begin with a number
  case negative value => exact .append (.int value) _
  case tooWide value _ => exact .append (.append (.append (.int value) _) _) _
  case expired value _ => exact .append (.append (.int value) _) _
  case notPackable n => exact .append (.nat n) _
  case tooManyBytes n _ => exact .append (.append (.nat n) _) _
  case characterCount n _ _ =>
    exact .append (.append (.append (.append (.append (.nat n) _) _) _) _) _
  -- the others have their first words
  all_goals
    repeat refine StartsNoRefusal.append ?_ _
    exact .of_utf8 (by decide)

/-! ### Derived hashes -/

theorem isElement_contentHash (content : Bytes) : IsElement (contentHash content) := by
  rw [contentHash, reduceToBytes32, IsElement, Felt.toNat_toBytes32]
  exact Fin.isLt _

theorem isElement_nameHash {name : String} {hash : Bytes32} (h : nameHash name = .ok hash) :
    IsElement hash := by
  unfold nameHash at h
  split at h
  · rw [← Except.ok.inj h]
    exact isElement_contentHash _
  · cases h

namespace RequestOptions

variable {options : RequestOptions}

theorem exists_receiver_iff :
    (∃ account, options.receiver = .ok account) ↔ options.toAccount ≠ none := by
  unfold receiver
  cases options.toAccount with
  | none => exact ⟨nofun, fun h => absurd rfl h⟩
  | some account => exact ⟨nofun, fun _ => ⟨account, rfl⟩⟩

theorem receiverHash_eq (h : options.toNameHash = none) (name : String) :
    options.receiverHash name = nameHash name := by
  rw [receiverHash, h]

theorem isElement_dataHash (h : options.callDataHash = none) : IsElement options.dataHash := by
  simp only [dataHash, h]
  split
  · decide
  · exact FieldValue.toNat_mimc_lt _

/-- The rule for call data has nothing to say about the derived hash. -/
theorem callData_dataHash (h : options.callDataHash = none) :
    Rules.callData options.callData options.dataHash =
      Rules.maxBytes "CallData" options.callData Rules.maxCallDataBytes := by
  have hfits : (options.callData = "" ||
      Hash.mimc (utf8 options.callData) = options.dataHash) = true := by
    simp only [dataHash, h]
    by_cases hempty : options.callData = ""
    · simp [hempty]
    · simp [hempty]
  rw [Rules.callData, hfits]
  cases Rules.maxBytes "CallData" options.callData Rules.maxCallDataBytes with
  | error e => rfl
  | ok => rfl

end RequestOptions

/-! ### Operations with derived hashes -/

/-- The error refuses a hash. -/
def WalletError.IsHashRefusal : WalletError → Prop
  | .invalidInput error => error.reason.IsHashRefusal
  | _ => False

theorem Reason.IsRange.not_isHashRefusal {reason : Reason} (h : reason.IsRange) :
    ¬ reason.IsHashRefusal := by
  cases reason <;> first | exact id | exact absurd h id

/-! The rules of the three kinds, where those for hashes are met. -/

theorem Transfer.check_failsWith {op : Transfer} (context : Context)
    (hdata : Rules.callData op.callData op.callDataHash =
      Rules.maxBytes "CallData" op.callData Rules.maxCallDataBytes) :
    FailsWith (¬ ·.reason.IsHashRefusal) (op.check context) := by
  simp [check, hdata, Rules.distinctAccounts, Rules.maxBytes, Rules.notExpired, FailsWith.bind_iff,
    require_failsWith, Reason.IsHashRefusal]

theorem TransferNft.check_failsWith {op : TransferNft} (context : Context)
    (hdata : Rules.callData op.callData op.callDataHash =
      Rules.maxBytes "CallData" op.callData Rules.maxCallDataBytes) :
    FailsWith (¬ ·.reason.IsHashRefusal) (op.check context) := by
  simp [check, hdata, Rules.distinctAccounts, Rules.maxBytes, Rules.notExpired, FailsWith.bind_iff,
    require_failsWith, Reason.IsHashRefusal]

theorem MintNft.check_failsWith {op : MintNft} (context : Context)
    (hcontent : RollupWallet.contentHash (utf8 op.metaData) = op.contentHash) :
    FailsWith (¬ ·.reason.IsHashRefusal) (op.check context) := by
  have hfits : require (RollupWallet.contentHash (utf8 op.metaData) = op.contentHash)
      "NftContentHash" .metaDataMismatch = .ok () := if_pos (decide_eq_true hcontent)
  simp [check, hfits, Rules.maxBytes, Rules.notExpired, FailsWith.bind_iff, require_failsWith,
    Reason.IsHashRefusal]

/-- All words that are hashed of an operation are elements. -/
def Operation.HasElements (op : Operation) : Prop :=
  ∀ revision, ∃ table, op.table revision = .ok table ∧
    ∀ field ∈ table, ∀ word, field.value = .hash word → IsElement word

theorem Transfer.hasElements {op : Transfer} (hname : IsElement op.toNameHash)
    (hdata : IsElement op.callDataHash) : (Operation.transfer op).HasElements := by
  intro revision
  refine ⟨op.table, rfl, ?_⟩
  simp [table, kindField, Envelope.feeFields, Envelope.closingFields, hname, hdata]

theorem MintNft.hasElements {op : MintNft} (hname : IsElement op.toNameHash)
    (hcontent : IsElement op.contentHash) : (Operation.mintNft op).HasElements := by
  intro revision
  refine ⟨op.table, rfl, ?_⟩
  simp [table, kindField, Envelope.feeFields, Envelope.closingFields, hname, hcontent]

theorem TransferNft.hasElements {op : TransferNft} (hname : IsElement op.toNameHash)
    (hdata : IsElement op.callDataHash) : (Operation.transferNft op).HasElements := by
  intro revision
  refine ⟨op.table, rfl, ?_⟩
  simp [table, kindField, Envelope.feeFields, Envelope.closingFields, hname, hdata]

/-- **An operation whose words are elements is refused for a hash only by its own rules.** -/
theorem Operation.validate_failsWith {op : Operation} {context : Context}
    (helements : op.HasElements) (hcheck : FailsWith (¬ ·.IsHashRefusal) (op.check context)) :
    FailsWith (¬ ·.IsHashRefusal) (op.validate context) := by
  obtain ⟨table, htable, hwords⟩ := helements context.revision
  have hencode : FailsWith (¬ ·.reason.IsHashRefusal) table.encode := by
    refine table.encode_failsWith.mono ?_
    rintro error ⟨field, hfield, hrange | ⟨-, word, hword, hnot⟩⟩
    · exact hrange.not_isHashRefusal
    · exact absurd (hwords field hfield word hword) hnot
  have hlift : FailsWith (¬ WalletError.IsHashRefusal ·) (liftM table.encode) := .lift hencode
  refine .bind hcheck fun _ => ?_
  rw [htable, ok_bind]
  exact .bind hlift fun _ => .of_pure ()

/-! ### Requests for a named receiver -/

namespace Request

/-- The name of the receiver, for the requests that have one. -/
def receiverName? : Request → Option String
  | transfer request => some request.toName
  | mintNft request => some request.toName
  | transferNft request => some request.toName
  | _ => none

variable {request : Request} {name : String} {options : RequestOptions}

/-- What such a request becomes is put together from the receiving account and the hash of the name,
and it is not refused for a hash. -/
theorem exists_build_eq (hname : request.receiverName? = some name)
    (hdata : options.callDataHash = none) (defaults : EnvelopeDefaults) :
    ∃ assemble : Int64 → Bytes32 → Operation,
      request.build options defaults = (do
        let account ← options.receiver
        let hash ← options.receiverHash name
        return assemble account hash) ∧
      ∀ account hash, IsElement hash → (assemble account hash).HasElements ∧
        ∀ context, FailsWith (¬ ·.IsHashRefusal) ((assemble account hash).check context) := by
  have hdataElement := RequestOptions.isElement_dataHash hdata
  have hdataRule := RequestOptions.callData_dataHash hdata
  cases request
  case transfer request =>
    cases hname
    exact ⟨_, rfl, fun account hash hhash => ⟨Transfer.hasElements hhash hdataElement,
      fun context => .lift (Transfer.check_failsWith context hdataRule)⟩⟩
  case transferNft request =>
    cases hname
    exact ⟨_, rfl, fun account hash hhash => ⟨TransferNft.hasElements hhash hdataElement,
      fun context => .lift (TransferNft.check_failsWith context hdataRule)⟩⟩
  case mintNft request =>
    cases hname
    exact ⟨_, rfl, fun account hash hhash => ⟨MintNft.hasElements hhash (isElement_contentHash _),
      fun context => .lift (MintNft.check_failsWith context rfl)⟩⟩
  all_goals cases hname

/-- **When such a request becomes an operation.** -/
theorem exists_build_iff (hname : request.receiverName? = some name)
    (hdata : options.callDataHash = none) (hhash : options.toNameHash = none)
    (defaults : EnvelopeDefaults) :
    (∃ op, request.build options defaults = .ok op) ↔ options.toAccount ≠ none ∧ IsDotted name := by
  obtain ⟨assemble, hbuild, -⟩ := exists_build_eq hname hdata defaults
  rw [hbuild, RequestOptions.receiverHash_eq hhash, ← RequestOptions.exists_receiver_iff,
    ← exists_nameHash_iff]
  constructor
  · rintro ⟨op, hop⟩
    obtain ⟨account, haccount, hop⟩ := bind_eq_ok.mp hop
    obtain ⟨hash, hhash, -⟩ := bind_eq_ok.mp hop
    exact ⟨⟨account, haccount⟩, ⟨hash, hhash⟩⟩
  · rintro ⟨⟨account, haccount⟩, ⟨hash, hhash⟩⟩
    rw [haccount, hhash]
    exact ⟨assemble account hash, rfl⟩

end Request

/-- **Derived hashes are accepted.**  A request for a named receiver for which no hash is given is
turned down exactly if the receiving account is not known or the name is not dotted.  Otherwise all
words that are hashed are elements, and a check of the operation never ends in a text that refuses a
hash. -/
theorem derived_hashes_accepted {request : Request} {name : String}
    (hname : request.receiverName? = some name) {options : RequestOptions}
    (hdata : options.callDataHash = none) (hhash : options.toNameHash = none)
    (defaults : EnvelopeDefaults) :
    ((∃ error, request.build options defaults = .error error) ↔
        options.toAccount = none ∨ ¬ IsDotted name) ∧
      ∀ op, request.build options defaults = .ok op → op.HasElements ∧
        ∀ context error, op.validate context = .error (.invalidInput error) →
          error.reason.message ∉ hashRefusals := by
  constructor
  · rw [exists_eq_error_iff, Request.exists_build_iff hname hdata hhash, not_and_or, not_not]
  · intro op hop
    obtain ⟨assemble, hbuild, hassemble⟩ := Request.exists_build_eq hname hdata defaults
    rw [hbuild, RequestOptions.receiverHash_eq hhash] at hop
    obtain ⟨account, -, hop⟩ := bind_eq_ok.mp hop
    obtain ⟨hash, hhash, hop⟩ := bind_eq_ok.mp hop
    obtain ⟨helements, hcheck⟩ := hassemble account hash (isElement_nameHash hhash)
    rw [← Except.ok.inj hop]
    refine ⟨helements, fun context error herror => ?_⟩
    rw [Reason.message_mem_iff]
    exact Operation.validate_failsWith helements (hcheck context) _ herror

/-- An NFT for a receiver whose name has two parts, and one for a name with three. -/
theorem derived_hashes_accepted_mint :
    let mint (name : String) : Request := .mintNft ⟨name, 3, 100, "é", "[]"⟩
    let options : RequestOptions :=
      ⟨2, some 4, none, none, none, none, none, "", none, none, none, ""⟩
    let defaults : EnvelopeDefaults := ⟨1, 5000, 9, 1700000000000⟩
    (∃ op, (mint "sher.legend").build options defaults = .ok op ∧ op.HasElements ∧
      ∀ context error, op.validate context = .error (.invalidInput error) →
        error.reason.message ∉ hashRefusals) ∧
    ∃ error, (mint "a.b.legend").build options defaults = .error error := by
  intro mint options defaults
  have hname (name : String) : (mint name).receiverName? = some name := rfl
  have hdata : options.callDataHash = none := rfl
  have hhash : options.toNameHash = none := rfl
  have htwo : IsDotted "sher.legend" :=
    ⟨"sher", "legend", by decide, by decide, by decide, by decide, by decide⟩
  have hthree : ¬ IsDotted "a.b.legend" := by
    have hparts : AccountName.ofBytes? (utf8 "a.b.legend") = none := by decide
    rw [← exists_nameHash_iff, nameHash, hparts]
    rintro ⟨hash, h⟩
    cases h
  obtain ⟨hfails, haccepted⟩ := derived_hashes_accepted (hname "sher.legend") hdata hhash defaults
  constructor
  · cases hbuild : (mint "sher.legend").build options defaults with
    | error error =>
        rcases hfails.mp ⟨error, hbuild⟩ with hnone | hnot
        · cases hnone
        · exact absurd htwo hnot
    | ok op => exact ⟨op, rfl, haccepted op hbuild⟩
  · exact (derived_hashes_accepted (hname "a.b.legend") hdata hhash defaults).1.mpr (.inr hthree)

end RollupWallet
