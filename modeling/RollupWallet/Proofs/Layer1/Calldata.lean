import Mathlib
import RollupWallet.Layer1.Contract
import RollupWallet.Proofs.Hash.Keccak
import RollupWallet.Proofs.Layer1.Abi

/-!
# Calls are read back from their bytes

A method is declared by its name and the types of its parameters (`Method.parameters`).  That is all
that the reader of a call is given: the first four bytes select the method whose declaration they
are the digest of (`Method.ofSelector?`), the words behind them are read by the kinds of the
declared types, and each argument must be a value of its type (`ContractCall.ofArguments?`).

The declarations agree with what is sent: the text that is hashed is that of the declaration
(`signature_eq`), the arguments have the declared kinds (`kinds_arguments`), and the call is made of
them (`ofArguments?_arguments`).  The eight selectors are different (`selector_injective`).  So
calls are read back, and different calls have different bytes (`calldata_determines`).
-/

namespace RollupWallet.Layer1

/-! ### Declarations -/

/-- A type of the contract's language. -/
inductive SolidityType where
  | address
  | uint (bits : ℕ)
  | bytes32
  | string
deriving DecidableEq, Repr

namespace SolidityType

/-- The name of a type in a signature. -/
def name : SolidityType → String
  | address => "address"
  | uint bits => s!"uint{bits}"
  | bytes32 => "bytes32"
  | string => "string"

/-- How arguments of a type stand in a call. -/
def kind : SolidityType → AbiKind
  | string => .bytes
  | _ => .word

end SolidityType

/-- A method of the contract. -/
inductive Method where
  | registerZns
  | depositBnb
  | depositBep20
  | depositNft
  | requestFullExit
  | requestFullExitNft
  | createPair
  | updatePairRate
deriving DecidableEq, Repr

namespace Method

/-- All methods. -/
def all : List Method :=
  [registerZns, depositBnb, depositBep20, depositNft, requestFullExit, requestFullExitNft,
    createPair, updatePairRate]

/-- The name of a method. -/
def name : Method → String
  | registerZns => "registerZNS"
  | depositBnb => "depositBNB"
  | depositBep20 => "depositBEP20"
  | depositNft => "depositNft"
  | requestFullExit => "requestFullExit"
  | requestFullExitNft => "requestFullExitNft"
  | createPair => "createPair"
  | updatePairRate => "updatePairRate"

/-- The types of the parameters; those of `updatePairRate` are the fields of one struct. -/
def parameters : Method → List SolidityType
  | registerZns => [.string, .address, .bytes32, .bytes32]
  | depositBnb => [.string]
  | depositBep20 => [.address, .uint 104, .string]
  | depositNft => [.string, .address, .uint 256]
  | requestFullExit => [.string, .address]
  | requestFullExitNft => [.string, .uint 32]
  | createPair => [.address, .address]
  | updatePairRate => [.address, .address, .uint 16, .uint 32, .uint 16]

/-- The signature of a method. -/
def signature (method : Method) : String :=
  let types := "(" ++ ",".intercalate (method.parameters.map SolidityType.name) ++ ")"
  method.name ++ if method = updatePairRate then "(" ++ types ++ ")" else types

/-- The bytes that select a method. -/
def selector (method : Method) : Bytes := Abi.selector method.signature

/-- The method that bytes select. -/
def ofSelector? (bytes : Bytes) : Option Method := all.find? fun method => method.selector = bytes

/-- The selector of a method as a number. -/
def code : Method → ℕ
  | registerZns => 0x3fdeb67d
  | depositBnb => 0x51344683
  | depositBep20 => 0x1caf5d25
  | depositNft => 0xfb99514b
  | requestFullExit => 0x8da64c7f
  | requestFullExitNft => 0x1bd24317
  | createPair => 0xc9c65396
  | updatePairRate => 0x13a05e23

theorem selector_eq (method : Method) : method.selector = Bytes.ofNat 4 method.code := by
  rw [selector, Abi.selector, Hash.bytes_keccak256]
  cases method <;> decide +kernel

theorem length_selector (method : Method) : method.selector.length = 4 := by
  rw [selector_eq, Bytes.length_ofNat]

/-- **No two methods have one selector.** -/
theorem selector_injective : Function.Injective selector := by
  intro a b h
  rw [selector_eq, selector_eq] at h
  revert h
  cases a <;> cases b <;> decide

theorem ofSelector?_selector (method : Method) : ofSelector? method.selector = some method := by
  unfold ofSelector?
  simp only [selector_injective.eq_iff]
  cases method <;> rfl

end Method

/-! ### Arguments of a type -/

namespace AbiValue

/-- The number below `2 ^ bits` that an argument is. -/
def uint? (bits : ℕ) : AbiValue → Option (BitVec bits)
  | word value => if value.toNat < 2 ^ bits then some (.ofNat bits value.toNat) else none
  | bytes _ => none

/-- The address that an argument is. -/
def address? : AbiValue → Option Address
  | word value => if value.toNat < 256 ^ 20 then some (.ofNat 20 value.toNat) else none
  | bytes _ => none

/-- The coordinate that an argument is. -/
def coordinate? : AbiValue → Option Felt
  | word value => Felt.ofBytes32? value
  | bytes _ => none

/-- The string that an argument is. -/
def string? : AbiValue → Option String
  | word _ => none
  | bytes value => Text.ofUtf8? value

theorem uint?_toNat {bits : ℕ} (hbits : bits ≤ 256) (value : BitVec bits) :
    (ofNat value.toNat).uint? bits = some value := by
  have hword : value.toNat < 256 ^ 32 :=
    lt_of_lt_of_le value.isLt (Nat.pow_le_pow_right (by decide) hbits)
  rw [ofNat, uint?, Abi.toNat_ofNat_of_lt hword, if_pos value.isLt, BitVec.ofNat_toNat,
    BitVec.setWidth_eq]

@[simp] theorem uint?_uint16 (value : UInt16) :
    (ofNat value.toNat).uint? 16 = some value.toBitVec :=
  uint?_toNat (by decide) value.toBitVec

@[simp] theorem uint?_uint32 (value : UInt32) :
    (ofNat value.toNat).uint? 32 = some value.toBitVec :=
  uint?_toNat (by decide) value.toBitVec

@[simp] theorem address?_ofAddress (address : Address) :
    (ofAddress address).address? = some address := by
  have haddress := address.toNat_lt
  have hword : address.toNat < 256 ^ 32 := lt_trans haddress (by decide)
  have hread : FixedBytes.ofNat 20 address.toNat = address :=
    FixedBytes.ext (Bytes.ofNat_toNat_of_length address.length_eq)
  rw [ofAddress, ofNat, address?, Abi.toNat_ofNat_of_lt hword, if_pos haddress, hread]

@[simp] theorem coordinate?_toBytes32 (x : Felt) : (word x.toBytes32).coordinate? = some x :=
  Felt.ofBytes32?_toBytes32 x

@[simp] theorem string?_ofString (s : String) : (ofString s).string? = some s :=
  Text.ofUtf8?_utf8 s

end AbiValue

namespace ContractCall

/-- The method that is called. -/
def method : ContractCall → Method
  | registerZns .. => .registerZns
  | depositBnb .. => .depositBnb
  | depositBep20 .. => .depositBep20
  | depositNft .. => .depositNft
  | requestFullExit .. => .requestFullExit
  | requestFullExitNft .. => .requestFullExitNft
  | createPair .. => .createPair
  | updatePairRate .. => .updatePairRate

/-- The call of a method with given arguments, if they are of the declared types. -/
def ofArguments? : Method → List AbiValue → Option ContractCall
  | .registerZns, [name, owner, x, y] => do
    return registerZns (← name.string?) (← owner.address?) ⟨⟨← x.coordinate?, ← y.coordinate?⟩⟩
  | .depositBnb, [name] => do return depositBnb (← name.string?)
  | .depositBep20, [token, amount, name] => do
    return depositBep20 (← token.address?) (← amount.uint? 104) (← name.string?)
  | .depositNft, [name, token, tokenId] => do
    return depositNft (← name.string?) (← token.address?) (← tokenId.uint? 256)
  | .requestFullExit, [name, asset] => do
    return requestFullExit (← name.string?) (← asset.address?)
  | .requestFullExitNft, [name, nft] => do
    return requestFullExitNft (← name.string?) (.ofBitVec (← nft.uint? 32))
  | .createPair, [tokenA, tokenB] => do
    return createPair (← tokenA.address?) (← tokenB.address?)
  | .updatePairRate, [tokenA, tokenB, feeRate, treasuryAccount, treasuryRate] => do
    return updatePairRate (← tokenA.address?) (← tokenB.address?)
      (.ofBitVec (← feeRate.uint? 16)) (.ofBitVec (← treasuryAccount.uint? 32))
      (.ofBitVec (← treasuryRate.uint? 16))
  | _, _ => none

/-- The call that bytes write. -/
def ofCalldata? (data : Bytes) : Option ContractCall := do
  let method ← Method.ofSelector? (data.take 4)
  let values ← Abi.read? (data.drop 4) 0 (method.parameters.map SolidityType.kind)
  ofArguments? method values

theorem signature_eq (call : ContractCall) : call.signature = call.method.signature := by
  cases call <;> rfl

theorem kinds_arguments (call : ContractCall) :
    call.arguments.map AbiValue.kind = call.method.parameters.map SolidityType.kind := by
  cases call <;> rfl

/-- **A call is made of its method and its arguments.** -/
theorem ofArguments?_arguments (call : ContractCall) :
    ofArguments? call.method call.arguments = some call := by
  cases call with
  | registerZns name owner key =>
      simp [method, arguments, ofArguments?, Eddsa.PublicKey.x, Eddsa.PublicKey.y]
  | depositBnb name => simp [method, arguments, ofArguments?]
  | depositBep20 token amount name =>
      have hamount := AbiValue.uint?_toNat (by decide) amount
      simp [method, arguments, ofArguments?, hamount]
  | depositNft name token tokenId =>
      have hid := AbiValue.uint?_toNat le_rfl tokenId
      simp [method, arguments, ofArguments?, hid]
  | requestFullExit name asset => simp [method, arguments, ofArguments?]
  | requestFullExitNft name nft => simp [method, arguments, ofArguments?]
  | createPair tokenA tokenB => simp [method, arguments, ofArguments?]
  | updatePairRate tokenA tokenB feeRate treasuryAccount treasuryRate =>
      simp [method, arguments, ofArguments?]

theorem calldata_eq (call : ContractCall) :
    call.calldata = call.method.selector ++ Abi.arguments call.arguments := by
  rw [calldata, signature_eq]
  rfl

/-- **A call is read back from its bytes**, if these are not too many to be counted in a word. -/
theorem ofCalldata?_calldata {call : ContractCall} (hfits : call.calldata.length < 256 ^ 32) :
    ofCalldata? call.calldata = some call := by
  have hselector := call.method.length_selector
  have harguments : (Abi.arguments call.arguments).length < 256 ^ 32 := by
    rw [calldata_eq, List.length_append] at hfits
    omega
  have hread := Abi.read?_arguments harguments
  rw [kinds_arguments] at hread
  rw [calldata_eq, ofCalldata?, List.take_left' hselector, List.drop_left' hselector]
  simp only [Option.bind_eq_bind, Method.ofSelector?_selector, Option.bind_some, hread,
    ofArguments?_arguments]

/-- No declared method has more than one parameter without a fixed length. -/
theorem count_bytes_le_one (method : Method) :
    (method.parameters.map SolidityType.kind).count .bytes ≤ 1 := by
  cases method <;> decide

/-- **Different calls have different bytes.** -/
theorem calldata_injective : Function.Injective calldata := by
  intro a b h
  rw [calldata_eq, calldata_eq] at h
  obtain ⟨hselector, harguments⟩ :=
    List.append_inj h (a.method.length_selector.trans b.method.length_selector.symm)
  have hmethod := Method.selector_injective hselector
  have hkinds : a.arguments.map AbiValue.kind = b.arguments.map AbiValue.kind := by
    rw [kinds_arguments, kinds_arguments, hmethod]
  have hone := count_bytes_le_one a.method
  rw [← kinds_arguments] at hone
  have hvalues := Abi.eq_of_arguments_eq hkinds hone harguments
  rw [← Option.some.injEq, ← ofArguments?_arguments a, ← ofArguments?_arguments b, hmethod, hvalues]

/-! ### Keys and amounts -/

/-- The third and the fourth word of a registration are the coordinates of the key. -/
theorem take_drop_registerZns (name : String) (owner : Address) (key : Eddsa.PublicKey) :
    ((registerZns name owner key).calldata.drop 68).take 64 = key.x.bytes ++ key.y.bytes := by
  set words := Bytes.ofNat 32 (32 * 4) ++ Bytes.ofNat 32 owner.toNat
  set front := (registerZns name owner key).method.selector ++ words
  have harguments : Abi.arguments (registerZns name owner key).arguments =
      words ++ (key.x.bytes ++ key.y.bytes ++ Abi.dynamic (Text.utf8 name)) := by
    simp [arguments, Abi.arguments, Abi.parts, AbiValue.ofString, AbiValue.ofAddress,
      AbiValue.ofNat, FixedBytes.ofNat, words]
  have hcalldata : (registerZns name owner key).calldata =
      front ++ (key.x.bytes ++ key.y.bytes ++ Abi.dynamic (Text.utf8 name)) := by
    rw [calldata_eq, harguments, ← List.append_assoc]
  have hlength : front.length = 68 := by
    simp only [front, words, List.length_append, Method.length_selector, Bytes.length_ofNat]
  have hwords : (key.x.bytes ++ key.y.bytes).length = 64 := by
    rw [List.length_append, key.x.length_eq, key.y.length_eq]
  rw [hcalldata, List.drop_left' hlength, List.take_left' hwords]

/-- A deposit of an amount is the call with the 104 bits that stand for that amount. -/
theorem depositBep20?_eq_some_iff {token : Address} {amount : ℕ} {name : String}
    {call : ContractCall} :
    depositBep20? token amount name = some call ↔
      ∃ bits : BitVec 104, bits.toNat = amount ∧ call = depositBep20 token bits name := by
  rw [depositBep20?, Option.ite_none_right_eq_some]
  constructor
  · rintro ⟨hlt, h⟩
    refine ⟨.ofNat 104 amount, ?_, (Option.some.inj h).symm⟩
    rw [BitVec.toNat_ofNat, Nat.mod_eq_of_lt hlt]
  · rintro ⟨bits, rfl, rfl⟩
    refine ⟨bits.isLt, ?_⟩
    rw [BitVec.ofNat_toNat, BitVec.setWidth_eq]

theorem depositBep20?_eq_none_iff {token : Address} {amount : ℕ} {name : String} :
    depositBep20? token amount name = none ↔ 2 ^ 104 ≤ amount := by
  have hpow : Nat.pow 2 104 = 2 ^ 104 := rfl
  rw [depositBep20?, hpow]
  split
  · next hlt => exact iff_of_false nofun (not_le.mpr hlt)
  · next hge => exact iff_of_true rfl (not_lt.mp hge)

/-- **The bytes of a call determine the call.** They are the selector of the declared method, the
words of the arguments in the order of the declaration and the tails of the strings among them. The
call is read back from them, unless they are too many to be counted in a word; and no two calls
share their bytes, however many these are. A registration carries both coordinates of the key in
their order. A deposit of a token is refused exactly if its amount has more than 104 bits, and
otherwise carries that amount. -/
theorem calldata_determines :
    (∀ call : ContractCall, call.calldata =
      (Hash.keccak256 (Text.utf8 call.method.signature)).bytes.take 4 ++
        (Abi.heads call.arguments ++ Abi.tails call.arguments)) ∧
    (∀ call : ContractCall, call.calldata.length < 2 ^ 256 →
      ofCalldata? call.calldata = some call) ∧
    (∀ a b : ContractCall, a.calldata = b.calldata → a = b) ∧
    (∀ name owner (key : Eddsa.PublicKey),
      ((registerZns name owner key).calldata.drop 68).take 64 = key.x.bytes ++ key.y.bytes) ∧
    (∀ token amount name, depositBep20? token amount name = none ↔ 2 ^ 104 ≤ amount) ∧
    ∀ token amount name call, depositBep20? token amount name = some call ↔
      ∃ bits : BitVec 104, bits.toNat = amount ∧ call = depositBep20 token bits name := by
  refine ⟨fun call => ?_, fun call hfits => ofCalldata?_calldata hfits,
    fun a b h => calldata_injective h, take_drop_registerZns,
    fun token amount name => depositBep20?_eq_none_iff,
    fun token amount name call => depositBep20?_eq_some_iff⟩
  rw [calldata_eq, Abi.arguments_eq]
  rfl

/-- The deposit of an NFT by a name of more than one block. -/
theorem calldata_determines_longName :
    let call := depositNft (String.join (List.replicate 9 "walt")) .zero 7
    call.calldata.length = 196 ∧ ofCalldata? call.calldata = some call := by
  intro call
  have hlength : call.calldata.length = 196 := by
    rw [calldata_eq, List.length_append, Method.length_selector]
    decide +kernel
  obtain ⟨-, hread, -⟩ := calldata_determines
  exact ⟨hlength, hread call (by rw [hlength]; decide)⟩

end ContractCall

end RollupWallet.Layer1
