import Mathlib
import RollupWallet.Proofs.Text.Decimal
import RollupWallet.Proofs.Text.Hex
import RollupWallet.Tx.Message

/-!
# The texts for layer-1 keys determine what they print

Numbers stand in these texts with as many digits as they have, so a value is found again only
because of what follows it.  In both texts that is the end of the line, and no value holds one: a text
is a form whose gaps are filled (`fill`), each gap up to the next line, and the values of the gaps are
determined by the bytes (`fill_injective`).

The texts are such forms (`utf8_changePubKeyMessage`, `Offer.utf8_message`), so they print different
values differently (`changePubKeyMessage_eq_iff`, `Offer.message_eq_iff`).
-/

namespace RollupWallet

open Text

/-! ### Forms -/

/-- The byte that ends a line. -/
def newline : UInt8 := 10

/-- Values, each followed by a new line that starts with the text of the form. -/
def fill : (texts : List String) → (values : List Bytes) → Bytes
  | text :: texts, value :: values => value ++ newline :: (utf8 text ++ fill texts values)
  | _, _ => []

/-- What stands before the first end of a line is determined. -/
theorem append_newline_inj {a b s t : Bytes} (ha : newline ∉ a) (hb : newline ∉ b) :
    a ++ newline :: s = b ++ newline :: t ↔ a = b ∧ s = t := by
  constructor
  · intro h
    induction a generalizing b with
    | nil =>
        cases b with
        | nil => exact ⟨rfl, (List.cons.inj h).2⟩
        | cons x b => exact absurd (List.cons.inj h).1 fun heq => hb (heq ▸ List.mem_cons_self)
    | cons x a ih =>
        cases b with
        | nil => exact absurd (List.cons.inj h).1 fun heq => ha (heq ▸ List.mem_cons_self)
        | cons y b =>
            obtain ⟨rfl, hrest⟩ := List.cons.inj h
            obtain ⟨rfl, rfl⟩ := ih (List.not_mem_of_not_mem_cons ha)
              (List.not_mem_of_not_mem_cons hb) hrest
            exact ⟨rfl, rfl⟩
  · rintro ⟨rfl, rfl⟩
    rfl

/-- **The values in a form are determined.** -/
theorem fill_injective {texts : List String} {values values' : List Bytes}
    (hlength : values.length = texts.length) (hlength' : values'.length = texts.length)
    (hvalues : ∀ value ∈ values, newline ∉ value) (hvalues' : ∀ value ∈ values', newline ∉ value)
    (h : fill texts values = fill texts values') : values = values' := by
  induction texts generalizing values values' with
  | nil =>
      rw [List.length_eq_zero_iff.mp hlength, List.length_eq_zero_iff.mp hlength']
  | cons text texts ih =>
      obtain ⟨a, as, rfl⟩ := List.exists_cons_of_length_eq_add_one hlength
      obtain ⟨b, bs, rfl⟩ := List.exists_cons_of_length_eq_add_one hlength'
      obtain ⟨ha, has⟩ := List.forall_mem_cons.mp hvalues
      obtain ⟨hb, hbs⟩ := List.forall_mem_cons.mp hvalues'
      obtain ⟨rfl, hrest⟩ := (append_newline_inj ha hb).mp h
      rw [ih (Nat.succ.inj hlength) (Nat.succ.inj hlength') has hbs
        (List.append_cancel_left hrest)]

/-! ### Values -/

theorem newline_notMem_natural (n : ℕ) : newline ∉ Decimal.natural n :=
  fun h => absurd (Decimal.isDigit_of_mem_natural h) (by decide)

theorem newline_notMem_integer (n : ℤ) : newline ∉ Decimal.integer n := by
  cases n with
  | ofNat n =>
      rw [Decimal.integer_ofNat]
      exact newline_notMem_natural n
  | negSucc n =>
      rw [Decimal.integer_negSucc, List.mem_cons, not_or]
      exact ⟨by decide, newline_notMem_natural _⟩

theorem newline_notMem_encode (bytes : Bytes) : newline ∉ Hex.encode bytes := by
  intro h
  obtain ⟨n, hn, heq⟩ := Hex.mem_encode h
  have hne : ∀ n < 16, newline ≠ Hex.digit n := by decide
  exact hne n hn heq

theorem newline_notMem_word (side : OfferSide) : newline ∉ utf8 side.word := by
  cases side <;> decide

theorem utf8_word_injective : Function.Injective fun side : OfferSide => utf8 side.word := by
  intro a b h
  cases a <;> cases b <;> first | rfl | exact absurd h (by decide)

theorem hex_injective : Function.Injective fun word : Bytes32 => Hex.encode word.bytes :=
  fun _ _ h => FixedBytes.ext (Hex.encode_injective h)

theorem utf8_hex (word : Bytes32) : utf8 word.hex = Hex.encode word.bytes := Hex.utf8_text _

theorem toInt_injective : Function.Injective fun n : Int64 => Decimal.integer n.toInt :=
  fun _ _ h => Int64.toInt_inj.mp (Decimal.integer_injective h)

/-! ### The texts as forms -/

theorem utf8_toString_string (s : String) : utf8 (toString s) = utf8 s := rfl

theorem utf8_toString_int (n : ℤ) : utf8 (toString n) = Decimal.integer n := rfl

theorem utf8_toString_nat (n : ℕ) : utf8 (toString n) = Decimal.natural n := rfl

/-- The lines behind the opening of the text of a change of key. -/
def keyLines : List String :=
  ["pubkeyY: 0x", "nonce: ", "account index: ", "\nOnly sign this message for a trusted client!"]

theorem utf8_changePubKeyMessage (keyX keyY : Bytes32) (nonce account : Int64) :
    utf8 (changePubKeyMessage keyX keyY nonce account) =
      utf8 "Register zkBNB Account\n\npubkeyX: 0x" ++ fill keyLines
        [Hex.encode keyX.bytes, Hex.encode keyY.bytes, Decimal.integer nonce.toInt,
          Decimal.integer account.toInt] := by
  have hkeyY : utf8 "\npubkeyY: 0x" = newline :: utf8 "pubkeyY: 0x" := rfl
  have hend : ∀ rest, utf8 "\n" ++ rest = newline :: rest := fun _ => rfl
  have haccount : utf8 "\naccount index: " = newline :: utf8 "account index: " := rfl
  have hnotice : utf8 "\n\n" ++ utf8 trustNotice =
    newline :: utf8 "\nOnly sign this message for a trusted client!" := rfl
  unfold changePubKeyMessage
  simp only [utf8_append, utf8_toString_string, utf8_toString_int, utf8_hex, keyLines, fill,
    List.append_assoc, List.append_nil, hkeyY, hend, haccount, hnotice, List.cons_append]

/-- The lines behind the opening of the text of an offer. -/
def offerLines : List String :=
  ["offer id: ", "account index: ", "nft index: ", "asset id: ", "asset amount: ", "listed at: ",
    "expired at: ", "treasury rate: ", "\nOnly sign this message for a trusted client!"]

theorem Offer.utf8_message (op : Offer) :
    utf8 op.message = utf8 "Offer NFT\n\ntype: " ++ fill offerLines
      [utf8 op.side.word, Decimal.integer op.id.toInt, Decimal.integer op.account.toInt,
        Decimal.integer op.nft.toInt, Decimal.integer op.asset.toInt, Decimal.natural op.amount,
        Decimal.integer op.listedAt.toInt, Decimal.integer op.expiredAt.toInt,
        Decimal.integer op.treasuryRate.toInt] := by
  have hid : utf8 "\noffer id: " = newline :: utf8 "offer id: " := rfl
  have hend : ∀ rest, utf8 "\n" ++ rest = newline :: rest := fun _ => rfl
  have hnft : utf8 "\nnft index: " = newline :: utf8 "nft index: " := rfl
  have hamount : utf8 "\nasset amount: " = newline :: utf8 "asset amount: " := rfl
  have hlisted : utf8 "\nlisted at: " = newline :: utf8 "listed at: " := rfl
  have hrate : utf8 "\ntreasury rate: " = newline :: utf8 "treasury rate: " := rfl
  have hnotice : utf8 "\n\n" ++ utf8 trustNotice =
    newline :: utf8 "\nOnly sign this message for a trusted client!" := rfl
  unfold Offer.message
  simp only [utf8_append, utf8_toString_string, utf8_toString_int, utf8_toString_nat, offerLines,
    fill, List.append_assoc, List.append_nil, hid, hend, hnft, hamount, hlisted, hrate, hnotice,
    List.cons_append]

/-- **The text of a change of key determines the key, the nonce and the account.** -/
theorem changePubKeyMessage_eq_iff {keyX keyY keyX' keyY' : Bytes32}
    {nonce account nonce' account' : Int64} :
    changePubKeyMessage keyX keyY nonce account = changePubKeyMessage keyX' keyY' nonce' account' ↔
      keyX = keyX' ∧ keyY = keyY' ∧ nonce = nonce' ∧ account = account' := by
  constructor
  · intro h
    have hutf8 := congrArg utf8 h
    rw [utf8_changePubKeyMessage, utf8_changePubKeyMessage] at hutf8
    have hvalues := fill_injective rfl rfl
      (by simp [newline_notMem_encode, newline_notMem_integer])
      (by simp [newline_notMem_encode, newline_notMem_integer]) (List.append_cancel_left hutf8)
    simp only [List.cons.injEq, and_true] at hvalues
    obtain ⟨hx, hy, hnonce, haccount⟩ := hvalues
    exact ⟨hex_injective hx, hex_injective hy, toInt_injective hnonce, toInt_injective haccount⟩
  · rintro ⟨rfl, rfl, rfl, rfl⟩
    rfl

/-- **The text of an offer determines the nine values it prints.** -/
theorem Offer.message_eq_iff {op op' : Offer} :
    op.message = op'.message ↔
      op.side = op'.side ∧ op.id = op'.id ∧ op.account = op'.account ∧ op.nft = op'.nft ∧
        op.asset = op'.asset ∧ op.amount = op'.amount ∧ op.listedAt = op'.listedAt ∧
        op.expiredAt = op'.expiredAt ∧ op.treasuryRate = op'.treasuryRate := by
  constructor
  · intro h
    have hutf8 := congrArg utf8 h
    rw [utf8_message, utf8_message] at hutf8
    have hvalues := fill_injective rfl rfl
      (by simp [newline_notMem_word, newline_notMem_integer, newline_notMem_natural])
      (by simp [newline_notMem_word, newline_notMem_integer, newline_notMem_natural])
      (List.append_cancel_left hutf8)
    simp only [List.cons.injEq, and_true] at hvalues
    obtain ⟨hside, hid, haccount, hnft, hasset, hamount, hlisted, hexpired, hrate⟩ := hvalues
    exact ⟨utf8_word_injective hside, toInt_injective hid, toInt_injective haccount,
      toInt_injective hnft, toInt_injective hasset, Decimal.natural_injective hamount,
      toInt_injective hlisted, toInt_injective hexpired, toInt_injective hrate⟩
  · rintro ⟨hside, hid, haccount, hnft, hasset, hamount, hlisted, hexpired, hrate⟩
    unfold message
    rw [hside, hid, haccount, hnft, hasset, hamount, hlisted, hexpired, hrate]

end RollupWallet
