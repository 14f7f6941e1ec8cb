import Mathlib
import RollupWallet.Proofs.Client.Account

/-!
# What resolving a receiver leaves behind

Two fields of the options describe the receiver, the account and the hash of the name.  They are
filled in one after the other, and each step may fail.  If no account is found, the options stay as
they were.  But an account that was found is kept even if the name then turns out to have no hash,
and this is the only way in which a failed call changes anything (`Client.resolveReceiver_failed`).

The account that is kept is the one of the name that failed.  A later call takes it as given, so it
joins that account to the hash of another name (`Client.resolveReceiver_mispairs`).
-/

namespace RollupWallet

open Online

namespace Client

variable {client : Client} {name : String} {options : RequestOptions} {network : Network}

/-- The question for the account of a name. -/
def nameQuestion (client : Client) (name : String) : HttpRequest :=
  client.api.accountQuestion .name name

/-- The receiving account: the one that is given, or else the one that the network answers for the
name. -/
def receivingAccount (client : Client) (network : Network) (name : String)
    (options : RequestOptions) : Except WalletError Int64 :=
  match options.toAccount with
  | some account => .ok account
  | none => Account.index <$> (client.nameQuestion name).answer Account.codec network

/-- Nobody is asked for an account that is given. -/
def receiverQuestions (client : Client) (name : String) (options : RequestOptions) :
    List HttpRequest :=
  match options.toAccount with
  | some _ => []
  | none => [client.nameQuestion name]

theorem run_receivingAccount :
    (settle options.toAccount (Account.index <$> client.api.account .name name)).run.run network =
      (client.receiverQuestions name options, client.receivingAccount network name options) := by
  unfold receiverQuestions receivingAccount settle
  cases options.toAccount with
  | some account => rfl
  | none =>
      show (Account.index <$> client.api.account .name name).run.run network = _
      rw [run_map, Api.run_account]
      rfl

/-! ### The three outcomes -/

theorem run_resolveReceiver_of_error {error : WalletError}
    (h : client.receivingAccount network name options = .error error) :
    (client.resolveReceiver name options).run network =
      (client.receiverQuestions name options, (options, .error error)) := by
  unfold resolveReceiver
  rw [Exchange.run_bind, run_receivingAccount, h]
  show (client.receiverQuestions name options ++ [], _) = _
  rw [List.append_nil]
  rfl

theorem run_resolveReceiver_of_hash_error {account : Int64} {fault : InvalidInput}
    (h : client.receivingAccount network name options = .ok account)
    (hhash : options.receiverHash name = .error fault) :
    (client.resolveReceiver name options).run network =
      (client.receiverQuestions name options,
        ({ options with toAccount := some account }, .error (.invalidInput fault))) := by
  have hkept : ({ options with toAccount := some account } : RequestOptions).receiverHash name =
      .error fault := hhash
  unfold resolveReceiver
  rw [Exchange.run_bind, run_receivingAccount, h]
  simp only [hkept, Exchange.run_pure, List.append_nil]

theorem run_resolveReceiver_of_ok {account : Int64} {hash : Bytes32}
    (h : client.receivingAccount network name options = .ok account)
    (hhash : options.receiverHash name = .ok hash) :
    (client.resolveReceiver name options).run network =
      (client.receiverQuestions name options,
        ({ options with toAccount := some account, toNameHash := some hash }, .ok ())) := by
  have hkept : ({ options with toAccount := some account } : RequestOptions).receiverHash name =
      .ok hash := hhash
  unfold resolveReceiver
  rw [Exchange.run_bind, run_receivingAccount, h]
  simp only [hkept, Exchange.run_pure, List.append_nil]

/-! ### A failed call and the next one -/

theorem receivingAccount_eq_ok {index : Int64}
    (h : client.receivingAccount network name options = .ok index) :
    options.toAccount = some index ∨ options.toAccount = none ∧
      ∃ account, (client.nameQuestion name).answer Account.codec network = .ok account ∧
        account.index = index := by
  unfold receivingAccount at h
  cases hgiven : options.toAccount with
  | some given =>
      rw [hgiven] at h
      exact Or.inl (congrArg some (Except.ok.inj h))
  | none =>
      rw [hgiven] at h
      cases hanswer : (client.nameQuestion name).answer Account.codec network with
      | error error =>
          rw [hanswer] at h
          cases h
      | ok account =>
          rw [hanswer] at h
          exact Or.inr ⟨rfl, account, rfl, Except.ok.inj h⟩

theorem receivingAccount_of_answer {account : Account} (hgiven : options.toAccount = none)
    (hanswer : (client.nameQuestion name).answer Account.codec network = .ok account) :
    client.receivingAccount network name options = .ok account.index := by
  unfold receivingAccount
  rw [hgiven]
  show Account.index <$> _ = _
  rw [hanswer]
  rfl

theorem receiverHash_eq_error {fault : InvalidInput} :
    options.receiverHash name = .error fault ↔
      options.toNameHash = none ∧ nameHash name = .error fault := by
  unfold RequestOptions.receiverHash
  cases options.toNameHash with
  | none => exact ⟨fun h => ⟨rfl, h⟩, fun h => h.2⟩
  | some hash => exact ⟨nofun, fun ⟨hnone, _⟩ => nomatch hnone⟩

/-- **What a failed call leaves behind.**  The options are what they were, unless neither the account
nor the hash was given, an account was found, and the name has no hash.  Then that account stays. -/
theorem resolveReceiver_failed (client : Client) (name : String) (options : RequestOptions)
    (network : Network) (error : WalletError)
    (h : ((client.resolveReceiver name options).run network).2.2 = .error error) :
    ((client.resolveReceiver name options).run network).2.1 = options ∨
      options.toAccount = none ∧ options.toNameHash = none ∧
        ∃ account fault, (client.nameQuestion name).answer Account.codec network = .ok account ∧
          nameHash name = .error fault ∧ error = .invalidInput fault ∧
          ((client.resolveReceiver name options).run network).2.1 =
            { options with toAccount := some account.index } := by
  cases haccount : client.receivingAccount network name options with
  | error other =>
      rw [run_resolveReceiver_of_error haccount]
      exact Or.inl rfl
  | ok index =>
      cases hhash : options.receiverHash name with
      | ok hash =>
          rw [run_resolveReceiver_of_ok haccount hhash] at h
          cases h
      | error fault =>
          rw [run_resolveReceiver_of_hash_error haccount hhash] at h ⊢
          obtain ⟨hset, hname⟩ := receiverHash_eq_error.mp hhash
          rcases receivingAccount_eq_ok haccount with hgiven | ⟨hgiven, account, hanswer, rfl⟩
          · -- the account that is put in is the one that was there
            left
            rw [← hgiven]
          · right
            exact ⟨hgiven, hset, account, fault, hanswer, hname, (Except.error.inj h).symm, rfl⟩

/-- A name without a full stop, for which the server has an account all the same. -/
theorem resolveReceiver_failed_undotted :
    let client : Client := ⟨⟨"http://rollup"⟩, .v2, 5, 0⟩
    let options : RequestOptions :=
      ⟨2, none, none, none, none, none, none, "", none, none, none, ""⟩
    let network : Network :=
      Network.of fun _ => ⟨200, Account.codec.toText ⟨5, "walt.zkbnb", "", "", 0⟩⟩
    ((client.resolveReceiver "walt" options).run network).2 =
      ({ options with toAccount := some 5 },
        .error (.invalidInput ⟨"AccountName", .malformedName "walt"⟩)) := by
  intro client options network
  have hanswer : (client.nameQuestion "walt").answer Account.codec network =
      .ok ⟨5, "walt.zkbnb", "", "", 0⟩ := HttpRequest.answer_toText rfl
  have hname : nameHash "walt" = .error ⟨"AccountName", .malformedName "walt"⟩ := by
    decide +kernel
  have hhash : options.receiverHash "walt" = .error ⟨"AccountName", .malformedName "walt"⟩ :=
    receiverHash_eq_error.mpr ⟨rfl, hname⟩
  have hrun := run_resolveReceiver_of_hash_error (receivingAccount_of_answer rfl hanswer) hhash
  have herror : ((client.resolveReceiver "walt" options).run network).2.2 =
      .error (.invalidInput ⟨"AccountName", .malformedName "walt"⟩) := by rw [hrun]
  rcases resolveReceiver_failed client "walt" options network _ herror with
    hsame | ⟨_, _, account, _, hfound, _, _, hafter⟩
  · rw [hrun] at hsame
    cases congrArg RequestOptions.toAccount hsame
  · obtain rfl := Except.ok.inj (hanswer.symm.trans hfound)
    exact Prod.ext hafter herror

/-- **The account of one name is joined to the hash of another.**  If a call has failed for the want
of a hash, a later call with a better name asks nobody: it keeps the account that was found for the
first name, and adds the hash of its own. -/
theorem resolveReceiver_mispairs {later : String} {account : Account} {fault : InvalidInput}
    {hash : Bytes32} (hgiven : options.toAccount = none) (hset : options.toNameHash = none)
    (hanswer : (client.nameQuestion name).answer Account.codec network = .ok account)
    (hname : nameHash name = .error fault) (hlater : nameHash later = .ok hash)
    (network' : Network) :
    (client.resolveReceiver later ((client.resolveReceiver name options).run network).2.1).run
        network' =
      ([], ({ options with toAccount := some account.index, toNameHash := some hash },
        .ok ())) := by
  have hhash : options.receiverHash name = .error fault :=
    receiverHash_eq_error.mpr ⟨hset, hname⟩
  have hnext : ({ options with toAccount := some account.index } : RequestOptions).receiverHash
      later = .ok hash := by
    rw [RequestOptions.receiverHash, hset]
    exact hlater
  rw [run_resolveReceiver_of_hash_error (receivingAccount_of_answer hgiven hanswer) hhash]
  exact run_resolveReceiver_of_ok rfl hnext

/-- Two accounts with a name each.  The first name is given without its base, and the call fails;
the second call names the other account, but the options still hold the first one. -/
theorem resolveReceiver_not_atomic :
    let client : Client := ⟨⟨"http://rollup"⟩, .v2, 5, 0⟩
    let server : HttpRequest → HttpResponse := fun request =>
      if request = client.nameQuestion "walt" then
        ⟨200, Account.codec.toText ⟨5, "walt.zkbnb", "", "", 0⟩⟩
      else ⟨200, Account.codec.toText ⟨7, "sher.zkbnb", "", "", 0⟩⟩
    let resolve := fun name options => (client.resolveReceiver name options).run (Network.of server)
    let options : RequestOptions :=
      ⟨2, none, none, none, none, none, none, "", none, none, none, ""⟩
    let left := (resolve "walt" options).2.1
    (∃ error, (resolve "walt" options).2.2 = .error error) ∧ left ≠ options ∧
      ∃ hash, nameHash "sher.zkbnb" = .ok hash ∧
        (resolve "sher.zkbnb" left).2 =
          ({ options with toAccount := some 5, toNameHash := some hash }, .ok ()) ∧
        (resolve "sher.zkbnb" options).2 =
          ({ options with toAccount := some 7, toNameHash := some hash }, .ok ()) := by
  intro client server resolve options left
  have hother : client.nameQuestion "sher.zkbnb" ≠ client.nameQuestion "walt" := by decide
  have hwalt : (client.nameQuestion "walt").answer Account.codec (Network.of server) =
      .ok ⟨5, "walt.zkbnb", "", "", 0⟩ :=
    HttpRequest.answer_toText (congrArg some (if_pos rfl))
  have hsher : (client.nameQuestion "sher.zkbnb").answer Account.codec (Network.of server) =
      .ok ⟨7, "sher.zkbnb", "", "", 0⟩ :=
    HttpRequest.answer_toText (congrArg some (if_neg hother))
  have hfault : nameHash "walt" = .error ⟨"AccountName", .malformedName "walt"⟩ := by
    decide +kernel
  have hwaltHash : options.receiverHash "walt" =
      .error ⟨"AccountName", .malformedName "walt"⟩ := receiverHash_eq_error.mpr ⟨rfl, hfault⟩
  have hparts : AccountName.ofBytes? (Text.utf8 "sher.zkbnb") =
      some ⟨Text.utf8 "sher", Text.utf8 "zkbnb"⟩ := by decide
  have hhash : nameHash "sher.zkbnb" =
      .ok (AccountName.hash ⟨Text.utf8 "sher", Text.utf8 "zkbnb"⟩) := by
    rw [nameHash, hparts]
  have hsherHash : options.receiverHash "sher.zkbnb" =
      .ok (AccountName.hash ⟨Text.utf8 "sher", Text.utf8 "zkbnb"⟩) := hhash
  have hfirst := run_resolveReceiver_of_hash_error (receivingAccount_of_answer rfl hwalt) hwaltHash
  have hleft : left = { options with toAccount := some 5 } := congrArg (fun r => r.2.1) hfirst
  refine ⟨⟨_, congrArg (fun r => r.2.2) hfirst⟩, ?_, _, hhash, ?_, ?_⟩
  · rw [hleft]
    intro hsame
    cases congrArg RequestOptions.toAccount hsame
  · exact congrArg Prod.snd (resolveReceiver_mispairs rfl rfl hwalt hfault hhash _)
  · exact congrArg Prod.snd
      (run_resolveReceiver_of_ok (receivingAccount_of_answer rfl hsher) hsherHash)

end Client

end RollupWallet
