/-!
# The context of a transaction

Rules and digests depend on two things besides the transaction: the time, against which an expiry
is held, and the revision of the protocol, which decides how many terms of an offer are hashed.
-/

namespace RollupWallet

/-- A revision of the protocol. -/
inductive Revision where
  /-- Of an offer's rates only that of the treasury is hashed. -/
  | v1
  /-- The terms of channel, protocol and royalty are hashed as well. -/
  | v2
deriving DecidableEq, Repr, Inhabited

/-- A time in milliseconds, and the revision of the protocol in effect. -/
structure Context where
  now : Int64
  revision : Revision
deriving DecidableEq, Repr

end RollupWallet
