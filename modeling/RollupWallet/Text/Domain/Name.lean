import RollupWallet.Text.Domain.Direction
import RollupWallet.Text.Domain.Label
import RollupWallet.Text.Pieces

/-!
# Domain names

The labels of a name. The characters of a name are replaced and composed before it falls into
labels, so that other full stops count as well, and each label is then sound by itself. A name with
characters that run from right to left must also keep its labels apart when it is shown.
-/

namespace RollupWallet.Text.Domain

/-- Whether a name with these labels is shown in an order that cannot be taken for another. -/
def isOrdered (labels : List (List Char)) : Bool :=
  labels.all (fun label => label.all isAscii) ||
    let directions := labels.map fun label => label.map Direction.ofChar
    !directions.any (fun label => label.any Direction.isReversing) || directions.all Direction.agree

/-- The labels of a name as they are shown, if the name is sound. Any of them may be empty. -/
def labels? (name : List Char) : Option (List (List Char)) := do
  let text := Composed.ofText (← name.mapM mapped?).flatten
  if text.any isReserved then none
  else ((pieces '.' text).mapM label?).filter isOrdered

end RollupWallet.Text.Domain
