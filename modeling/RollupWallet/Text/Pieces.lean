/-!
# Pieces of a text

A text with separators falls into pieces, one more than there are separators.
-/

namespace RollupWallet.Text

variable {α : Type} [DecidableEq α]

/-- The pieces of a text between separators. -/
def pieces (separator : α) (text : List α) : List (List α) :=
  text.foldr
    (fun c found =>
      match found with
      | [] => [[c]]
      | piece :: others => if c = separator then [] :: piece :: others else (c :: piece) :: others)
    [[]]

end RollupWallet.Text
