import RollupWallet.Layer1.Address
import RollupWallet.Text.Decimal
import RollupWallet.Tx.Kind

/-!
# The grammar of a command line

A command has options, each with a long name and perhaps a short one, and it may take one argument
or go on with a command below it. A word with a dash in front is an option unless two dashes have
stood alone before; the value of an option follows it, in the same word or as the next one.

The value of an option is judged when the next option or argument begins, so it is the order of
the words that decides which of several flaws is reported. A word that fits nowhere is reported
before the value that is still to be judged.
-/

namespace RollupWallet.CommandLine

/-- The ways in which a command line is refused, among them the wish for help. -/
inductive UsageFault where
  | missingRequiredArgument
  | unknownArgument
  /-- A value is missing or is none of those that can be chosen. -/
  | invalidValue
  /-- A value has not the form that it should have. -/
  | valueValidation
  /-- An option is given twice. -/
  | argumentConflict
  /-- A switch is given a value. -/
  | tooManyValues
  | invalidSubcommand
  | missingSubcommand
  | displayHelp
  | displayHelpOnMissing
deriving DecidableEq, Repr

namespace UsageFault

/-- The name of a fault. -/
def name : UsageFault → String
  | missingRequiredArgument => "MissingRequiredArgument"
  | unknownArgument => "UnknownArgument"
  | invalidValue => "InvalidValue"
  | valueValidation => "ValueValidation"
  | argumentConflict => "ArgumentConflict"
  | tooManyValues => "TooManyValues"
  | invalidSubcommand => "InvalidSubcommand"
  | missingSubcommand => "MissingSubcommand"
  | displayHelp => "DisplayHelp"
  | displayHelpOnMissing => "DisplayHelpOnMissingArgumentOrSubcommand"

end UsageFault

/-! ### Values -/

/-- The value of an option. -/
inductive Value where
  | text (text : String)
  | integer (n : Int)
  | address (address : Address)
  | kind (kind : TxKind)
deriving DecidableEq

/-- The form of a value. -/
inductive Form where
  | text
  /-- A number below `bound`. -/
  | natural (bound : Nat)
  /-- An integer from `min` up to, but without, `max`. -/
  | integer (min max : Int)
  | address
  /-- One of some words, each of which names a kind. -/
  | kind (choices : List (String × TxKind))
deriving DecidableEq

/-- Reads a value. -/
def Form.read (form : Form) (word : String) : Except UsageFault Value :=
  match form with
  | .text => .ok (.text word)
  | .natural bound =>
    match Text.Decimal.unsigned? (Text.utf8 word) with
    | some n => if n < bound then .ok (.integer n) else .error .valueValidation
    | none => .error .valueValidation
  | .integer min max =>
    match Text.Decimal.integer? (Text.utf8 word) with
    | some n => if min ≤ n ∧ n < max then .ok (.integer n) else .error .valueValidation
    | none => .error .valueValidation
  | .address =>
    match Address.ofText? word with
    | some found => .ok (.address found)
    | none => .error .valueValidation
  | .kind choices =>
    match choices.lookup word with
    | some found => .ok (.kind found)
    | none => .error .invalidValue

/-! ### Options and commands -/

/-- An option. -/
structure OptionRule where
  name : String
  short : Option Char
  /-- The form of its value; a switch has none. -/
  form : Option Form
  /-- The variable of the environment that stands in for it. -/
  standIn : Option String
deriving DecidableEq

/-- The switch that asks for help, which every command has. -/
def helpSwitch : OptionRule := ⟨"help", some 'h', none, none⟩

/-- What a command takes besides the switch for help. -/
structure Grammar where
  options : List OptionRule
  takesArgument : Bool
  /-- The names of the commands below it. -/
  commands : List String
deriving DecidableEq

namespace Grammar

/-- The option with a long name. -/
def long? (grammar : Grammar) (name : String) : Option OptionRule :=
  (helpSwitch :: grammar.options).find? (·.name = name)

/-- The option with a short name. -/
def short? (grammar : Grammar) (letter : Char) : Option OptionRule :=
  (helpSwitch :: grammar.options).find? (·.short = some letter)

end Grammar

/-! ### Reading -/

/-- What has been read so far. -/
structure Reading where
  /-- The values of options, by the option's name. -/
  values : List (String × Value)
  switches : List String
  argument : Option String
  /-- The option read last, with its value as soon as there is one, while both are to be judged. -/
  pending : Option (OptionRule × Form × Option String)
deriving DecidableEq

namespace Reading

/-- Nothing has been read. -/
def empty : Reading := ⟨[], [], none, none⟩

/-- Whether the next word is the value of an option. -/
def isWaiting (reading : Reading) : Bool :=
  match reading.pending with
  | some (_, _, none) => true
  | _ => false

/-- Whether an option has been read. -/
def has (reading : Reading) (name : String) : Bool :=
  (reading.values.lookup name).isSome || reading.switches.contains name

/-- Takes the value of an option, which may be given once. -/
def give (reading : Reading) (option : OptionRule) (form : Form) (word : String) :
    Except UsageFault Reading := do
  if reading.has option.name then throw .argumentConflict
  let value ← form.read word
  return { reading with values := (option.name, value) :: reading.values }

/-- Judges the option read last. -/
def settle (reading : Reading) : Except UsageFault Reading :=
  match reading.pending with
  | none => .ok reading
  | some (_, _, none) => .error .invalidValue
  | some (option, form, some word) => { reading with pending := none }.give option form word

/-- Begins an option, to whose name a value may be attached. -/
def begin (reading : Reading) (option : OptionRule) (attached : Option String) :
    Except UsageFault Reading :=
  match option.form, attached with
  | none, some _ => .error .tooManyValues
  | none, none => do
    let reading ← reading.settle
    if option = helpSwitch then throw .displayHelp
    if reading.has option.name then throw .argumentConflict
    return { reading with switches := option.name :: reading.switches }
  | some form, some word => do
    let reading ← reading.settle
    reading.give option form word
  | some form, none => do
    let reading ← reading.settle
    return { reading with pending := some (option, form, none) }

/-- Reads short options behind one dash: switches and at most one option with a value, which takes
the rest of the word as its value, after an equals sign or not. -/
def shorts (grammar : Grammar) (reading : Reading) : List Char → Except UsageFault Reading
  | [] => .ok reading
  | letter :: rest =>
    match grammar.short? letter with
    | none => .error .unknownArgument
    | some option =>
      match option.form, rest with
      | none, rest => do
        let reading ← reading.begin option none
        shorts grammar reading rest
      | some _, [] => reading.begin option none
      | some _, '=' :: value => reading.begin option (some (String.ofList value))
      | some _, value => reading.begin option (some (String.ofList value))

/-- Reads a long option behind two dashes; a value may follow an equals sign. -/
def long (grammar : Grammar) (reading : Reading) (word : List Char) :
    Except UsageFault Reading :=
  match grammar.long? (String.ofList (word.takeWhile (· ≠ '='))) with
  | none => .error .unknownArgument
  | some option =>
    match word.dropWhile (· ≠ '=') with
    | [] => reading.begin option none
    | _ :: value => reading.begin option (some (String.ofList value))

/-- Takes a word that is no option: the value that is waited for, or the argument. -/
def word (grammar : Grammar) (onlyArguments : Bool) (reading : Reading) (word : String) :
    Except UsageFault Reading :=
  match onlyArguments, reading.pending with
  | false, some (option, form, none) =>
    .ok { reading with pending := some (option, form, some word) }
  | _, _ =>
    if grammar.takesArgument ∧ reading.argument.isNone then do
      let reading ← reading.settle
      return { reading with argument := some word }
    else if grammar.commands = [] ∨ (onlyArguments ∧ grammar.commands.contains word) then
      .error .unknownArgument
    else .error .invalidSubcommand

/-- Reads words up to the name of a command below. Yields that name and what follows it. -/
def words (grammar : Grammar) (onlyArguments : Bool) (reading : Reading) :
    List String → Except UsageFault (Reading × Option (String × List String))
  | [] => .ok (reading, none)
  | first :: rest =>
    if onlyArguments then do
      let reading ← reading.word grammar true first
      reading.words grammar true rest
    else if !reading.isWaiting && grammar.commands.contains first then
      .ok (reading, some (first, rest))
    else
      match first.toList with
      | ['-', '-'] => reading.words grammar true rest
      | '-' :: '-' :: name => do
        let reading ← reading.long grammar name
        reading.words grammar false rest
      | '-' :: letter :: letters => do
        let reading ← reading.shorts grammar (letter :: letters)
        reading.words grammar false rest
      | _ => do
        let reading ← reading.word grammar false first
        reading.words grammar false rest

/-- Takes the values that the environment has for options that were not given. -/
def takeVariables (getVariable : String → Option String) (options : List OptionRule)
    (reading : Reading) : Except UsageFault Reading :=
  options.foldlM
    (fun reading option =>
      match option.form, option.standIn.bind getVariable with
      | some form, some value =>
        if reading.has option.name then .ok reading else reading.give option form value
      | _, _ => .ok reading)
    reading

/-! ### Values that were read -/

variable (reading : Reading) (name : String)

/-- The text given to an option. -/
def text? : Option String :=
  match reading.values.lookup name with
  | some (.text text) => some text
  | _ => none

/-- The integer given to an option. -/
def integer? : Option Int :=
  match reading.values.lookup name with
  | some (.integer n) => some n
  | _ => none

/-- The address given to an option. -/
def address? : Option Address :=
  match reading.values.lookup name with
  | some (.address address) => some address
  | _ => none

/-- The kind given to an option. -/
def kind? : Option TxKind :=
  match reading.values.lookup name with
  | some (.kind kind) => some kind
  | _ => none

end Reading

/-- What must have been given. -/
def required {α : Type} (value : Option α) : Except UsageFault α :=
  match value with
  | some value => .ok value
  | none => .error .missingRequiredArgument

end RollupWallet.CommandLine
