import Telematics.Json.Basic
import Telematics.Number.Integer
import Telematics.Text.Split

/-!
The command line that queues a command for a device: two words, the identifier of the device and the
payload, and options in any place.

An option may be shortened as long as it stays unambiguous, and a value may follow it behind an
equals sign. Letters behind an option of one letter that takes no value are options of their own.
Two dashes alone end the options, and where they stand as a value they are an empty list. A number
with a minus sign is a word, and so is anything with a space that is no option.

* `mark`: what an argument is, before any of them is used.
* `read`: the identifier, the payload and the type.
-/

namespace Telematics.Console

/-- The options. -/
inductive Flag where
  | help
  | version
  | verbosity
  | settings
  | searchPath
  | traceback
  | noColor
  | forceColor
  | skipChecks
  | type
deriving DecidableEq, Repr

/-- The spellings of options, in the order in which they are offered. -/
def spellings : List (String × Flag) := [
  ("-h", .help), ("--help", .help), ("--version", .version), ("-v", .verbosity),
  ("--verbosity", .verbosity), ("--settings", .settings), ("--pythonpath", .searchPath),
  ("--traceback", .traceback), ("--no-color", .noColor), ("--force-color", .forceColor),
  ("--skip-checks", .skipChecks), ("--type", .type)]

/-- All spellings of an option, as messages name it. -/
def Flag.title (flag : Flag) : String :=
  "/".intercalate ((spellings.filter (·.2 = flag)).map (·.1))

/-- The option takes a value. -/
def Flag.takesValue : Flag → Bool
  | .verbosity => true
  | .settings => true
  | .searchPath => true
  | .type => true
  | _ => false

/-- Why a command line is refused. -/
inductive Fault where
  | ambiguous (argument : String) (matching : List String)
  | expectsValue (flag : Flag)
  | ignoresValue (flag : Flag) (value : String)
  | invalidInteger (flag : Flag) (value : String)
  | invalidChoice (flag : Flag) (value : Int)
  | missing (names : List String)
  | unrecognized (arguments : List String)
  | conflictingColors
  /-- Help or the version was asked for. -/
  | informed
deriving DecidableEq, Repr

/-- The wording of a fault. -/
def Fault.message : Fault → String
  | .ambiguous argument matching =>
    "Error: ambiguous option: " ++ argument ++ " could match " ++ ", ".intercalate matching
  | .expectsValue flag => "Error: argument " ++ flag.title ++ ": expected one argument"
  | .ignoresValue flag value =>
    "Error: argument " ++ flag.title ++ ": ignored explicit argument " ++ Text.quoted value
  | .invalidInteger flag value =>
    "Error: argument " ++ flag.title ++ ": invalid int value: " ++ Text.quoted value
  | .invalidChoice flag value =>
    "Error: argument " ++ flag.title ++ ": invalid choice: " ++ Number.decimal value ++
      " (choose from 0, 1, 2, 3)"
  | .missing names => "Error: the following arguments are required: " ++ ", ".intercalate names
  | .unrecognized arguments => "Error: unrecognized arguments: " ++ " ".intercalate arguments
  | .conflictingColors => "The --no-color and --force-color options can't be used together."
  | .informed => ""

/-- What an argument is. -/
inductive Mark where
  | word
  /-- Two dashes, behind which every argument is a word. -/
  | separator
  /-- An option as it is spelled in full, and the value that is given with it. -/
  | option (spelling : String) (flag : Flag) (value : Option String)
  | unknownOption
deriving DecidableEq, Repr

/-- An argument and what it is. -/
structure Argument where
  text : String
  mark : Mark
deriving DecidableEq, Repr

/-- A number with a minus sign, with or without a point. One line feed may follow it. -/
def isNegativeNumber (text : List Char) : Bool :=
  match text with
  | '-' :: rest =>
    match Text.splitFirst '.' (Text.withoutLineEnd rest) with
    | (whole, none) => whole ≠ [] && whole.all Text.isDecimal
    | (whole, some fraction) =>
      whole.all Text.isDecimal && fraction ≠ [] && fraction.all Text.isDecimal
  | _ => false

/-- The options that an argument with two dashes may stand for. -/
def longMatches (argument : List Char) : List (String × Flag × Option String) :=
  let (start, value) := Text.splitFirst '=' argument
  (spellings.filter fun (spelling, _) => start.isPrefixOf spelling.toList).map
    fun (spelling, flag) => (spelling, flag, value.map String.ofList)

/-- The options that an argument with one dash may stand for: one of one letter, with its value
    right behind it, or a longer one that begins so. -/
def shortMatches (argument : List Char) : List (String × Flag × Option String) :=
  spellings.filterMap fun (spelling, flag) =>
    if spelling.toList = argument.take 2 then
      some (spelling, flag, some (String.ofList (argument.drop 2)))
    else if argument.isPrefixOf spelling.toList then some (spelling, flag, none)
    else none

/-- What an argument with a dash in front is. -/
def markDashed (argument : String) : Except Fault Mark :=
  let chars := argument.toList
  let (start, value) := Text.splitFirst '=' chars
  match spellings.lookup argument, spellings.lookup (String.ofList start) with
  | some flag, _ => .ok (.option argument flag none)
  | none, exact =>
    if chars.length = 1 then .ok .word
    else match exact, value with
      | some flag, some value =>
        .ok (.option (String.ofList start) flag (some (String.ofList value)))
      | _, _ =>
        let found := if chars.take 2 = ['-', '-'] then longMatches chars else shortMatches chars
        match found with
        | [(spelling, flag, value)] => .ok (.option spelling flag value)
        | [] =>
          if isNegativeNumber chars || chars.contains ' ' then .ok .word else .ok .unknownOption
        | several => .error (.ambiguous argument (several.map (·.1)))

/-- What an argument is, if the options have not ended. -/
def mark (argument : String) : Except Fault Mark :=
  if argument.toList.head? = some '-' then markDashed argument else .ok .word

/-- What the arguments are. -/
def markAll : List String → Except Fault (List Argument)
  | [] => .ok []
  | argument :: rest =>
    if argument = "--" then .ok (⟨argument, .separator⟩ :: rest.map (⟨·, .word⟩))
    else do
      let first ← mark argument
      return ⟨argument, first⟩ :: (← markAll rest)

/-- What has been read of a command line. -/
structure Reading where
  words : List Json := []
  type : Option Json := none
  noColor : Bool := false
  forceColor : Bool := false
  /-- What stands where nothing is expected. -/
  extras : List String := []
deriving DecidableEq, Repr

/-- The number of words of the command line. -/
def wordCount : Nat := 2

/-- A word with the separators around it, and the arguments behind them. -/
def takeWord? (arguments : List Argument) : Option (List Argument × List Argument) :=
  let front := arguments.takeWhile (·.mark = .separator)
  match arguments.drop front.length with
  | [] => none
  | first :: rest =>
    if first.mark = .word then
      let back := rest.takeWhile (·.mark = .separator)
      some (front ++ first :: back, rest.drop back.length)
    else none

/-- The value among arguments: the one that is left without the first two dashes. If none is left,
    the value is an empty list. -/
def valueOf (arguments : List String) : Json :=
  match arguments.erase "--" with
  | [] => .list []
  | value :: _ => .text value

/-- Takes as many words as are still missing from the front of the arguments. -/
def takeWords : (missing : Nat) → Reading → List Argument → Reading × List Argument
  | 0, reading, arguments => (reading, arguments)
  | missing + 1, reading, arguments =>
    match takeWord? arguments with
    | none => (reading, arguments)
    | some (taken, rest) =>
      takeWords missing
        { reading with words := reading.words ++ [valueOf (taken.map (·.text))] } rest

/-- A use of an option, with the text that is given for its value. -/
abbrev Use := Flag × Option String

/-- The options that the letters behind an option of one letter stand for. Behind the first letter
    that takes a value stands its value. -/
def letterUses (flag : Flag) : List Char → Except Fault (List Use)
  | [] => .error (.ignoresValue flag "")
  | letter :: rest =>
    match spellings.lookup (String.ofList ['-', letter]) with
    | none => .error (.ignoresValue flag (String.ofList (letter :: rest)))
    | some next =>
      if rest = [] then .ok [(flag, none), (next, none)]
      else if next.takesValue then .ok [(flag, none), (next, some (String.ofList rest))]
      else ((flag, none) :: ·) <$> letterUses next rest

/-- The options that an argument uses. -/
def usesOf (spelling : String) (flag : Flag) (value : Option String) : Except Fault (List Use) :=
  match value with
  | none => .ok [(flag, none)]
  | some text =>
    if flag.takesValue then .ok [(flag, some text)]
    else if spelling.toList.take 2 = ['-', '-'] then .error (.ignoresValue flag text)
    else letterUses flag text.toList

/-- The uses of options, in which the last may take the next argument as its value. -/
def withNext : List Use → List Argument → Except Fault (List Use × List Argument)
  | [], rest => .ok ([], rest)
  | [(flag, none)], rest =>
    if flag.takesValue then
      match rest with
      | next :: rest =>
        if next.mark = .word then .ok ([(flag, some next.text)], rest)
        else .error (.expectsValue flag)
      | [] => .error (.expectsValue flag)
    else .ok ([(flag, none)], rest)
  | use :: uses, rest => do
    let (uses, rest) ← withNext uses rest
    return (use :: uses, rest)

/-- The level of a verbosity. Two dashes are no level, and are not checked. -/
def checkLevel (text : String) : Except Fault Unit :=
  if text = "--" then .ok ()
  else match Number.readInteger text with
    | .ok level =>
      if 0 ≤ level ∧ level ≤ 3 then .ok () else .error (.invalidChoice .verbosity level)
    | .error _ => .error (.invalidInteger .verbosity text)

/-- Uses an option. -/
def applyUse (reading : Reading) : Use → Except Fault Reading
  | (.help, _) => .error .informed
  | (.version, _) => .error .informed
  | (.noColor, _) => .ok { reading with noColor := true }
  | (.forceColor, _) => .ok { reading with forceColor := true }
  | (.type, some text) => .ok { reading with type := some (valueOf [text]) }
  | (.verbosity, some text) => (fun _ => reading) <$> checkLevel text
  | _ => .ok reading

/-- Uses the options of an argument, the last of which may take the next argument as its value. -/
def useOption (reading : Reading) (spelling : String) (flag : Flag) (value : Option String)
    (rest : List Argument) : Except Fault (Reading × List Argument) := do
  let (uses, rest) ← withNext (← usesOf spelling flag value) rest
  return (← uses.foldlM applyUse reading, rest)

/-- The argument is an option, known or not. -/
def Argument.isOption (argument : Argument) : Bool :=
  match argument.mark with
  | .option .. => true
  | .unknownOption => true
  | _ => false

/-- Reads arguments to their end. `fuel` is at least their number. -/
def readAll (fuel : Nat) (reading : Reading) (arguments : List Argument) :
    Except Fault Reading := do
  let (reading, rest) := takeWords (wordCount - reading.words.length) reading arguments
  let surplus := rest.takeWhile (!·.isOption)
  let reading := { reading with extras := reading.extras ++ surplus.map (·.text) }
  match fuel, rest.drop surplus.length with
  | _, [] => return reading
  | 0, _ => return reading
  | fuel + 1, option :: rest =>
    match option.mark with
    | .option spelling flag value =>
      let (reading, rest) ← useOption reading spelling flag value rest
      readAll fuel reading rest
    | _ => readAll fuel { reading with extras := reading.extras ++ [option.text] } rest

/-- What a command line asks for. -/
structure Order where
  uniqueId : String
  payload : Json
  /-- The type of the command, if it is given. -/
  type : Option Json
deriving DecidableEq, Repr

/-- Reads a command line. -/
def read (arguments : List String) : Except Fault Order := do
  let marked ← markAll arguments
  let reading ← readAll marked.length {} marked
  match reading.words with
  | [uniqueId, payload] =>
    if reading.extras ≠ [] then throw (.unrecognized reading.extras)
    if reading.noColor && reading.forceColor then throw .conflictingColors
    return ⟨uniqueId.asText.shown, payload, reading.type⟩
  | words => throw (.missing (["unique_id", "data"].drop words.length))

end Telematics.Console
