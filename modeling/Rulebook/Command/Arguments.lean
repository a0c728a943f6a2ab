import Rulebook.Settings

/-!
# Arguments

What the words on the command line ask for. There are two commands, `check` and `types`; words
before the command are read by `Level.top`, and words after it by the level of the command. A word
is a switch, a command, or the path of a file to check; after the word `--` no word is a switch.

The words are read from left to right, and the first that settles the matter ends the reading: one
that asks for help, or one that is wrong. `Request.ofWords` is the whole of it.
-/

namespace Rulebook

namespace Command

/-! ## Requests -/

/-- What `check` is asked to do. -/
structure CheckRequest where
  /-- The files to check. -/
  files : List String
  /-- The rule file. -/
  rules : Option String := none
  /-- How results are printed. -/
  format : Option OutputFormat := none
  /-- When they are printed in colours. -/
  color : Option ColorChoice := none
  /-- The settings file. -/
  settings : Option String := none
  /-- Whether fields without a rule are rejected. -/
  closed : Bool := false
  /-- Whether values are converted. -/
  convert : Bool := false
  /-- Whether empty texts count as absent. -/
  widelyUndefined : Bool := false
  /-- Whether scalars are accepted as data. -/
  scalars : Bool := false
deriving DecidableEq

/-- What a command line asks for. -/
inductive Request where
  /-- To check files. -/
  | check (request : CheckRequest)
  /-- To list the types. -/
  | types (format : OutputFormat)
deriving DecidableEq

/-- Why a command line is not carried out. -/
inductive Stop where
  /-- It asks for help, or for the version. -/
  | help
  /-- It makes no sense. -/
  | misused
deriving DecidableEq

/-! ## Switches -/

/-- The switches without a value. -/
inductive Flag where
  | closed
  | convert
  | widelyUndefined
  | scalars
deriving DecidableEq

/-- The switches with a value. -/
inductive Setting where
  | color
  | settings
  | rules
  | format
deriving DecidableEq

/-- Whether a text can be the value of a setting. Paths are not empty. -/
def Setting.accepts : Setting → String → Bool
  | color, value => (ColorChoice.ofName? value).isSome
  | settings, value => !value.isEmpty
  | rules, value => !value.isEmpty
  | format, value => (OutputFormat.ofName? value).isSome

/-- What a switch is about. -/
inductive Switch where
  /-- Help, or the version. -/
  | help
  | flag (flag : Flag)
  | setting (setting : Setting)
deriving DecidableEq

/-- Where a word stands. -/
inductive Level where
  /-- Before the command. -/
  | top
  /-- After `check`. -/
  | check
  /-- After `types`. -/
  | types
deriving DecidableEq

namespace Level

/-- The switch of a name at a level. -/
def ofName? : Level → String → Option Switch
  | _, "help" => some .help
  | _, "color" => some (.setting .color)
  | _, "config" => some (.setting .settings)
  | top, "version" => some .help
  | check, "rules" => some (.setting .rules)
  | check, "closed" => some (.flag .closed)
  | check, "convert" => some (.flag .convert)
  | check, "widely-undefined" => some (.flag .widelyUndefined)
  | check, "no-validate-root" => some (.flag .scalars)
  | check, "format" => some (.setting .format)
  | types, "format" => some (.setting .format)
  | _, _ => none

/-- The switch of a letter at a level. No flag has one. -/
def ofLetter? : Level → Char → Option Switch
  | _, 'h' => some .help
  | top, 'V' => some .help
  | check, 'r' => some (.setting .rules)
  | check, 'f' => some (.setting .format)
  | types, 'f' => some (.setting .format)
  | _, _ => none

end Level

/-! ## Words -/

/-- What one word asks for. -/
inductive Ask where
  /-- Help, or the version. -/
  | help
  | flag (flag : Flag)
  /-- A setting, with its value if the word holds it. -/
  | setting (setting : Setting) (value : Option String)
  /-- Nothing by itself. -/
  | plain (word : String)
  /-- To take all other words as plain ones. -/
  | escape
deriving DecidableEq

/-- The text before the first equals sign, and the one after it if there is one. -/
def splitValue (word : List Char) : String × Option String :=
  (String.ofList (word.takeWhile (· ≠ '=')),
    match word.dropWhile (· ≠ '=') with
    | _ :: value => some (String.ofList value)
    | [] => none)

/-- The value written behind a letter, with or without an equals sign. -/
def letterValue : List Char → Option String
  | [] => none
  | '=' :: value => some (String.ofList value)
  | value => some (String.ofList value)

/-- What a word asks for; nothing if it is no switch of its level and looks like one. -/
def Level.ask? (level : Level) (word : String) : Option Ask :=
  match word.toList with
  | ['-', '-'] => some .escape
  | '-' :: '-' :: rest =>
    let (name, value) := splitValue rest
    match level.ofName? name, value with
    | some .help, none => some .help
    | some (.flag flag), none => some (.flag flag)
    | some (.setting setting), value => some (.setting setting value)
    | _, _ => none
  | '-' :: letter :: rest =>
    match level.ofLetter? letter with
    | some .help => some .help
    | some (.setting setting) => some (.setting setting (letterValue rest))
    | _ => none
  | _ => some (.plain word)

/-- Whether a word cannot be the value of the switch before it. A dash alone can. -/
def looksLikeSwitch (word : String) : Bool :=
  match word.toList with
  | '-' :: _ :: _ => true
  | _ => false

/-! ## Reading -/

/-- What the words of one level have asked for. -/
structure Given where
  flags : List Flag := []
  settings : List (Setting × String) := []
  files : List String := []

namespace Given

/-- Adds a flag, which may be given once. -/
def addFlag (given : Given) (flag : Flag) : Except Stop Given :=
  if given.flags.contains flag then .error .misused
  else .ok { given with flags := flag :: given.flags }

/-- Adds a setting, which may be given once. -/
def addSetting (given : Given) (setting : Setting) (value : String) : Except Stop Given :=
  if given.settings.any (·.1 = setting) || !setting.accepts value then .error .misused
  else .ok { given with settings := (setting, value) :: given.settings }

/-- Adds a plain word. Only `check` takes any. -/
def addWord (given : Given) (level : Level) (word : String) : Except Stop Given :=
  if level ≠ .check ∨ word.isEmpty then .error .misused
  else .ok { given with files := given.files ++ [word] }

/-- The value of a setting. -/
def value? (given : Given) (setting : Setting) : Option String :=
  (given.settings.find? (·.1 = setting)).map (·.2)

/-- Whether a flag is given. -/
def has (given : Given) (flag : Flag) : Bool :=
  given.flags.contains flag

end Given

/-- Reads the words after a command. -/
def Level.read (level : Level) (given : Given) : List String → Except Stop Given
  | [] => .ok given
  | word :: rest =>
    match level.ask? word with
    | none => .error .misused
    | some .help => .error .help
    | some .escape => rest.foldlM (fun given word => given.addWord level word) given
    | some (.plain word) => do level.read (← given.addWord level word) rest
    | some (.flag flag) => do level.read (← given.addFlag flag) rest
    | some (.setting setting (some value)) => do level.read (← given.addSetting setting value) rest
    | some (.setting setting none) =>
      match rest with
      | [] => .error .misused
      | value :: rest =>
        if looksLikeSwitch value then .error .misused
        else do level.read (← given.addSetting setting value) rest

namespace Request

/-- The request for a check. It needs files, and rejecting fields without a rule needs data that
have fields. -/
def ofCheck (outer given : Given) : Except Stop Request :=
  if given.files.isEmpty || (given.has .closed && given.has .scalars) then .error .misused
  else
    let value? := fun setting => given.value? setting <|> outer.value? setting
    .ok (.check {
      files := given.files
      rules := value? .rules
      format := (value? .format).bind OutputFormat.ofName?
      color := (value? .color).bind ColorChoice.ofName?
      settings := value? .settings
      closed := given.has .closed
      convert := given.has .convert
      widelyUndefined := given.has .widelyUndefined
      scalars := given.has .scalars })

/-- The request for the types. -/
def ofTypes (given : Given) : Request :=
  .types (((given.value? .format).bind OutputFormat.ofName?).getD .human)

/-- The request that a command and the words after it make; `outer` is what the words before it
asked for. -/
def ofCommand (outer : Given) (command : String) (rest : List String) : Except Stop Request :=
  match command with
  | "check" => do ofCheck outer (← Level.check.read {} rest)
  | "types" => do return ofTypes (← Level.types.read {} rest)
  | "help" => .error (if rest ∈ [[], ["check"], ["types"], ["help"]] then .help else .misused)
  | _ => .error .misused

end Request

/-- Takes the last value that was written as a word of its own into account. -/
def Given.settle (given : Given) : Option (Setting × String) → Except Stop Given
  | none => .ok given
  | some (setting, value) => given.addSetting setting value

/-- Reads the words up to the command. A value in a word of its own waits until the next switch is
read, or the words after the command: their help is shown whatever the value is. -/
def Level.readTop (given : Given) (waiting : Option (Setting × String)) :
    List String → Except Stop Request
  | [] => .error .misused
  | word :: rest =>
    match top.ask? word with
    | none => .error .misused
    | some .escape => .error .misused
    | some .help => do
      let _ ← given.settle waiting
      .error .help
    | some (.flag _) => .error .misused
    | some (.plain command) =>
      match given.settle waiting with
      | .ok given => Request.ofCommand given command rest
      | .error stop => do
        let _ ← Request.ofCommand given command rest
        .error stop
    | some (.setting setting (some value)) => do
      readTop (← (← given.settle waiting).addSetting setting value) none rest
    | some (.setting setting none) =>
      match rest with
      | [] => .error .misused
      | value :: rest =>
        if looksLikeSwitch value then .error .misused
        else do readTop (← given.settle waiting) (some (setting, value)) rest

/-- The request that a command line makes. -/
def Request.ofWords (words : List String) : Except Stop Request :=
  Level.readTop {} none words

end Command

end Rulebook
