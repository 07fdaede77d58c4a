/-
  The arguments of the command: which options there are, and how a list of words is read as options
  and files.  Options and files may be mixed; after a double dash everything is a file.

  Words are read as click 8.5.1 reads them.  What it reports of a wrong word is given without its
  guess at the option that was meant.
-/

namespace HeaderBindings.CommandLine

/-- Options without a value. -/
inductive Flag where
  | version | stdout | listBackends | verbose | debug | noDebug | help
  deriving DecidableEq, Repr

/-- Options with a value. -/
inductive Setting where
  | modulePrefix | compiler | preprocessorWords | includeDirectory | definition | outputDirectory | backend
  deriving DecidableEq, Repr

inductive OptionKind where
  | flag (f : Flag)
  | setting (s : Setting)
  deriving DecidableEq, Repr

/-- The option with this long name. -/
def longOption? : String → Option OptionKind
  | "--version" => some (.flag .version)
  | "--prefix" => some (.setting .modulePrefix)
  | "--gcc" => some (.setting .compiler)
  | "--cppopts" => some (.setting .preprocessorWords)
  | "--include-dir" => some (.setting .includeDirectory)
  | "--define" => some (.setting .definition)
  | "--output-dir" => some (.setting .outputDirectory)
  | "--stdout" => some (.flag .stdout)
  | "--backend" => some (.setting .backend)
  | "--list-backends" => some (.flag .listBackends)
  | "--verbose" => some (.flag .verbose)
  | "--debug" => some (.flag .debug)
  | "--no-debug" => some (.flag .noDebug)
  | "--help" => some (.flag .help)
  | _ => none

/-- The option with this letter. -/
def shortOption? : Char → Option OptionKind
  | 'I' => some (.setting .includeDirectory)
  | 'D' => some (.setting .definition)
  | 'o' => some (.setting .outputDirectory)
  | 'b' => some (.setting .backend)
  | 'v' => some (.flag .verbose)
  | 'h' => some (.flag .help)
  | _ => none

/-- An option as it is given. -/
inductive Given where
  | flag (f : Flag)
  | setting (s : Setting) (value : String)
  deriving DecidableEq, Repr

/-- The options in the order they are given, and the files. -/
structure Arguments where
  given : List Given := []
  files : List String := []
  deriving DecidableEq, Repr

/-- What is wrong with the words themselves. -/
inductive ArgumentFault where
  | noSuchOption (name : String)
  | missingValue (name : String)
  | unwantedValue (name : String)
  deriving DecidableEq, Repr

namespace Arguments

def addFlag (a : Arguments) (f : Flag) : Arguments := { a with given := a.given ++ [.flag f] }

def addSetting (a : Arguments) (s : Setting) (value : String) : Arguments :=
  { a with given := a.given ++ [.setting s value] }

def addFiles (a : Arguments) (files : List String) : Arguments :=
  { a with files := a.files ++ files }

/-! ## Reading words -/

/-- A setting that waits for its value, and the name it was given by. -/
abbrev Pending := Option (Setting × String)

/-- Reads letters behind one dash.  What follows the letter of a setting is its value, unless nothing
follows. -/
def readLetters (a : Arguments) : List Char → Except ArgumentFault (Arguments × Pending)
  | [] => .ok (a, none)
  | c :: cs =>
    let name := "-" ++ String.ofList [c]
    match shortOption? c with
    | none => .error (.noSuchOption name)
    | some (.flag f) => readLetters (a.addFlag f) cs
    | some (.setting s) =>
      if cs.isEmpty then .ok (a, some (s, name)) else .ok (a.addSetting s (String.ofList cs), none)

/-- Reads a word that starts with a dash.  A long name may be followed by a value behind an equals
sign; any other word with one dash is made of letters. -/
def readOption (a : Arguments) (word : List Char) : Except ArgumentFault (Arguments × Pending) :=
  let name := String.ofList (word.takeWhile (· ≠ '='))
  let value := (word.dropWhile (· ≠ '=')).tail?.map String.ofList
  match longOption? name, value with
  | some (.flag f), none => .ok (a.addFlag f, none)
  | some (.flag _), some _ => .error (.unwantedValue name)
  | some (.setting s), none => .ok (a, some (s, name))
  | some (.setting s), some value => .ok (a.addSetting s value, none)
  | none, _ =>
    match word with
    | '-' :: '-' :: _ => .error (.noSuchOption name)
    | _ => readLetters a word.tail

/-- A word that starts with a dash and holds more than it is an option. -/
def isOption (word : String) : Bool :=
  match word.toList with
  | '-' :: _ :: _ => true
  | _ => false

def readFrom (a : Arguments) : Pending → List String → Except ArgumentFault Arguments
  | none, [] => .ok a
  | some (_, name), [] => .error (.missingValue name)
  | some (s, _), word :: rest => readFrom (a.addSetting s word) none rest
  | none, word :: rest =>
    if word = "--" then .ok (a.addFiles rest)
    else if isOption word then
      match readOption a word.toList with
      | .ok (next, pending) => readFrom next pending rest
      | .error fault => .error fault
    else readFrom (a.addFiles [word]) none rest

/-- The arguments that words stand for. -/
def read (words : List String) : Except ArgumentFault Arguments := readFrom {} none words

/-! ## What is asked for -/

def has (a : Arguments) (f : Flag) : Bool := a.given.contains (.flag f)

/-- The values of a setting in the order they are given. -/
def values (a : Arguments) (s : Setting) : List String :=
  a.given.filterMap fun
    | .setting t value => if t = s then some value else none
    | .flag _ => none

/-- The last value of a setting. -/
def value? (a : Arguments) (s : Setting) : Option String := (a.values s).getLast?

/-- The last of the two opposite flags decides. -/
def isDebug (a : Arguments) : Bool :=
  (a.given.filter fun g => g = .flag .debug ∨ g = .flag .noDebug).getLast? = some (.flag .debug)

def modulePrefix (a : Arguments) : String := (a.value? .modulePrefix).getD ""

/-- The compiler or preprocessor to run. -/
def compiler (a : Arguments) : String := ((a.value? .compiler).filter (· ≠ "")).getD "gcc"

def outputDirectory (a : Arguments) : String := (a.value? .outputDirectory).getD "."

end Arguments

end HeaderBindings.CommandLine
