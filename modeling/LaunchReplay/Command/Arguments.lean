import LaunchReplay.FileTree.Path
import LaunchReplay.Text.Numeral

/-!
# Command-line arguments

Words, flags and settings. A flag or setting may be given once; a setting has its value attached or
in the next argument; after two dashes all arguments are words.
-/

namespace LaunchReplay

open Text

/-- An argument that is either given or not. -/
inductive CommandFlag
  | verbose
  | skipReplay
  | validate
  | svm
  | json
deriving DecidableEq, Repr

/-- An argument with a value. -/
inductive CommandSetting
  | directory
  | repetitions
  | backend
  | testDirectory
  | postDirectory
deriving DecidableEq, Repr

/-- What an argument name stands for. -/
inductive CommandOption
  | flag (flag : CommandFlag)
  | setting (setting : CommandSetting)
deriving DecidableEq, Repr

namespace CommandOption

/-- The long names, which follow two dashes. -/
def longNames : List (String × CommandOption) :=
  [("verbose", .flag .verbose), ("skip-replay", .flag .skipReplay), ("validate", .flag .validate),
   ("svm", .flag .svm), ("json", .flag .json), ("dir", .setting .directory),
   ("repetitions", .setting .repetitions), ("backend", .setting .backend),
   ("test-dir", .setting .testDirectory), ("post-dir", .setting .postDirectory)]

/-- The short names, which follow one dash and may be joined. -/
def shortNames : List (Char × CommandOption) :=
  [('v', .flag .verbose), ('r', .setting .repetitions)]

end CommandOption

/-- The arguments that were given, apart from their order. -/
structure GivenArguments where
  /-- Flags. -/
  flags : List CommandFlag
  /-- Settings with their values. -/
  settings : List (CommandSetting × String)
  /-- Words. -/
  words : List String
deriving DecidableEq, Repr

namespace GivenArguments

/-- No arguments. -/
def empty : GivenArguments := ⟨[], [], []⟩

/-- Adds a flag that has not been given. -/
def addFlag (given : GivenArguments) (flag : CommandFlag) : Option GivenArguments :=
  if given.flags.contains flag then none else some { given with flags := flag :: given.flags }

/-- Adds a setting that has not been given. -/
def addSetting (given : GivenArguments) (setting : CommandSetting) (value : String) :
    Option GivenArguments :=
  if (given.settings.lookup setting).isSome then none
  else some { given with settings := (setting, value) :: given.settings }

/-- Adds words. -/
def addWords (given : GivenArguments) (words : List String) : GivenArguments :=
  { given with words := given.words ++ words }

/-- Whether a flag was given. -/
def has (given : GivenArguments) (flag : CommandFlag) : Bool :=
  given.flags.contains flag

/-- The value of a setting, if it was given. -/
def value? (given : GivenArguments) (setting : CommandSetting) : Option String :=
  given.settings.lookup setting

end GivenArguments

/-- What one argument turns out to be. -/
inductive ArgumentShape
  /-- A word. -/
  | word
  /-- Two dashes, after which only words follow. -/
  | onlyWords
  /-- Flags, and after them perhaps a setting with its value, if that is attached. -/
  | options (flags : List CommandFlag) (setting : Option (CommandSetting × Option String))
  /-- An argument that is not understood. -/
  | unknown
deriving DecidableEq, Repr

namespace ArgumentShape

/-- The shape of an argument of two dashes and a name, perhaps with a value after an equals sign. -/
def ofLong (body : List Char) : ArgumentShape :=
  let name := String.ofList (body.takeWhile (· != '='))
  let attached :=
    match body.dropWhile (· != '=') with
    | [] => none
    | _ :: value => some (String.ofList value)
  match CommandOption.longNames.lookup name, attached with
  | some (.flag flag), none => .options [flag] none
  | some (.setting setting), attached => .options [] (some (setting, attached))
  | _, _ => .unknown

/-- The value that is attached to a short name, without an equals sign before it. -/
def attachedValue : List Char → Option String
  | [] => none
  | '=' :: value => some (String.ofList value)
  | value => some (String.ofList value)

/-- The shape of an argument of one dash and short names, after some flags. -/
def ofShort (flags : List CommandFlag) : List Char → ArgumentShape
  | [] => .options flags none
  | letter :: rest =>
    match CommandOption.shortNames.lookup letter with
    | some (.flag flag) => ofShort (flags ++ [flag]) rest
    | some (.setting setting) => .options flags (some (setting, attachedValue rest))
    | none => .unknown

/-- The shape of an argument. -/
def ofArgument (argument : String) : ArgumentShape :=
  match argument.toList with
  | ['-', '-'] => .onlyWords
  | '-' :: '-' :: body => ofLong body
  | '-' :: letter :: rest => ofShort [] (letter :: rest)
  | _ => .word

/-- Whether an argument can be the value of the setting before it. -/
def isValue (argument : String) : Bool :=
  match ofArgument argument with
  | .word => true
  | _ => false

end ArgumentShape

namespace GivenArguments

/-- Takes in arguments one after another, up to one that is not understood or given twice. -/
def take? (given : GivenArguments) : List String → Option GivenArguments
  | [] => some given
  | argument :: rest =>
    match ArgumentShape.ofArgument argument with
    | .word => take? (given.addWords [argument]) rest
    | .onlyWords => some (given.addWords rest)
    | .unknown => none
    | .options flags setting =>
      match flags.foldlM addFlag given, setting with
      | none, _ => none
      | some given, none => take? given rest
      | some given, some (setting, some value) =>
        match given.addSetting setting value with
        | some given => take? given rest
        | none => none
      | some given, some (setting, none) =>
        match rest with
        | [] => none
        | value :: rest =>
          if ArgumentShape.isValue value then
            match given.addSetting setting value with
            | some given => take? given rest
            | none => none
          else none

end GivenArguments

end LaunchReplay
