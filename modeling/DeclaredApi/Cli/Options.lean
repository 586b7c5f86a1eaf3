/-
  Options among the arguments of a command line.

  An argument is an option when it starts with a dash and is
  no lone dash; `--` ends the options.  A long option takes
  its value after an equals sign or from the next argument.
  Short options may share one dash; one that takes a value
  takes the rest of its argument, or the next argument.  An
  option takes the next argument whatever it looks like.

  Key definitions include:
    * `CliOption`
    * `CliOption.Opening`
    * `CliOption.opening`
    * `CliArguments`
    * `CliArguments.read`
    * `CliArguments.value?`
-/

------------------------------------------------------------
-- Options
------------------------------------------------------------

namespace DeclaredApi

/- An option with its spellings, known by a key. -/
structure CliOption (κ : Type) where
  key : κ
  long : String
  short : Option Char := none
  takesValue : Bool := false

namespace CliOption

/- An option that was given, with its value if it has one. -/
abbrev Given (κ : Type) :=
  κ × String

/- What one argument is. -/
inductive Opening (κ : Type) where
| positional
| endOfOptions
| complete (given : List (Given κ))
| awaiting (given : List (Given κ)) (key : κ)
| unknown

end CliOption

end DeclaredApi

------------------------------------------------------------
-- One Argument
------------------------------------------------------------

namespace DeclaredApi

namespace CliOption

variable {κ : Type}

/- The options that share one dash. -/
def cluster
    (options : List (CliOption κ))
    (given : List (Given κ)) : List Char → Opening κ
| [] => .complete given
| c :: rest =>
    match options.find? (fun o => o.short = some c) with
    | none => .unknown
    | some o =>
        if !o.takesValue then
          cluster options (given ++ [(o.key, "")]) rest
        else if rest.isEmpty then
          .awaiting given o.key
        else
          .complete (given ++ [(o.key, String.ofList rest)])

/- The text before the first equals sign, and that after it. -/
def splitAtEquals (chars : List Char) :
    String × Option String :=
  let name := String.ofList (chars.takeWhile (· != '='))
  match chars.dropWhile (· != '=') with
  | [] => (name, none)
  | _ :: value => (name, some (String.ofList value))

/- An option by its long name, with an attached value. -/
def spelledOut
    (o : CliOption κ)
    (attached : Option String) : Opening κ :=
  match o.takesValue, attached with
  | true, some value => .complete [(o.key, value)]
  | true, none => .awaiting [] o.key
  | false, some _ => .unknown
  | false, none => .complete [(o.key, "")]

/- What an argument is, with the options of a command. -/
def opening
    (options : List (CliOption κ))
    (argument : String) : Opening κ :=
  match argument.toList with
  | ['-', '-'] => .endOfOptions
  | '-' :: c :: rest =>
      let (name, attached) := splitAtEquals ('-' :: c :: rest)
      match options.find? (fun o => o.long = name) with
      | some o => spelledOut o attached
      | none =>
          if c = '-' then
            .unknown
          else
            cluster options [] (c :: rest)
  | _ => .positional

end CliOption

end DeclaredApi

------------------------------------------------------------
-- All Arguments
------------------------------------------------------------

namespace DeclaredApi

/- The options that were given, and the other arguments. -/
structure CliArguments (κ : Type) where
  given : List (CliOption.Given κ) := []
  positional : List String := []

namespace CliArguments

variable {κ : Type}

/- Put options before those that were given. -/
def withOptions
    (given : List (CliOption.Given κ))
    (rest : CliArguments κ) : CliArguments κ :=
  { rest with given := given ++ rest.given }

/- Put a positional argument before the others. -/
def withPositional
    (argument : String)
    (rest : CliArguments κ) : CliArguments κ :=
  { rest with positional := argument :: rest.positional }

/-
  Read the arguments of a command.  Unless options may be
  mixed with other arguments, the first of those ends them.
-/
def read
    (options : List (CliOption κ))
    (mixed : Bool) :
    List String → Option (CliArguments κ)
| [] => some {}
| argument :: rest =>
    match CliOption.opening options argument with
    | .unknown => none
    | .endOfOptions => some { positional := rest }
    | .positional =>
        if mixed then
          (read options mixed rest).map (withPositional argument)
        else
          some { positional := argument :: rest }
    | .complete given =>
        (read options mixed rest).map (withOptions given)
    | .awaiting given key =>
        match rest with
        | [] => none
        | value :: others =>
            (read options mixed others).map
              (withOptions (given ++ [(key, value)]))

/- The value of an option that was given; the last counts. -/
def value?
    [DecidableEq κ]
    (arguments : CliArguments κ)
    (key : κ) : Option String :=
  arguments.given.reverse.lookup key

/- An option was given. -/
def has
    [DecidableEq κ]
    (arguments : CliArguments κ)
    (key : κ) : Bool :=
  (arguments.value? key).isSome

end CliArguments

end DeclaredApi
