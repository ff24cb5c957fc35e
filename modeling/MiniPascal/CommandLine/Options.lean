/-!
# Command-line arguments

The program takes one path and some options. An option is long (`--find`) or short (`-f`); short
ones may be joined (`-st`). Each may be given once. `Options.ofArgs?` reads the arguments and has no
answer for those that cannot be meant.
-/

namespace MiniPascal

/-- What the user asks for. -/
structure Options where
  path : String
  verbose : Bool
  timing : Bool
  showTree : Bool
  stats : Bool
  find : Option String
  deriving DecidableEq

namespace Options

/-- The options of the command line. -/
inductive Name where
  | verbose | timing | showTree | stats | find
  deriving DecidableEq

namespace Name

/-- The option with a long name. -/
def ofLong? : String → Option Name
  | "verbose" => some .verbose
  | "timing" => some .timing
  | "show-ast" => some .showTree
  | "stats" => some .stats
  | "find" => some .find
  | _ => none

/-- The option with a short name. -/
def ofShort? : Char → Option Name
  | 'v' => some .verbose
  | 't' => some .timing
  | 's' => some .stats
  | 'f' => some .find
  | _ => none

end Name

/-- The arguments read so far. -/
structure Draft where
  path : Option String
  given : List Name
  find : Option String

namespace Draft

/-- Nothing has been read. -/
def empty : Draft := ⟨none, [], none⟩

/-- Notes the path; there is only one, and it is not empty. -/
def setPath (d : Draft) (path : String) : Option Draft :=
  if d.path.isSome || path.isEmpty then none else some { d with path := some path }

/-- Notes an option that takes no value. -/
def setFlag (d : Draft) (name : Name) : Option Draft :=
  if name == .find || d.given.contains name then none
  else some { d with given := name :: d.given }

/-- Notes what to search for. -/
def setFind (d : Draft) (pattern : String) : Option Draft :=
  if d.given.contains .find then none
  else some { d with given := .find :: d.given, find := some pattern }

/-- The options, if there is a path. -/
def finish (d : Draft) : Option Options :=
  d.path.map fun path =>
    ⟨path, d.given.contains .verbose, d.given.contains .timing, d.given.contains .showTree,
      d.given.contains .stats, d.find⟩

/-- Notes joined short options. The first that takes a value ends them: its value is the rest, after
an equals sign if there is one, or else the next argument, and then the second result is true. -/
def short (d : Draft) : List Char → Option (Draft × Bool)
  | [] => some (d, false)
  | c :: rest =>
    match Name.ofShort? c with
    | none => none
    | some .find =>
      match rest with
      | [] => some (d, true)
      | '=' :: value => (d.setFind (String.ofList value)).map (·, false)
      | value => (d.setFind (String.ofList value)).map (·, false)
    | some name =>
      match d.setFlag name with
      | some d => d.short rest
      | none => none

/-- Notes a long option, with its value after an equals sign if there is one; the second result is
true if the value is the next argument. -/
def long (d : Draft) (text : List Char) : Option (Draft × Bool) :=
  let name := text.takeWhile (· != '=')
  match Name.ofLong? (String.ofList name), text.drop name.length with
  | some .find, [] => some (d, true)
  | some .find, _ :: value => (d.setFind (String.ofList value)).map (·, false)
  | some name, [] => (d.setFlag name).map (·, false)
  | _, _ => none

end Draft

/-- An argument that is not an option; a lone hyphen is none. -/
def isPlain (arg : String) : Bool :=
  match arg.toList with
  | '-' :: _ :: _ => false
  | _ => true

/-- Reads arguments. After two lone hyphens there are no options any more. -/
def read : (onlyPaths : Bool) → Draft → List String → Option Draft
  | _, d, [] => some d
  | true, d, arg :: rest =>
    match d.setPath arg with
    | some d => read true d rest
    | none => none
  | false, d, arg :: rest =>
    let option : Option (Draft × Bool) := match arg.toList with
      | '-' :: '-' :: text => d.long text
      | '-' :: c :: text => d.short (c :: text)
      | _ => (d.setPath arg).map (·, false)
    if arg == "--" then read true d rest
    else
      match option, rest with
      | none, _ => none
      | some (d, false), rest => read false d rest
      | some (_, true), [] => none
      | some (d, true), value :: rest =>
        if isPlain value then
          match d.setFind value with
          | some d => read false d rest
          | none => none
        else none

/-- The options that the arguments ask for. -/
def ofArgs? (args : List String) : Option Options :=
  (read false .empty args).bind Draft.finish

end Options

end MiniPascal
