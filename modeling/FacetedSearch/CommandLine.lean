import FacetedSearch.Settings

/-!
The options of the command line.

Every option has a long name.  Its value stands behind an equals sign or in the next argument, which
must not look like an option itself.  Options that are not lists are given at most once, and there
are no other arguments.  Arguments are read from left to right, so of a fault and a call for help
the earlier one counts.
-/

namespace FacetedSearch.CommandLine

/-- What the arguments ask for. -/
structure Options where
  query : Option String
  texts : List (String × String)
  facets : List (String × String)
  page : Option UInt64
  state : Option String
  printQuery : Bool
deriving DecidableEq

def Options.blank : Options :=
  ⟨none, [], [], none, none, false⟩

/-- The free text asked for, which is empty unless it is given. -/
def Options.queryText (options : Options) : String :=
  options.query.getD ""

/-- The page asked for, which is the first one unless it is given. -/
def Options.pageNumber (options : Options) : UInt64 :=
  options.page.getD 1

/-- How the arguments are taken. -/
inductive Invocation where
  | run (options : Options)
  | help
  | refused
deriving DecidableEq

/-- The options that take a value. -/
inductive Setting where
  | query
  | text
  | facet
  | page
  | state
deriving DecidableEq

/-- The long names of the options that take a value. -/
def settingNames : List (String × Setting) :=
  [("query", .query), ("text", .text), ("facet", .facet), ("page", .page), ("state", .state)]

/-- The part of a text before the first equals sign and the part behind it. -/
def splitEquals? (text : List Char) : Option (List Char × List Char) :=
  match text.dropWhile (· != '=') with
  | _ :: value => some (text.takeWhile (· != '='), value)
  | [] => none

/-- A key and a value with an equals sign between them; blanks around the key do not count. -/
def readPair? (text : String) : Option (String × String) :=
  (splitEquals? text.toList).map fun (key, value) =>
    (String.ofList (Text.trim key), String.ofList value)

def setOnce {Value : Type} (before : Option Value) (value : Value) : Option (Option Value) :=
  match before with
  | some _ => none
  | none => some (some value)

def Options.set? (options : Options) (setting : Setting) (value : String) : Option Options :=
  match setting with
  | .query => (setOnce options.query value).map fun query => { options with query }
  | .text => (readPair? value).map fun pair => { options with texts := options.texts ++ [pair] }
  | .facet => (readPair? value).map fun pair => { options with facets := options.facets ++ [pair] }
  | .page => do
      let page ← readWord? value.toList
      let page ← setOnce options.page page
      return { options with page }
  | .state => (setOnce options.state value).map fun state => { options with state }

/-- Whether an argument looks like an option, and so cannot be the value of one. -/
def looksLikeOption (argument : String) : Bool :=
  match argument.toList with
  | '-' :: _ :: _ => true
  | _ => false

/-- How an argument reads on its own. -/
inductive Argument where
  /-- A long option, with the value attached to it. -/
  | long (name : String) (attached : Option String)
  /-- A short option. -/
  | short (letter : Char)
  /-- The mark behind which no options follow. -/
  | endOfOptions
  /-- Anything else. -/
  | other
deriving DecidableEq

def Argument.read (text : String) : Argument :=
  match text.toList with
  | ['-', '-'] => .endOfOptions
  | '-' :: '-' :: rest =>
      match splitEquals? rest with
      | some (name, value) => .long (String.ofList name) (some (String.ofList value))
      | none => .long (String.ofList rest) none
  | '-' :: letter :: _ => .short letter
  | _ => .other

/-- Reads the arguments that follow those already taken. -/
def readArguments (options : Options) : List String → Invocation
  | [] => .run options
  | argument :: rest =>
      match Argument.read argument with
      | .long "help" none => .help
      | .short 'h' => .help
      | .long "print-query" none =>
          if options.printQuery then .refused
          else readArguments { options with printQuery := true } rest
      | .long name attached =>
          match settingNames.lookup name, attached, rest with
          | some setting, some value, rest =>
              match options.set? setting value with
              | some options => readArguments options rest
              | none => .refused
          | some setting, none, value :: rest =>
              if looksLikeOption value then .refused
              else
                match options.set? setting value with
                | some options => readArguments options rest
                | none => .refused
          | _, _, _ => .refused
      | .endOfOptions => if rest.isEmpty then .run options else .refused
      | _ => .refused

def read (arguments : List String) : Invocation :=
  readArguments .blank arguments

end FacetedSearch.CommandLine
