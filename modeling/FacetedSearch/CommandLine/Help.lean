/-!
What the program says about its own options.

Every option has a line of its own, with the descriptions in one column; a description that is too
long goes on below itself.
-/

namespace FacetedSearch.CommandLine

/-- An option as it is listed: how it is written, and the lines that say what it is for. -/
structure HelpEntry where
  option : List Char
  description : List String
deriving DecidableEq

def purpose : String :=
  "Compile a document search and run it against the Solr core"

def usage : String :=
  "Usage: search-cli [OPTIONS]"

/-- The options in the order in which they are listed. -/
def helpEntries : List HelpEntry :=
  [⟨"      --query <QUERY>".toList, ["Free text search [default: ]"]⟩,
    ⟨"      --text <TEXTS>".toList, ["Text filter, as LABEL=VALUE (matched with \"contains\")"]⟩,
    ⟨"      --facet <FACETS>".toList, ["Facet selection, as FIELD=VALUE"]⟩,
    ⟨"      --page <PAGE>".toList, ["Result page, starting at 1 [default: 1]"]⟩,
    ⟨"      --state <STATE>".toList,
      ["Saved search state, as printed by a previous run; replaces --query, --facet",
        "and --page"]⟩,
    ⟨"      --print-query".toList,
      ["Print the compiled query and exit without contacting the engine"]⟩,
    ⟨"  -h, --help".toList, ["Print help"]⟩]

def descriptionColumn : Nat :=
  24

/-- A text with a description behind it in the column of descriptions. -/
def describe (text : List Char) (description : String) : String :=
  String.ofList (text ++ List.replicate (descriptionColumn - text.length) ' ') ++ description

def HelpEntry.lines (entry : HelpEntry) : List String :=
  match entry.description with
  | [] => [String.ofList entry.option]
  | first :: rest => describe entry.option first :: rest.map (describe [])

def helpLines : List String :=
  [purpose, "", usage, "", "Options:"] ++ helpEntries.flatMap (·.lines)

end FacetedSearch.CommandLine
