import FacetedSearch.CommandLine
import FacetedSearch.CommandLine.Help
import FacetedSearch.Engine
import FacetedSearch.Session

/-!
What the program writes for its arguments.

It compiles the search that the arguments describe and prints the expression alone, or runs it and
prints the filters, the cards and the counts of one page, with a token that brings the same search
back.
-/

namespace FacetedSearch.CommandLine

/-- What the program leaves behind: an exit code, what it printed, and why it gave up. -/
structure Outcome where
  exit : Nat
  printed : String
  failure : Option String
deriving DecidableEq

/-- The outcome for arguments that are not understood. -/
def Outcome.refusal : Outcome :=
  ⟨2, "", none⟩

/-- The facet lists of single values, each appended to the list of its field. -/
def facetLists (pairs : List (String × String)) : FacetLists :=
  pairs.foldl (fun lists pair => lists.set pair.1 ((lists.get? pair.1).getD [] ++ [pair.2])) .empty

/-- The search that the options describe.  A token takes the place of free text, facets and page. -/
def Options.bookmark (options : Options) : Except TokenFault Bookmark :=
  match options.state with
  | some token => Bookmark.ofToken token
  | none => .ok ⟨options.queryText, facetLists options.facets, options.pageNumber⟩

/-- The form with the text filters of the options. -/
def Options.fill (options : Options) (form : Form) : Form :=
  options.texts.foldl (fun form pair => form.setText pair.1 pair.2 .contains) form

/-- The query that the options describe. -/
def Options.searchQuery (options : Options) (registry : Registry) (today : Calendar.Date)
    (bookmark : Bookmark) : Query where
  freeText := bookmark.freeText
  filters := ⟨(options.fill (.ofRegistry registry)).collect registry today⟩
  facets := .ofTable bookmark.facets

/-- The session that the options describe, with its page shown. -/
def Options.session (options : Options) (registry : Registry) (settings : Settings)
    (world : Surroundings) (bookmark : Bookmark) : Session :=
  let session := Session.start registry settings
  { session with form := options.fill session.form }.restoreWithForm world bookmark

def alignRight (width : Nat) (text : List Char) : List Char :=
  List.replicate (width - text.length) ' ' ++ text

def rowNumber (paging : Paging) (card : Card) : UInt64 :=
  paging.offset + card.index + 1

def filterLine (filter : Filter) : String :=
  match filter.operatorLabel? with
  | some operator => "filter: " ++ filter.label ++ " " ++ operator ++ " " ++ filter.display
  | none => "filter: " ++ filter.label ++ " " ++ filter.display

def totalLine (paging : Paging) : String :=
  "total: " ++ Engine.countText paging.total ++ " (page " ++ Engine.countText paging.page ++
    " of " ++ Engine.countText paging.pages ++ ")"

/-- The label of the line of a card that is listed beside its title. -/
def numberLabel : String :=
  "Número do processo"

def cardLine (paging : Paging) (card : Card) : String :=
  String.ofList (alignRight 3 (Decimal.write (rowNumber paging card).toNat)) ++ ". " ++
    card.title ++ " [" ++ (card.line? numberLabel).getD "-" ++ "] " ++ card.pdfUrl

def groupLine (group : FacetGroup) : String :=
  group.label ++ ": " ++ String.intercalate ", " (group.items.map fun item =>
    item.label ++ " (" ++ Engine.countText item.count ++ ")")

def sessionLines (session : Session) : List String :=
  ["query: " ++ session.expression.text] ++
    session.query.filters.filters.map filterLine ++
    [totalLine session.paging] ++
    session.shown.cards.map (cardLine session.paging) ++
    session.facetGroups.map groupLine ++
    ["state: " ++ session.bookmark.token]

def joinLines (lines : List String) : String :=
  String.join (lines.map fun line => line ++ "\n")

/-- What the program does with options that were understood. -/
def Options.run (options : Options) (registry : Registry) (settings : Settings)
    (world : Surroundings) : Outcome :=
  match options.bookmark with
  | .error _ => ⟨1, "", some "Error: invalid --state"⟩
  | .ok bookmark =>
      if options.printQuery then
        let query := options.searchQuery registry world.now.date bookmark
        ⟨0, joinLines [query.compile.text], none⟩
      else
        ⟨0, joinLines (sessionLines (options.session registry settings world bookmark)), none⟩

/-- What the program does with its arguments, the variables around it, the time and the link to the
engine. -/
def run (arguments : List String) (lookup : String → Option String) (now : Calendar.Instant)
    (link : Link) : Outcome :=
  match read arguments with
  | .refused => .refusal
  | .help => ⟨0, joinLines helpLines, none⟩
  | .run options =>
      let settings := Settings.ofLookup lookup
      let registry := Registry.default
      let engine := fun request => (Engine.search settings registry link request).toOption
      options.run registry settings (.still now engine)

end FacetedSearch.CommandLine
