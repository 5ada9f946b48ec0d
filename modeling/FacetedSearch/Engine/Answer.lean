import FacetedSearch.Calendar.Timestamp
import FacetedSearch.Engine.Reply
import FacetedSearch.Response
import FacetedSearch.Text

/-!
What is shown of a reply: cards of stored documents, and facet counts.

A stored field is flattened to one line of text.  Fields that come out blank are left out of the
card, and fields that hold times are shown day first.  A document without a title of its own is
titled by its type, and one without a type gets a placeholder.

The flat list of a counted field is taken in pairs of a value and its count.  A pair counts when its
value is a text or a number and its count is a natural number above zero; any other pair is dropped
on its own, and so is a value at the end without a count.
-/

namespace FacetedSearch

/-! ## Cards -/

def joinFilled (texts : List String) : String :=
  String.intercalate ", " (texts.filter fun text => !text.isEmpty)

mutual

/-- A stored value as one line: nothing for null, a text as it is, a list joined, and anything else
as it is written. -/
def JsonValue.flatten : JsonValue → String
  | .null => ""
  | .string text => text
  | .array items => joinFilled (flattenItems items)
  | value => value.text

def flattenItems : List JsonValue → List String
  | [] => []
  | item :: items => item.flatten :: flattenItems items

end

/-- The line of a stored field, unless it is missing or blank. -/
def StoredDocument.line? (document : StoredDocument) (field : String) : Option String := do
  let value ← document.lookup field
  let line := value.flatten
  if (Text.trim line.toList).isEmpty then none else some line

namespace Card

def untitled : String :=
  "Documento sem título"

def noAddress : String :=
  "#"

/-- The labels of a card in order, with the stored fields behind them. -/
def labels : List (String × String) :=
  [("Número do processo", "processo_s"),
    ("Data anexação", "dt_anexacao_tdt"),
    ("Data protocolo", "dt_protocolo_tdt"),
    ("Data juntada", "dt_juntada_tdt"),
    ("Unidade origem", "unidade_origem_s"),
    ("Equipe origem", "equipe_origem_s"),
    ("Tipo documento", "tipo_documento_s"),
    ("Grupo processo", "grupo_processo_s"),
    ("Tipo processo", "tipo_processo_s"),
    ("Subtipo processo", "subtipo_processo_s"),
    ("NI do Contribuinte", "ni_contribuinte_s"),
    ("Nome do Contribuinte", "nome_contribuinte_s"),
    ("Nome Equipe Atual", "nome_equipe_atual_s"),
    ("Nome Unidade Atual", "nome_unidade_atual_s"),
    ("CPF Responsável", "cpf_responsavel_s"),
    ("Nome usuário juntada", "nome_usuario_juntada_doc_s"),
    ("Tributo ACT", "tributo_act_s"),
    ("Trecho", "trecho_txt")]

/-- The ending of the names of fields that hold times. -/
def timeEnding : List Char :=
  "_tdt".toList

def holdsTime (field : String) : Bool :=
  timeEnding.isSuffixOf field.toList

def line (document : StoredDocument) (label field : String) : Option CardLine := do
  let value ← document.line? field
  return { label, value := if holdsTime field then Calendar.displayTimestamp value else value }

/-- The card of a stored document at a position within its page. -/
def ofStored (document : StoredDocument) (index : UInt64) : Card where
  title := ((document.line? "titulo_s").or (document.line? "tipo_documento_s")).getD untitled
  pdfUrl := (document.line? "url_pdf_s").getD noAddress
  pdfUrlBlank := (document.line? "url_pdf_blank_s").getD noAddress
  lines := labels.filterMap fun (label, field) => line document label field
  index := index

/-- The cards of stored documents, the first of which has a given position. -/
def ofStoredFrom (index : UInt64) : List StoredDocument → List Card
  | [] => []
  | document :: documents => ofStored document index :: ofStoredFrom (index + 1) documents

end Card

/-! ## Facet counts -/

def JsonValue.facetText? : JsonValue → Option String
  | .string text => some text
  | .number value => some (JsonValue.number value).text
  | _ => none

/-- The count of a pair, if the pair counts. -/
def FacetCount.ofPair? (value count : JsonValue) : Option FacetCount := do
  let text ← value.facetText?
  let number ← count.natural?
  if number = 0 then none else some (.ofValue text number)

/-- The counts of a flat list, in order. -/
def FacetCount.ofFlat : List JsonValue → List FacetCount
  | value :: count :: rest => (ofPair? value count).toList ++ ofFlat rest
  | _ => []

/-- The counts of all fields of a reply, in order; without counts there are no fields. -/
def FacetCounts.ofReply : Option ReplyCounts → FacetCounts
  | some counts => counts.fields.map FacetCount.ofFlat
  | none => .empty

end FacetedSearch
