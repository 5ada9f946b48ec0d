import FacetedSearch.Registry

/-!
The fields of the document collection that the program searches unless it is given others.
-/

namespace FacetedSearch

def textFields : List (String × String) :=
  [("Grupo Processo", "grupo_processo_s"),
    ("Tipo Processo", "tipo_processo_s"),
    ("Subtipo Processo", "subtipo_processo_s"),
    ("Nr Processo", "processo_s"),
    ("Situação do Documento", "situacao_s"),
    ("Assuntos/Objetos", "assuntos_objetos_s"),
    ("Tipo do Documento", "tipo_documento_s"),
    ("Título Documento", "titulo_s"),
    ("Nr Doc Principal", "numero_doc_principal_exp_s"),
    ("Tributo ACT", "tributo_act_s"),
    ("Unidade de Origem do Documento", "unidade_origem_s"),
    ("Equipe de Origem do Documento", "equipe_origem_s"),
    ("Unidade Atual", "nome_unidade_atual_s"),
    ("Equipe Atual", "nome_equipe_atual_s"),
    ("NI Contribuinte", "ni_contribuinte_s"),
    ("Nome do Contribuinte", "nome_contribuinte_s"),
    ("CPF Responsável", "cpf_responsavel_s"),
    ("Nome Usuário Juntada", "nome_usuario_juntada_doc_s"),
    ("Nome Relator DRJ", "nome_relator_drj_s"),
    ("Alegações no Recurso", "aleg_recurso_contrib_txt"),
    ("Result Julgamento DRJ nível 1", "result_questdrj_nivel1_s"),
    ("Result Julgamento DRJ nível 2", "result_questdrj_nivel2_s")]

def dateFields : List (String × String) :=
  [("Protocolo", "dt_protocolo_tdt"),
    ("Juntada", "dt_juntada_tdt"),
    ("Registro", "dt_registro_tdt"),
    ("Anexação", "dt_anexacao_tdt")]

def valueLabel : String :=
  "Valor"

def numericFields : List (String × String) :=
  [(valueLabel, "valor_processo_d")]

/-- The fields whose values are counted, in the order in which their counts are shown. -/
def facetFields : List Facet :=
  [⟨"tipo_documento_s", "Tipo de Documento"⟩,
    ⟨"grupo_processo_s", "Grupo de Processo"⟩,
    ⟨"unidade_origem_s", "Unidade"⟩,
    ⟨"tributo_act_s", "Tributo"⟩,
    ⟨"situacao_s", "Situação"⟩,
    ⟨"tipo_processo_s", "Tipo de Processo"⟩]

/-- The fields of one kind for a list of labels and engine fields. -/
def fieldsOfKind (kind : FieldKind) (pairs : List (String × String)) : List Field :=
  pairs.map fun pair => ⟨pair.1, pair.2, kind⟩

def Registry.default : Registry :=
  Registry.of (fieldsOfKind .text textFields ++ fieldsOfKind .date dateFields ++
    fieldsOfKind .numeric numericFields) facetFields

end FacetedSearch
