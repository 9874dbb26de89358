import ChatPortal.Json.Decoder

/-!
# Schemas

The portal offers schemas to chat about.  A `SchemaOption` names one in the list, a
`SchemaDetail` holds the texts that belong to it; a text that is left out is empty.
-/

namespace ChatPortal.Portal

/-- An entry of the list of schemas. -/
structure SchemaOption where
  schema : String
  title : String
deriving DecidableEq, Repr, Inhabited

namespace SchemaOption

/-- An entry in JSON. -/
def decoder : Json.Decoder SchemaOption :=
  .record "SchemaOption" ⟨"", ""⟩
    [ .needed "schema" .string fun schema o => { o with schema },
      .needed "title" .string fun title o => { o with title } ]

/-- The JSON of an entry. -/
def toJson (option : SchemaOption) : Json :=
  .object [("schema", .string option.schema), ("title", .string option.title)]

end SchemaOption

/-- The texts that belong to a schema. -/
structure SchemaDetail where
  name : String := ""
  title : String := ""
  welcome : String := ""
  subservice : String := ""
  option : String := ""
  am : String := ""
  pm : String := ""
  cancel : String := ""
  cancelInfo : String := ""
  cancelSuccess : String := ""
  back : String := ""
  backInfo : String := ""
  backSuccess : String := ""
  other : String := ""
  unknown : String := ""
  error : String := ""
deriving DecidableEq, Repr, Inhabited

namespace SchemaDetail

/-- A text that may be left out. -/
def text (name : String) (put : String → SchemaDetail → SchemaDetail) :
    Json.Field SchemaDetail :=
  .optional name .string put

/-- The fields of the texts; the one for what is not understood has two spellings. -/
def fields : List (Json.Field SchemaDetail) :=
  [ text "name" fun name d => { d with name },
    text "title" fun title d => { d with title },
    text "welcome" fun welcome d => { d with welcome },
    text "subservice" fun subservice d => { d with subservice },
    text "option" fun option d => { d with option },
    text "am" fun am d => { d with am },
    text "pm" fun pm d => { d with pm },
    text "cancel" fun cancel d => { d with cancel },
    text "cancel_info" fun cancelInfo d => { d with cancelInfo },
    text "cancel_success" fun cancelSuccess d => { d with cancelSuccess },
    text "back" fun back d => { d with back },
    text "back_info" fun backInfo d => { d with backInfo },
    text "back_success" fun backSuccess d => { d with backSuccess },
    text "other" fun other d => { d with other },
    { text "unkown" fun unknown d => { d with unknown } with aliases := ["unknown"] },
    text "error" fun error d => { d with error } ]

/-- The texts in JSON. -/
def decoder : Json.Decoder SchemaDetail := .record "SchemaDetail" {} fields

/-- The JSON of the texts. -/
def toJson (detail : SchemaDetail) : Json :=
  .object
    [ ("name", .string detail.name), ("title", .string detail.title),
      ("welcome", .string detail.welcome), ("subservice", .string detail.subservice),
      ("option", .string detail.option), ("am", .string detail.am),
      ("pm", .string detail.pm), ("cancel", .string detail.cancel),
      ("cancel_info", .string detail.cancelInfo),
      ("cancel_success", .string detail.cancelSuccess), ("back", .string detail.back),
      ("back_info", .string detail.backInfo), ("back_success", .string detail.backSuccess),
      ("other", .string detail.other), ("unkown", .string detail.unknown),
      ("error", .string detail.error) ]

end SchemaDetail

end ChatPortal.Portal
