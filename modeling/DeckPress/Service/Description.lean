import DeckPress.Service.Order
import DeckPress.Text.TitleCase
import DeckPress.Text.WordChar

/-!
The description of the interface for programs: every path that takes part in it, what it is given
and what it answers. Paths come with the configured start of all addresses; of two operations
with the same path the later one is described.
-/

namespace DeckPress.Service.Description

def reference (name : String) : Json :=
  .obj [("$ref", .str ("#/components/schemas/" ++ name))]

/-! ## Schemas -/

def ofType (name : String) : Json :=
  .obj [("type", .str name)]

def titled (title : String) (schema : Json) : Json :=
  .obj ((schema.fields?.getD []).put "title" (.str title))

def orNull (schema : Json) : Json :=
  .obj [("anyOf", .arr [schema, ofType "null"])]

def listOf (item : Json) : Json :=
  .obj [("type", .str "array"), ("items", item)]

/-- Objects whose values have a schema. -/
def tableOf (value : Json) : Json :=
  .obj [("type", .str "object"), ("additionalProperties", value)]

def anyTable : Json := tableOf (.bool true)

def lookupWord : Json :=
  .obj [("type", .str "string"), ("enum", .arr (LayoutLookup.meanings.map (.str ·.1)))]

def described (text : String) (schema : Json) : Json :=
  .obj ((schema.fields?.getD []).put "description" (.str text))

def record (name : String) (properties : List (String × Json)) (required : List String) : Json :=
  .obj ([("title", .str name), ("type", .str "object"), ("properties", .obj properties)] ++
    if required.isEmpty then [] else [("required", .arr (required.map .str))])

def faultSchema : Json :=
  record "ValidationError"
    [("loc", titled "Location"
        (listOf (.obj [("anyOf", .arr [ofType "string", ofType "integer"])]))),
      ("msg", titled "Message" (ofType "string")),
      ("type", titled "Error Type" (ofType "string")), ("input", titled "Input" (.obj [])),
      ("ctx", titled "Context" (ofType "object"))]
    ["loc", "msg", "type"]

def schemas : List (String × Json) :=
  [("HTTPValidationError",
      record "HTTPValidationError"
        [("detail", titled "Detail" (listOf (reference "ValidationError")))] []),
    ("HealthResponse",
      described "Health check response." (record "HealthResponse"
        [("status", titled "Status" (ofType "string")),
          ("timestamp", titled "Timestamp" (ofType "string")),
          ("version", titled "Version" (ofType "string")),
          ("samples", titled "Samples" (ofType "integer"))]
        ["status", "timestamp", "version", "samples"])),
    ("RenderRequest",
      described "Request to render a deck." (record "RenderRequest"
        [("deck", described "Parsed deck document" (titled "Deck" (orNull anyTable))),
          ("layout_lookup",
            described "'map' or 'master_list'; server default when omitted"
              (titled "Layout Lookup" (orNull lookupWord))),
          ("token_resolution",
            described "Resolve theme tokens; preset default when omitted"
              (titled "Token Resolution" (orNull (ofType "boolean"))))] [])),
    ("RenderResponse",
      described "Rendered fragment." (record "RenderResponse"
        [("html", titled "Html" (ofType "string")),
          ("empty", titled "Empty" (ofType "boolean"))]
        ["html", "empty"])),
    ("SampleListResponse",
      described "Sample list response." (record "SampleListResponse"
        [("samples", titled "Samples" (listOf (ofType "string"))),
          ("total", titled "Total" (ofType "integer"))]
        ["samples", "total"])),
    ("ValidationError", faultSchema)]

/-! ## Operations -/

/-- An operation: its name, where it stands, and its parts as they are described. -/
structure Operation where
  name : String
  path : String
  method : String
  tag : Option String
  description : String
  /-- The parameters of the path and the query. -/
  parameters : List Json := []
  body : Option Json := none
  mediaType : String := "application/json"
  /-- The schema of the answer, given the title of an answer without a schema of its own. -/
  answer : String → Json

def title (name : String) : String :=
  String.ofList ((Text.titleCase name).toList.map fun c => if c = '_' then ' ' else c)

namespace Operation

/-- The name that tells an operation from all others. -/
def id (o : Operation) : String :=
  let word : Text.Glyph → Char
    | .char c => if Text.isWordChar c then c else '_'
    | .half _ => '_'
  String.ofList ((Text.glyphs (o.name ++ o.path).toList).map word) ++ "_" ++ o.method

def content (mediaType : String) (schema : Json) : String × Json :=
  ("content", .obj [(mediaType, .obj [("schema", schema)])])

/-- What is answered, and what is answered when the request is at fault. -/
def responses (o : Operation) : Json :=
  let answered := Json.obj [("description", .str "Successful Response"),
    content o.mediaType (o.answer (title ("Response_" ++ o.id)))]
  let refused := Json.obj [("description", .str "Validation Error"),
    content "application/json" (reference "HTTPValidationError")]
  .obj (("200", answered) ::
    if o.parameters.isEmpty && o.body.isNone then [] else [("422", refused)])

def toJson (o : Operation) : Json :=
  .obj ((o.tag.toList.map fun tag => ("tags", Json.arr [.str tag])) ++
    [("summary", .str (title o.name)), ("description", .str o.description),
      ("operationId", .str o.id)] ++
    (if o.parameters.isEmpty then [] else [("parameters", .arr o.parameters)]) ++
    (o.body.toList.map fun schema =>
      ("requestBody", .obj [content "application/json" schema, ("required", .bool true)])) ++
    [("responses", o.responses)])

end Operation

def parameter (place name : String) (required : Bool) (schema : Json) : Json :=
  .obj [("name", .str name), ("in", .str place), ("required", .bool required),
    ("schema", titled (title name) schema)]

/-- A parameter of a route with its schema, and whether it is required where it comes with the
query. One that the path gives is always required. -/
def parameterAt (template name : String) (required : Bool) (schema : Json) :
    ParameterPlace × Json :=
  let place := ParameterPlace.of template name
  (place, parameter place.name name (required || place = .path) schema)

/-- Parameters in the order in which they are described: those of the path come first. -/
def parametersInOrder (parameters : List (ParameterPlace × Json)) : List Json :=
  let ofPlace (place : ParameterPlace) : List Json :=
    parameters.filterMap fun (found, parameter) => if found = place then some parameter else none
  ofPlace .path ++ ofPlace .query

/-- The operations of a service whose addresses start in a certain way; paths are given as
templates. -/
def operations (mount : String) : List Operation :=
  let sample := mount ++ samplePath
  let sampleHtml := sample ++ "/html"
  [{ name := "health_check", path := mount ++ "/health", method := "get", tag := some "Health"
     description := "Health check with the size of the sample library."
     answer := fun _ => reference "HealthResponse" },
    { name := "render", path := mount ++ "/render", method := "post", tag := some "Render"
      description := "Render a deck and return the fragment as JSON.\n\n``empty`` is true when " ++
        "there was nothing to render (no deck, no slides\nor an unsupported version)."
      body := some (reference "RenderRequest")
      answer := fun _ => reference "RenderResponse" },
    { name := "render_html", path := mount ++ "/render/html", method := "post"
      tag := some "Render", description := "Render a deck and return the bare fragment."
      body := some (reference "RenderRequest"), mediaType := "text/html"
      answer := fun _ => ofType "string" },
    { name := "list_samples", path := mount ++ "/samples", method := "get"
      tag := some "Samples", description := "List the names of the bundled sample decks."
      answer := fun _ => reference "SampleListResponse" },
    { name := "get_sample", path := sample, method := "get"
      tag := some "Samples", description := "Get a sample deck document."
      parameters := parametersInOrder [parameterAt sample "name" true (ofType "string")]
      answer := fun title => titled title anyTable },
    { name := "get_sample_html", path := sampleHtml, method := "get"
      tag := some "Samples"
      description := "Render a sample deck to a fragment.\n\nWithout an explicit " ++
        "``layout_lookup`` the convention is picked from the\ndeck's shape: master-only decks " ++
        "use the master list lookup."
      parameters := parametersInOrder [parameterAt sampleHtml "name" true (ofType "string"),
        parameterAt sampleHtml "layout_lookup" false (orNull lookupWord),
        parameterAt sampleHtml "token_resolution" false (orNull (ofType "boolean"))]
      mediaType := "text/html"
      answer := fun _ => ofType "string" },
    { name := "health_check", path := "/health", method := "get", tag := none
      description := "Health check endpoint."
      answer := fun title => titled title (tableOf (ofType "string")) }]

def document (settings : Settings) : Json :=
  let shown := (operations settings.mount).map fun o =>
    { o with path := Template.plainText o.path }
  let paths := shown.foldl (fun (paths : Record Json) o =>
    paths.put o.path (.obj [(o.method, o.toJson)])) []
  .obj [("openapi", .str "3.1.0"),
    ("info", .obj [("title", .str settings.appName),
      ("description", .str "Declarative slide decks compiled to scoped HTML fragments"),
      ("version", .str settings.appVersion)]),
    ("paths", .obj paths), ("components", .obj [("schemas", .obj schemas)])]

end DeckPress.Service.Description
