import Conduit.Catalog
import Conduit.Script.Function
import Conduit.Transform

/-!
# The sample workflow

Fetches a web page, shortens it and sends it by mail.

* `Sample.actions` — the remote actions that it uses;
* `Sample.workflow` — the workflow;
* `Sample.digestCode`, `Sample.digest` — the program text of its middle step, and what it computes.
-/

namespace Conduit.Sample

/-- A schema of a type. -/
def typed (name : String) : Value := .object [("type", .str name)]

/-- A schema of an object. -/
def objectOf (properties : Members) (required : List String) : Members :=
  [("type", .str "object"), ("properties", .object properties)]
    ++ if required.isEmpty then [] else [("required", .ofTexts required)]

/-- The remote actions of the sample. -/
def actions : List ActionSpec :=
  [{ toolkit := "firecrawl", action := "FIRECRAWL_SCRAPE", name := "Scrape URL",
     description := "Fetch a page and return its content as markdown",
     inputSchema := objectOf [("url", typed "string"), ("formats", typed "array")] ["url"],
     outputSchema := objectOf [("markdown", typed "string"), ("metadata", typed "object")] [] },
   { toolkit := "gmail", action := "GMAIL_SEND_EMAIL", name := "Send email",
     description := "Send an email from the connected Gmail account",
     inputSchema :=
       objectOf
         [("recipient_email", typed "string"), ("subject", typed "string"),
          ("body", typed "string")]
         ["recipient_email", "body"],
     outputSchema := objectOf [("id", typed "string"), ("threadId", typed "string")] [] }]

/-- The program text of the step that shortens a page. -/
def digestCode : String :=
  "\ndef run(input):\n"
    ++ "    text = (input.get(\"markdown\") or \"\").strip()\n"
    ++ "    paragraphs = [p.strip() for p in text.split(\"\\n\\n\") if p.strip()]\n"
    ++ "    limit = int(input.get(\"max_paragraphs\") or 3)\n"
    ++ "    return \x7b\n"
    ++ "        \"summary\": \"\\n\\n\".join(paragraphs[:limit]),\n"
    ++ "        \"paragraph_count\": len(paragraphs),\n"
    ++ "    \x7d\n"

/-- The value of a member that counts as true. -/
def given? (members : Members) (key : String) : Option Value :=
  (Members.get? members key).filter (·.isTruthy)

/-- The first items of a list; a negative limit drops as many at the end. -/
def firstItems {α : Type} (limit : Int) (items : List α) : List α :=
  if 0 ≤ limit then items.take limit.toNat else items.take (items.length - (-limit).toNat)

/-- The paragraphs of a text. -/
def paragraphs (text : List Char) : List (List Char) :=
  ((Text.splitOn ['\n', '\n'] (Text.strip text)).map Text.strip).filter (!·.isEmpty)

/-- The first paragraphs of a page, and how many it has. -/
def digest (input : Value) : Except Fault Value := do
  match input with
  | .object members =>
    let text ←
      match given? members "markdown" with
      | none => pure ""
      | some (.str s) => pure s
      | some v => throw (.noOperation v.kindName "strip")
    let found := paragraphs text.toList
    let limit ←
      match given? members "max_paragraphs" with
      | none => pure 3
      | some v => Transform.integerOf v
    return .object
      [("summary", .str (String.ofList (['\n', '\n'].intercalate (firstItems limit found)))),
       ("paragraph_count", .ofNat found.length)]
  | v => throw (.noOperation v.kindName "get")

/-- Loads the program texts that are known, and that of the sample. -/
def loader : CodeLoader := fun stepId code =>
  if code = digestCode then .function (pureFunction .turn digest)
  else ((knownPrograms stepId).lookup code).getD .nothing

/-- A mapping from an input of the run. -/
def fromInput (path step target : String) : Mapping :=
  { source := .input, sourcePath := path, target := .step step, targetPath := target }

/-- A mapping from a step to a step. -/
def between (source path step target : String) (transform : Option String) : Mapping :=
  { source := .step source, sourcePath := path, target := .step step, targetPath := target,
    transform := transform }

/-- A mapping from a step to the output of the run. -/
def toOutput (source path target : String) : Mapping :=
  { source := .step source, sourcePath := path, target := .output, targetPath := target }

/-- The sample workflow. -/
def workflow : Definition where
  id := "url-digest"
  name := "URL Digest"
  description := "Scrape a web page and email a short digest of it"
  steps :=
    [{ id := "fetch_url", kind := .remoteTool, name := "Fetch URL", toolkit := some "firecrawl",
       action := some "FIRECRAWL_SCRAPE" },
     { id := "digest", kind := .customCode, name := "Build digest", code := some digestCode,
       inputSchema :=
         objectOf
           [("markdown", typed "string"),
            ("max_paragraphs", .object [("type", .str "integer"), ("default", .int 3)])]
           ["markdown"],
       outputSchema :=
         objectOf [("summary", typed "string"), ("paragraph_count", typed "integer")] [] },
     { id := "send_email", kind := .remoteTool, name := "Send digest", toolkit := some "gmail",
       action := some "GMAIL_SEND_EMAIL" }]
  mappings :=
    [fromInput "url" "fetch_url" "url",
     { source := .fixed, target := .step "fetch_url", targetPath := "formats",
       value := .ofTexts ["markdown"] },
     between "fetch_url" "markdown" "digest" "markdown" none,
     fromInput "recipient" "send_email" "recipient_email",
     between "fetch_url" "metadata.title" "send_email" "subject" (some "string"),
     between "digest" "summary" "send_email" "body" none,
     toOutput "send_email" "id" "message_id",
     toOutput "digest" "paragraph_count" "paragraphs"]
  inputSchema :=
    objectOf [("url", typed "string"), ("recipient", typed "string")] ["url", "recipient"]

end Conduit.Sample
