import SupportPlatform.Core.Validation
import SupportPlatform.Schema.Basic

/-!
# Responses

What the API sends: the envelope of `ResponseInterceptor` around the result of a handler, and the
body of `AllExceptionsFilter` for whatever was thrown. A response with status 204 has no body.
-/

namespace SupportPlatform

open Validation

structure HttpResponse where
  status : Nat
  body : Option Json

/-- `response.status(status).json(body)`. -/
def HttpResponse.send (status : Nat) (body : Json) : HttpResponse :=
  ⟨status, if status = 204 then none else some body⟩

/-- A property in `JSON.stringify`, which leaves it out when it is undefined. -/
def jsonField (name : String) (value : Option Json) : List (String × Json) :=
  (value.map (name, ·)).toList

/-! ### Results -/

namespace ResponseInterceptor

def isPaginated (payload : Option Json) : Bool :=
  match payload with
  | some (.object entries) => (entries.lookup "items").isSome && (entries.lookup "meta").isSome
  | _ => false

/-- The envelope of a payload; `none` is `undefined`. -/
def envelope (payload : Option Json) : Json :=
  if isPaginated payload then
    .object (jsonField "data" (payload.bind (·.property "items")) ++
      jsonField "meta" (payload.bind (·.property "meta")))
  else .object (jsonField "data" payload)

end ResponseInterceptor

/-! ### Errors -/

/-- The `message` of an error: one text, or one for each rule that was broken. -/
inductive ErrorMessage where
  | one (text : String)
  | many (texts : List String)
deriving DecidableEq, Repr

/-- What `getResponse` of an `HttpException` returns: a text, or an object with or without a
`message`. -/
inductive ExceptionResponse where
  | text (s : String)
  | object (message : Option ErrorMessage)
deriving DecidableEq, Repr

/-- What reaches the filter. `target` is `meta.target` of the Prisma error. -/
inductive Thrown where
  | http (status : Nat) (response : ExceptionResponse) (message : String)
  | prisma (code : String) (target : Option (List String))
  | other
deriving DecidableEq, Repr

namespace ErrorBody

/-- `replace(/\b\w/g, (c) => c.toUpperCase())`; `inWord` is that a word character came before. -/
def capitalize (inWord : Bool) : List Char → List Char
  | [] => []
  | c :: cs =>
    let isWord := c.isAlphanum || c = '_'
    (if isWord && !inWord then c.toUpper else c) :: capitalize isWord cs

/-- `statusToName`, for the entries of `HttpStatus`. -/
def statusToName (httpStatus : List (String × Nat)) (status : Nat) : String :=
  match httpStatus.find? (·.2 = status) with
  | none => "Error"
  | some (name, _) =>
    String.ofList (capitalize false (name.toList.map fun c => if c = '_' then ' ' else c))

/-- What `resolve` makes of an exception. -/
structure Resolved where
  status : Nat
  error : String
  message : ErrorMessage
deriving DecidableEq, Repr

def resolvePrisma (code : String) (target : Option (List String)) : Resolved :=
  if code = "P2002" then
    { status := 409
      error := "Conflict"
      message := .one (
        match target.map ", ".intercalate with
        | none | some "" => "Unique constraint violation"
        | some target => "A record with this " ++ target ++ " already exists") }
  else if code = "P2025" then ⟨404, "Not Found", .one "The requested record was not found"⟩
  else if code = "P2003" then ⟨400, "Bad Request", .one "Related record does not exist"⟩
  else ⟨400, "Bad Request", .one ("Database error (" ++ code ++ ")")⟩

def resolve (httpStatus : List (String × Nat)) : Thrown → Resolved
  | .http status response message =>
    { status
      error := statusToName httpStatus status
      message :=
        match response with
        | .text s => .one s
        | .object none => .one message
        | .object (some m) => m }
  | .prisma code target => resolvePrisma code target
  | .other => ⟨500, "Internal Server Error", .one "An unexpected error occurred"⟩

def messageJson : ErrorMessage → Json
  | .one text => .string text
  | .many texts => .array (texts.map .string)

end ErrorBody

/-- The response for what was thrown. -/
def AllExceptionsFilter.«catch» (httpStatus : List (String × Nat)) (path : String)
    (correlationId : Option String) (timestamp : String) (exception : Thrown) : HttpResponse :=
  let resolved := ErrorBody.resolve httpStatus exception
  .send resolved.status (.object (
    [("statusCode", .number (.finite resolved.status)), ("error", .string resolved.error),
      ("message", ErrorBody.messageJson resolved.message), ("path", .string path)] ++
    jsonField "correlationId" (correlationId.map .string) ++
    [("timestamp", .string timestamp)]))

end SupportPlatform
