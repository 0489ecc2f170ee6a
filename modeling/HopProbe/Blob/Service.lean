import HopProbe.Blob.Endpoint
import HopProbe.Http.Client

/-!
# The protocol of a blob service

A container is created, with a conflict as good as a success, before a blob in
it is read or written. A blob is deleted before it is written anew; that it
was not there is no failure.
-/

set_option autoImplicit false

namespace HopProbe.Blob
open HopProbe.Text HopProbe.Http

def versionField : Field := ⟨"x-ms-version", "2021-08-06"⟩

def typeField : Field := ⟨"x-ms-blob-type", "BlockBlob"⟩

structure Container where
  endpoint : Endpoint
  name : String
  deriving DecidableEq, Repr

namespace Container

def fault (e : EndpointError) : Fault := .blob e.message

def containerUrl (c : Container) : Except EndpointError Url :=
  c.endpoint.url [c.name] (some "restype=container")

def blobUrl (c : Container) (blob : String) : Except EndpointError Url :=
  c.endpoint.url [c.name, blob] none

def refusal (operation : String) (response : Response) : Fault :=
  .blob (operation ++ " returned " ++ response.statusText ++ ": " ++ trim response.explanation)

/-- Sends one request of an operation; a status that is not accepted is a failure. Gives the request
that was answered in the end, with its response. -/
def exchange (operation : String) (accepted : Nat → Bool) (method : Method)
    (url : Except EndpointError Url) (fields : Fields) (body : List UInt8) :
    Effect (Request × Response) := do
  let url ← Effect.ofExcept fault url
  let request ← Effect.ofExcept Fault.http (prepare method url fields [] body)
  let (answered, response) ← send request
  if accepted response.status then return (answered, response)
  else Effect.fault (refusal operation response)

def create (c : Container) : Effect Unit := do
  let _ ← exchange "create container" (fun s => s == 201 || s == 409) .put c.containerUrl
    [versionField] []

def download (c : Container) (blob : String) : Effect (List UInt8) := do
  let (request, response) ← exchange "download" isSuccess .get (c.blobUrl blob) [versionField] []
  received request response.content?

def delete (c : Container) (blob : String) : Effect Unit := do
  let _ ← exchange "delete" (fun s => isSuccess s || s == 404) .delete (c.blobUrl blob)
    [versionField] []

def upload (c : Container) (blob : String) (content : List UInt8) : Effect String := do
  let (_, response) ← exchange "upload" isSuccess .put (c.blobUrl blob)
    [versionField, typeField] content
  return (response.fields.plain? "etag").getD ""

end Container

def openContainer (endpoint container : String) : Effect Container := do
  return ⟨← Effect.ofExcept Container.fault (Endpoint.parse endpoint), container⟩

end HopProbe.Blob
