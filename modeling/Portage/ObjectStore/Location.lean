import Portage.Go.Text

/-! Where an object store keeps things: store URLs, and the restic repository that is
built from one. -/
namespace Portage.ObjectStore

open Go

/-- The static keys of an S3-compatible store, and the bucket and the folder to use
when a URL names none. -/
structure Creds where
  accessKey : String := ""
  secretKey : String := ""
  region : String := ""
  endpoint : String := ""
  bucket : String := ""
  folder : String := ""
  deriving DecidableEq, Repr

def hexValue (c : Char) : Option Nat :=
  if c.isDigit then some (c.toNat - 48)
  else if 'a' ≤ c ∧ c ≤ 'f' then some (c.toNat - 87)
  else if 'A' ≤ c ∧ c ≤ 'F' then some (c.toNat - 55)
  else none

/-- Undo percent encoding; `none` is a malformed escape. An escape stands for one character:
the several escapes of one that is not ASCII are not put together. -/
def unescape : List Char → Option (List Char)
  | [] => some []
  | '%' :: high :: low :: rest => do
    let high ← hexValue high
    let low ← hexValue low
    let rest ← unescape rest
    pure (Char.ofNat (16 * high + low) :: rest)
  | '%' :: _ => none
  | c :: rest => (c :: ·) <$> unescape rest

/-- A control character, which no URL may have. -/
def isControl (c : Char) : Bool := c.toNat < 0x20 || c.toNat = 0x7f

/-- An `http` or `https` URL after its scheme, read as `url.Parse` reads it: the host,
which `authority` finds, and the path. -/
def parseHTTP (authority : String → Option String) (rest : List Char) : Option (String × List Char) :=
  let (address, fragment) := cutAt '#' rest
  if address.any isControl then none
  else if (unescape (fragment.getD [])).isNone then none
  else
    let located := (cutAt '?' address).1
    let (host, path) := (located.takeWhile (· != '/'), located.dropWhile (· != '/'))
    match authority (String.ofList host), unescape path with
    | some host, some path => some (host, path)
    | _, _ => none

/-- The endpoint, the bucket and the folder of a store URL. -/
def parseURL (authority : String → Option String) (raw : String) : String × String × String :=
  let raw := trimSpace raw
  if hasPrefix raw "s3://" then
    match cutAt '/' (raw.toList.drop 5) with
    | (bucket, none) => ("", String.ofList bucket, "")
    | (bucket, some folder) => ("", String.ofList bucket, String.ofList (trim '/' folder))
  else if hasPrefix raw "http://" ∨ hasPrefix raw "https://" then
    let scheme := if hasPrefix raw "http://" then "http" else "https"
    match parseHTTP authority (raw.toList.drop (scheme.length + 3)) with
    | none => (raw, "", "")
    | some (host, path) =>
      let endpoint := scheme ++ "://" ++ host
      match cutAt '/' (trim '/' path) with
      | (bucket, none) => (endpoint, String.ofList bucket, "")
      | (bucket, some folder) => (endpoint, String.ofList bucket, String.ofList folder)
  else ("", raw, "")

/-- The `s3:` URL of the restic repository under a path. -/
def Creds.resticRepository (c : Creds) (authority : String → Option String) (destPath : String) : String :=
  let (endpoint, bucket, folder) := parseURL authority destPath
  let endpoint := if c.endpoint = "" then endpoint else c.endpoint
  let bucket := if bucket = "" then c.bucket else bucket
  let folder := if folder = "" then c.folder else folder
  let (bucket, folder) := if destPath ≠ "" ∧ bucket = "" then (parseURL authority destPath).2
    else (bucket, folder)
  let endpoint := String.ofList (trimRight '/' endpoint.toList)
  let path := String.ofList (trim '/' (bucket ++ "/" ++ folder).toList)
  if endpoint = "" then "s3:s3.amazonaws.com/" ++ path else "s3:" ++ endpoint ++ "/" ++ path

end Portage.ObjectStore
