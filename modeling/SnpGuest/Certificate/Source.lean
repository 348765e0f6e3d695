import SnpGuest.Error

namespace SnpGuest

/-!
# Fetching by URL

A fixed answer for each of some URLs, in the place of a connection to the vendor's key server.
URLs must match exactly.
-/

/-- The bodies that some URLs answer with. -/
structure UrlSource where
  bodies : OrderedMap String Bytes
deriving DecidableEq

namespace UrlSource

def empty : UrlSource := ⟨.empty⟩

/-- The source of some URLs and bodies; the last body for a URL counts. -/
def ofList (pairs : List (String × Bytes)) : UrlSource :=
  ⟨.ofList pairs⟩

/-- Sets the body of a URL and gives back the one it replaces. -/
def insert (source : UrlSource) (url : String) (body : Bytes) : Option Bytes × UrlSource :=
  let (previous, bodies) := source.bodies.exchange url body
  (previous, ⟨bodies⟩)

def fetch (source : UrlSource) (url : String) : Except Error Bytes :=
  match source.bodies.get? url with
  | some body => .ok body
  | none => .error (.notFound url)

end UrlSource

end SnpGuest
