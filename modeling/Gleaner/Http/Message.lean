import Gleaner.Http.Headers

/-! Requests and responses of the service. -/
namespace Gleaner.Http

structure Request where
  method : String
  path : String
  query : String := ""
  headers : Headers := []
  body : List UInt8 := []
  deriving DecidableEq, Repr

/-- The path and the query of an address, of which the host and the fragment are no part. -/
def splitAddress (address : String) : String × String :=
  let s := address.toList.takeWhile (· ≠ '#')
  let s := afterHost s
  let path := s.takeWhile (· ≠ '?')
  (if path.isEmpty then "/" else String.ofList path,
    String.ofList ((s.dropWhile (· ≠ '?')).drop 1))
where
  /-- An address that does not begin with a slash has a scheme and a host. -/
  afterHost (s : List Char) : List Char :=
    match s, s.dropWhile (· ≠ '/') with
    | '/' :: _, _ => s
    | _, '/' :: '/' :: rest => rest.dropWhile fun c => c ≠ '/' ∧ c ≠ '?'
    | _, _ => s

/-- The number that identifies a request: the one that it brought along, or a new one. -/
inductive RequestId
  | given (value : List UInt8)
  | fresh
  deriving DecidableEq, Repr

structure Response where
  status : Nat
  contentType : Option String := none
  allow : Option String := none
  requestId : RequestId := .fresh
  body : String := ""
  deriving DecidableEq, Repr

end Gleaner.Http
