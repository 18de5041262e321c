import AccountStore.Json.Decode
import AccountStore.Statement.Basic

/-!
The page of a listing. A limit of zero means no limit, and then the offset has no meaning.
-/

namespace AccountStore

structure Pagination where
  limit : UInt64
  offset : UInt64
deriving DecidableEq, Repr

namespace Pagination

/-- All rows. -/
def unlimited : Pagination := ⟨0, 0⟩

def window? (page : Pagination) : Option Window :=
  if page.limit = 0 then none else some ⟨page.limit, page.offset⟩

def toJson (page : Pagination) : Json :=
  .object [("limit", .int page.limit.toNat), ("offset", .int page.offset.toNat)]

open Json.Decode in
def fields : Fields Pagination :=
  Pagination.mk <$> fieldOr 0 "limit" uint64 <*> fieldOr 0 "offset" uint64

def ofJson : Json → Except DecodeError Pagination :=
  Json.Decode.record "Pagination" fields

end Pagination
end AccountStore
