import HttpServerApps.Common.Bytes

namespace Http

open Common

/-- `muduo::net::Buffer` as the server uses it: `readable` is what lies between `peek()` and
    `beginWrite()`, and the laws are what Muduo documents of the other operations. -/
class MuduoBuffer (Buffer : Type) where
  empty : Buffer
  readable : Buffer → Bytes
  append : Buffer → Bytes → Buffer
  findCRLF : Buffer → Option Nat
  retrieve : Buffer → Nat → Buffer
  readable_empty : readable empty = []
  readable_append : ∀ buffer data, readable (append buffer data) = readable buffer ++ data
  findCRLF_offset : ∀ buffer, findCRLF buffer = crlfOffset (readable buffer)
  readable_retrieve : ∀ buffer used, used ≤ (readable buffer).length →
    readable (retrieve buffer used) = (readable buffer).drop used

namespace MuduoBuffer

variable {Buffer : Type} [MuduoBuffer Buffer]

def readableBytes (buffer : Buffer) : Nat := (readable buffer).length

/-- `retrieveUntil(peek() + offset)`. -/
def retrieveUntil (buffer : Buffer) (offset : Nat) : Buffer := retrieve buffer offset

end MuduoBuffer

instance : MuduoBuffer Bytes where
  empty := []
  readable := id
  append buffer data := buffer ++ data
  findCRLF := crlfOffset
  retrieve buffer used := buffer.drop used
  readable_empty := rfl
  readable_append _ _ := rfl
  findCRLF_offset _ := rfl
  readable_retrieve _ _ _ := rfl

end Http
