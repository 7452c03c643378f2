/-!
# Replies from the network

What comes back when a document is asked for: nothing, because no connection could be made, or an
answer with a status, the reason phrase as sent, and the body as far as it arrived.
-/

namespace RpcStubs

/-- What comes back for a request. -/
inductive Reply where
  | refused
  | answered (status : Nat) (reason : String) (body : ByteArray) (complete : Bool)

/-- The statuses whose answers have no body. -/
def Reply.bodiless (status : Nat) : Bool :=
  status = 204 || status = 304

end RpcStubs
