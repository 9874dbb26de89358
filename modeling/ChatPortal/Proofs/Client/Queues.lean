import ChatPortal.Client.Link
import Mathlib.Data.List.ReduceOption

/-!
# The replies for one path

Replies that are kept ready for one path form a queue, which neither the replies for other
paths nor the calls to them touch.  `serve` is such a queue by itself: what is kept joins it
at the end, and who asks gets the first reply, or none while the queue is empty.
-/

namespace ChatPortal

open Gateway Http

/-! ### One queue -/

/-- Something happens to a queue: a reply is kept, or somebody asks for one. -/
inductive Gateway.Turn where
  | kept (reply : Reply)
  | asked

namespace Gateway.Replies

end Gateway.Replies

end ChatPortal
