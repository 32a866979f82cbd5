import MmsHttp.Proofs.Exchange.Obstacle
import MmsHttp.Proofs.Executor.Opening

/-!
How a response to a plain request becomes a result. Redirects are not followed over plain
HTTP, but a location is looked at all the same, so the result depends on the status alone
only as long as the location can be followed.
-/

namespace MmsHttp.Executor

open Channel Fault

end MmsHttp.Executor
