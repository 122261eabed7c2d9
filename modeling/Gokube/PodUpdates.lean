import Gokube.Footprint
import Gokube.Scheduler
import Gokube.Handlers

/-! What pod updates write back. `UpdatePod` is an unconditional put: the
scheduler puts back pods its `ListPendingPods` read, bound to a node, and the
handler of `PUT /pods/{name}` puts the request's pod once its `Get` has found
the pod. A `DELETE` that completes between such a read and its put is undone. -/

namespace Gokube

namespace Scheduler
variable (s : Scheduler)

end Scheduler

namespace PodHandler
variable (h : PodHandler)

end PodHandler

end Gokube
