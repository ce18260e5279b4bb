import Kubeless.Go.Strings
import Kubeless.Go.Encoding
import Kubeless.Go.Sniff
import Kubeless.Go.Sha256
import Kubeless.K8s.Types
import Kubeless.Runtime
import Kubeless.Utils.Provision
import Kubeless.Utils.Workload
import Kubeless.Utils.Autoscale
import Kubeless.Utils.Triggers
import Kubeless.Cli.Function
import Kubeless.Cli.Update
import Kubeless.Cli.Trigger
import Kubeless.Controller.Api
import Kubeless.Controller.WorkQueue
import Kubeless.Controller.Lineage
import Kubeless.Controller.HttpTrigger
import Kubeless.Controller.Finalizers
import Kubeless.Controller.Quiescence
import Kubeless.Controller.Retry
import Kubeless.Controller.Delivery
