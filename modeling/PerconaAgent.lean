import PerconaAgent.Log.Relay
import PerconaAgent.Log.Accounting
import PerconaAgent.Log.Deadlock
import PerconaAgent.Log.Order
import PerconaAgent.Log.Overflow
import PerconaAgent.Agent.Supervisor
import PerconaAgent.Agent.Serial
import PerconaAgent.Agent.Replies
import PerconaAgent.Agent.Commands
import PerconaAgent.Agent.Status
import PerconaAgent.Mrms.Monitor
import PerconaAgent.Qan.Manager
import PerconaAgent.Qan.Workers
import PerconaAgent.Qan.Holdings
import PerconaAgent.Qan.SlowLogs
import PerconaAgent.Qan.Perfschema
import PerconaAgent.Qan.Collection
import PerconaAgent.Qan.Persistence
import PerconaAgent.Qh.Worker
import PerconaAgent.Qh.Classes
import PerconaAgent.Mm.Monitor
import PerconaAgent.Sysconfig.Monitor
