import Querent.Main
import Querent.Schema
import Querent.Service.Endpoint
import Querent.Service.Listening
import Querent.Proofs.Sql.Writing
import Querent.Proofs.Sql.Stability
import Querent.Proofs.Sql.Rewording
import Querent.Proofs.Service.Execution
import Querent.Proofs.Service.Agreement
import Querent.Proofs.Service.Recording
import Querent.Proofs.History.Calls
import Querent.Proofs.Calendar.Reading
import Querent.Proofs.History.Usage
import Querent.Proofs.Json.Reading
import Querent.Proofs.Json.Magnitude
import Querent.Proofs.History.Entry
import Querent.Proofs.Settings.Keys
import Querent.Proofs.Settings.Environment
import Querent.Proofs.Settings.Precedence
import Querent.Proofs.Assistant.Fences
import Querent.Proofs.Assistant.Replies
import Querent.Proofs.Assistant.Lines
import Querent.Proofs.Service.Observers
import Querent.Proofs.Sql.WordScan
import Querent.Proofs.Sql.Explanation
import Querent.Proofs.Sql.Correction
import Querent.Proofs.Table.Leader
import Querent.Proofs.Table.Chart
import Querent.Proofs.Table.Overflow
import Querent.Proofs.Table.Arrangement
import Querent.Proofs.Table.Share
import Querent.Proofs.Table.Thousands
import Querent.Proofs.Schema.Names
import Querent.Proofs.Sql.Plain.Stability
