import Cron.Calendar.Iso
import Cron.Expression.Printer
import Cron.Log.Run
import Cron.Registry
import Cron.Session
import Cron.Proofs.Calendar.First
import Cron.Proofs.Search.Soundness
import Cron.Proofs.Search.Scan
import Cron.Proofs.Calendar.Recurrence
import Cron.Proofs.Search.Completeness
import Cron.Proofs.Search.Firing
import Cron.Proofs.Search.Agreement
import Cron.Proofs.Search.Walk
import Cron.Proofs.Description.Values
import Cron.Proofs.Description.Clauses
import Cron.Proofs.Description.Reading
import Cron.Proofs.Description.Unique
import Cron.Proofs.Description.Schedule
import Cron.Proofs.Description.Careful
import Cron.Proofs.Planner.Answers
import Cron.Proofs.Random.Shapes
import Cron.Proofs.Random.Firing
import Cron.Proofs.Search.Stability
import Cron.Proofs.Planner.Records
import Cron.Proofs.Planner.Faults
import Cron.Proofs.Session.History
import Cron.Proofs.Search.Cycle
import Cron.Proofs.Planner.Layout
import Cron.Proofs.Settings.Load
import Cron.Proofs.Log.History
import Cron.Proofs.Search.Resumption
import Cron.Proofs.Term.Vacancy
