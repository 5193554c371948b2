/-
Reminders for the owners of groups whose membership is under audit.

An audit has owners and a deadline, and a schedule of tiers says how many days before the deadline
each reminder falls due.  A pass over the open audits sends what is due and not yet sent, and a
claim in the store keeps two passes from sending the same reminder.
-/
import AuditReminder.Disk
import AuditReminder.Main
import AuditReminder.Rehearsal
import AuditReminder.Proofs.Config.Keys
import AuditReminder.Proofs.Exchange.Lossless
import AuditReminder.Proofs.LeapSecond
import AuditReminder.Proofs.Notice.Checked
import AuditReminder.Proofs.Pass.CatchUp
import AuditReminder.Proofs.Pass.Closing
import AuditReminder.Proofs.Pass.InTime
import AuditReminder.Proofs.Pass.Interleaving
import AuditReminder.Proofs.Pass.Meaning
import AuditReminder.Proofs.Pass.Posted
import AuditReminder.Proofs.Pass.Previews
import AuditReminder.Proofs.Pass.Separation
import AuditReminder.Proofs.Schedule.Canonical
import AuditReminder.Proofs.Store.Agreement
import AuditReminder.Proofs.Store.Atomic
import AuditReminder.Proofs.Store.Chronology
import AuditReminder.Proofs.Store.Migration
import AuditReminder.Proofs.Store.Readable
import AuditReminder.Proofs.Upcoming
