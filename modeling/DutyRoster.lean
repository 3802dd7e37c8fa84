import DutyRoster.Main
import DutyRoster.Proofs.Roster.Windows
import DutyRoster.Proofs.Session.Directory
import DutyRoster.Proofs.Session.Failures
import DutyRoster.Proofs.Session.Verdict
import DutyRoster.Proofs.Store.Counts
import DutyRoster.Proofs.Scheduler.Grid
import DutyRoster.Proofs.Session.Booking
import DutyRoster.Proofs.Session.Grid
import DutyRoster.Proofs.Session.OnCall
import DutyRoster.Proofs.Session.Cancellation
import DutyRoster.Proofs.Session.FewerBookings
import DutyRoster.Proofs.Session.Independence
import DutyRoster.Proofs.Session.Faultless
import DutyRoster.Proofs.Session.SlotIds
import DutyRoster.Proofs.Session.Repetition
import DutyRoster.Proofs.Session.SeparateCalls
import DutyRoster.Proofs.Exchange.RecordJson
import DutyRoster.Proofs.Rules.LargestBlock
import DutyRoster.Proofs.Session.Removal
import DutyRoster.Proofs.Scheduler.BookingWindow
import DutyRoster.Proofs.Session.ShiftLists
import DutyRoster.Proofs.Exchange.ShiftFile
import DutyRoster.Proofs.Session.WithinCalendar
import DutyRoster.Proofs.Exchange.ConfigFile
import DutyRoster.Proofs.Calendar.DateText
import DutyRoster.Proofs.CommandLine.StaffImport
