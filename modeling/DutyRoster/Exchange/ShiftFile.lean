import DutyRoster.Csv.Writer
import DutyRoster.Calendar.InstantText
import DutyRoster.Roster.Records
import DutyRoster.Scheduler.Error

/-!
# Exporting shifts

A shift file is a file of records with a heading, one record for each assignment, in the order in
which they are given.
-/

set_option autoImplicit false

namespace DutyRoster

/-- The names of the columns of a shift file. -/
def shiftFileHeading : List (List Char) :=
  ["assignment_id", "date", "slot", "start", "end", "employee_id", "employee_name", "role"].map
    String.toList

/-- The name of the first employee with the given identifier; empty if there is none. -/
def employeeName (employees : List Employee) (id : EmployeeId) : String :=
  ((employees.find? fun employee => employee.id = id).map (·.name)).getD ""

/-- The fields of the record of an assignment. There is no such record for a slot that ends after
the last day of the calendar. -/
def shiftFields (employees : List Employee) (a : Assignment) :
    Except SchedulingError (List (List Char)) :=
  match a.number.window? a.date with
  | none => .error (.windowBeyondCalendar a.date a.number)
  | some (start, stop) =>
    .ok [Text.integer a.id.number, a.date.civil.text, Text.natural a.number.number, start.text,
      stop.text, Text.integer a.employee.number, (employeeName employees a.employee).toList,
      a.role.name.toList]

/-- The records of a shift file, without the heading. -/
def shiftRows (employees : List Employee) :
    List Assignment → Except SchedulingError (List (List (List Char)))
  | [] => .ok []
  | a :: rest => do
    let fields ← shiftFields employees a
    let others ← shiftRows employees rest
    .ok (fields :: others)

/-- A shift file. -/
def shiftFile (assignments : List Assignment) (employees : List Employee) :
    Except SchedulingError (List Char) := do
  let rows ← shiftRows employees assignments
  .ok (Csv.fileText (shiftFileHeading :: rows))

end DutyRoster
