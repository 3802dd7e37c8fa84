/-!
# Files that cannot be used

The faults that a file can have before anything in it is looked at.
-/

set_option autoImplicit false

namespace DutyRoster

/-- The reasons for which a file cannot be read or replaced. A file that is not there is `notFound`;
something else than a directory where the name needs one is `notDirectory`; and `busy` is a
directory that cannot be replaced because the name does not call it by its own name. -/
inductive FileFault where
  | notFound
  | isDirectory
  | notDirectory
  | nameTooLong
  | busy
deriving DecidableEq, Repr

/-- The wording of a fault. -/
def FileFault.message : FileFault → String
  | .notFound => "No such file or directory (os error 2)"
  | .isDirectory => "Is a directory (os error 21)"
  | .notDirectory => "Not a directory (os error 20)"
  | .nameTooLong => "File name too long (os error 36)"
  | .busy => "Device or resource busy (os error 16)"

end DutyRoster
