/-! # What the operating system refuses -/

namespace TenantSync

/-- Why a file operation fails. -/
inductive OsFault where
  | notFound
  | noDevice
  | alreadyExists
  | notDirectory
  | isDirectory
  | nameTooLong
  | nulByte
  /-- The bytes of a file are not text. -/
  | notText
  deriving DecidableEq, Repr

/-- The wording of an operating system fault. -/
def OsFault.message : OsFault → String
  | notFound => "No such file or directory (os error 2)"
  | noDevice => "No such device or address (os error 6)"
  | alreadyExists => "File exists (os error 17)"
  | notDirectory => "Not a directory (os error 20)"
  | isDirectory => "Is a directory (os error 21)"
  | nameTooLong => "File name too long (os error 36)"
  | nulByte => "file name contained an unexpected NUL byte"
  | notText => "stream did not contain valid UTF-8"

end TenantSync
