/-!
# Return codes

The UPS closes every exchange with a byte that says whether it did what was asked, and if not,
why.
-/

namespace UpsTelemetry

/-- What the UPS reports about a request. -/
inductive ReturnCode
  | ok
  | badVersion
  | badChecksum
  | badLengthChecksum
  | invalidCommand
  | badCommandFormat
  | badData
  /-- A code without a meaning of its own. -/
  | unknown (code : UInt8)
deriving DecidableEq, Repr

namespace ReturnCode

/-- The meaning of a return code. -/
def ofByte (code : UInt8) : ReturnCode :=
  if code = 0x00 then ok
  else if code = 0x01 then badVersion
  else if code = 0x02 then badChecksum
  else if code = 0x03 then badLengthChecksum
  else if code = 0x04 then invalidCommand
  else if code = 0x05 then badCommandFormat
  else if code = 0x06 then badData
  else unknown code

/-- The reason in words, as the documentation of the UPS names it. -/
def reason : ReturnCode → String
  | ok => "OK"
  | badVersion => "Bad VER"
  | badChecksum => "Bad CHKSUM"
  | badLengthChecksum => "Bad LCHKSUM"
  | invalidCommand => "Invalid CID2"
  | badCommandFormat => "Bad Command Format"
  | badData => "Bad Data"
  | unknown _ => "Unknown RTN"

/-- Only the byte zero reports success. -/
theorem ofByte_eq_ok_iff {code : UInt8} : ofByte code = ok ↔ code = 0x00 := by
  unfold ofByte
  repeat' split
  all_goals simp_all

end ReturnCode

end UpsTelemetry
