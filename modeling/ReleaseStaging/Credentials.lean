import ReleaseStaging.Text.Base64

/-!
# Credentials

A request carries the user name and the password in one header: both are joined by a colon,
written in Latin-1 and then in base 64.
-/

namespace ReleaseStaging

/-- The Latin-1 code of a character; one beyond Latin-1 is written as a question mark. -/
def latin1Byte (c : Char) : UInt8 :=
  if c.toNat < 256 then c.toNat.toUInt8 else 63

/-- The value of the header that carries a user name and a password. -/
def basicAuthorization (username password : String) : String :=
  let bytes := (username ++ ":" ++ password).toList.map latin1Byte
  "Basic " ++ String.ofList (Text.Base64.encode bytes)

end ReleaseStaging
