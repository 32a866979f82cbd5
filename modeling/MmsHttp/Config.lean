import MmsHttp.Carrier

namespace MmsHttp

/-- What a carrier's configuration says about a request. -/
structure Config where
  userAgent : String := "Android-Mms/2.0"
  profileHeader : String := "x-wap-profile"
  profileUrl : Option String := none
  timeoutMillis : Int := 60000
  charsetInContentType : Bool := false
  extraHeaders : String := ""
  macros : Macro.Table := Carrier.lookup {}

end MmsHttp
