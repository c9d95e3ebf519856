import ReleaseStaging.Configuration
import ReleaseStaging.Text.Fields
import ReleaseStaging.Text.Hexadecimal

/-!
# Messages of HTTP

How a request is written, and how an answer is read from what has arrived so far. Messages are
sequences of bytes, kept as characters with the same codes; only bodies are text.
Main statement: every request carries the credentials.
-/

namespace ReleaseStaging.Http

/-! ## Bytes -/

/-- Bytes as characters with the same codes. -/
def octets (bytes : List UInt8) : List Char :=
  bytes.map fun byte => Char.ofNat byte.toNat

/-- The bytes of a text in UTF-8, as characters with the same codes. -/
def textOctets (text : String) : List Char :=
  octets (text.toList.flatMap String.utf8EncodeChar)

/-- The bytes that characters with the same codes stand for. -/
def bytesOf (message : List Char) : ByteArray :=
  ByteArray.mk (message.map fun c => c.toNat.toUInt8).toArray

/-- The text of a body. One that is not in UTF-8 keeps its ASCII characters. -/
def bodyText (body : List Char) : String :=
  match String.fromUTF8? (bytesOf body) with
  | some text => text
  | none => String.ofList (body.map fun c => if c.toNat < 128 then c else '\uFFFD')

/-- The end of a line. -/
def lineEnd : List Char := ['\r', '\n']

/-! ## Requests -/

/-- The documents that are accepted in answer to a request. -/
def accepted : Method → String
  | .get | .post => "application/xml"
  | .head => "*/*"

/-- The host of an address, with its port unless that is the default one. -/
def hostField (url : Url) : String :=
  match url.authority with
  | none => ""
  | some authority => (Url.Authority.mk "" "" authority.host authority.port).text

/-- The header fields of a request. -/
def headerFields (sender : Sender) (request : Request) : List (String × String) :=
  let body := match request.body with
    | none => []
    | some body =>
      [("Content-Type", xmlContentType), ("Content-Length", toString (textOctets body).length)]
  [("Host", hostField request.url), ("Authorization", sender.authorization),
    ("User-Agent", sender.userAgent), ("Accept", accepted request.method),
    ("Connection", "close")] ++ body

/-- Every request carries the credentials. -/
theorem authorization_mem_headerFields (sender : Sender) (request : Request) :
    ("Authorization", sender.authorization) ∈ headerFields sender request := by
  simp [headerFields]

/-- What a request asks the host for. -/
def target (url : Url) : String :=
  let path := url.path.text
  (if path.isEmpty then "/" else path) ++ Url.marked "?" url.query

/-- A request as it is sent. -/
def requestMessage (sender : Sender) (request : Request) : List Char :=
  let start := s!"{request.method.word} {target request.url} HTTP/1.1"
  let fields := (headerFields sender request).map fun field => field.1 ++ ": " ++ field.2
  ((start :: fields).flatMap fun line => textOctets line ++ lineEnd) ++ lineEnd ++
    textOctets (request.body.getD "")

/-! ## Answers -/

/-- How far an answer has arrived. -/
inductive Arrival (α : Type) where
  /-- Something is missing at the end. -/
  | incomplete
  /-- This is no answer. -/
  | malformed
  /-- It is all there. -/
  | complete (result : α)
  deriving DecidableEq, Repr

/-- An arrival with another result. -/
def Arrival.map {α β : Type} (f : α → β) : Arrival α → Arrival β
  | incomplete => .incomplete
  | malformed => .malformed
  | complete result => .complete (f result)

/-- The status of an answer and its header fields, with names in lower case. -/
structure Head where
  /-- The status. -/
  status : Nat
  /-- The header fields. -/
  fields : List (String × String)
  deriving DecidableEq, Repr

/-- The value of a header field. -/
def Head.field? (head : Head) (name : String) : Option String :=
  head.fields.lookup name

/-- Removes blanks at both ends. -/
def trimmed (text : List Char) : List Char :=
  let isBlank := fun c => c == ' ' || c == '\t' || c == '\r'
  ((text.dropWhile isBlank).reverse.dropWhile isBlank).reverse

/-- The name and the value of a header field. -/
def fieldOf (line : List Char) : String × String :=
  (String.ofList ((line.takeWhile (· != ':')).map Char.toLower),
    String.ofList (trimmed ((line.dropWhile (· != ':')).drop 1)))

/-- The head that lines of text make. -/
def Head.ofText? (text : List Char) : Option Head :=
  match Text.fields '\n' text with
  | [] => none
  | start :: lines =>
    match Text.fields ' ' (trimmed start) with
    | version :: status :: _ =>
      if "HTTP/1.".toList.isPrefixOf version && status.length == 3 then
        (Text.natural? status).map fun status => ⟨status, lines.map fieldOf⟩
      else none
    | _ => none

/-- Reads a body that comes in chunks, each behind its length in hexadecimal digits. -/
def readChunks (text : List Char) : Arrival (List Char) :=
  match _h : Text.upTo (fun _ => true) lineEnd text with
  | none => .incomplete
  | some (line, rest) =>
    let digits := trimmed (line.takeWhile (· != ';'))
    let size := Text.hexValue digits
    if digits.isEmpty || !(digits.all fun c => (Text.hexDigit? c).isSome) then .malformed
    else if size = 0 then .complete []
    else if rest.length < size + 2 then .incomplete
    else (readChunks (rest.drop (size + 2))).map (rest.take size ++ ·)
termination_by text.length
decreasing_by
  have := Text.length_lt_of_upTo (by simp [lineEnd]) _h
  simp only [List.length_drop]
  omega

/-- Reads the body of an answer; `isClosed` tells that nothing more will come. -/
def readBody (head : Head) (isClosed : Bool) (text : List Char) : Arrival (List Char) :=
  let chunked := (head.field? "transfer-encoding").any fun coding =>
    (coding.toList.map Char.toLower) == "chunked".toList
  if chunked then readChunks text
  else match (head.field? "content-length").map fun length => Text.natural? length.toList with
    | some none => .malformed
    | some (some length) =>
      if text.length < length then .incomplete else .complete (text.take length)
    | none => if isClosed then .complete text else .incomplete

/-- Whether an answer has no body: it answers a request for the status only, or says so. -/
def isBodiless (method : Method) (status : Nat) : Bool :=
  method == .head || status == 204 || status == 304

/-- Reads an answer to a request from what has arrived. -/
def readResponse (method : Method) (isClosed : Bool) (arrived : List Char) : Arrival Response :=
  match Text.upTo (fun _ => true) (lineEnd ++ lineEnd) arrived with
  | none => .incomplete
  | some (lines, rest) =>
    match Head.ofText? lines with
    | none => .malformed
    | some head =>
      if isBodiless method head.status then .complete ⟨head.status, ""⟩
      else (readBody head isClosed rest).map fun body => ⟨head.status, bodyText body⟩

end ReleaseStaging.Http
