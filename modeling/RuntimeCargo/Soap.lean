import RuntimeCargo.Check
import RuntimeCargo.Gateway
import RuntimeCargo.Wire

/-!
# Reading a SOAP reply

What an internet gateway device answers is an HTTP response with an XML
document in it. Both come from a device nobody vouches for, so they are
read by a small parser with fixed limits, which takes nothing on trust: no
entities but the five of XML, no declarations but the first, no attribute
or name beyond a length, no element twice where one is expected, and no
nesting beyond a depth.

What is left of a document is a *view* (`SoapView`): which response it is,
the error code if it has one, and the fields of a mapping entry. The
classification of a reply reads nothing else.
-/

/-! ## Texts -/

/-- The length of a text in bytes. -/
def byteLen (text : List Char) : ℕ := (text.map Char.utf8Size).sum

/-- A text of a literal. -/
def isText (text : List Char) (literal : String) : Bool := text = literal.toList

/-- `str::trim`. -/
def trimmed (text : List Char) : List Char := (trim (String.ofList text)).toList

/-- `split_whitespace`. -/
def words (text : List Char) : List (List Char) :=
  (text.splitOnP isWhitespace).filter (· ≠ [])

/-- `eq_ignore_ascii_case`. -/
def eqIgnoreAsciiCase (text : List Char) (other : String) : Bool :=
  toAsciiLowercase (String.ofList text) = toAsciiLowercase other

/-- The number a text stands for, as an unsigned number is parsed: a `+` in
front is allowed, and the value has to fit. -/
def parseUnsigned (limit : ℕ) (text : List Char) : Option ℕ :=
  let digits : List Char := if text.head? = some '+' then text.tail else text
  let value := digits.foldl (fun n c => 10 * n + (c.toNat - 48)) 0
  if digits ≠ [] ∧ digits.all Char.isDigit ∧ value < limit then some value else none

/-- One number of a written address: at most three digits, without zeros in
front. -/
def parseOctet (text : List Char) : Option UInt8 :=
  let value := text.foldl (fun n c => 10 * n + (c.toNat - 48)) 0
  if text ≠ [] ∧ text.length ≤ 3 ∧ text.all Char.isDigit ∧ value < 256
      ∧ ¬(text.length > 1 ∧ text.head? = some '0') then some (UInt8.ofNat value)
  else none

/-- `Ipv4Addr::from_str`. -/
def parseIpv4 (text : List Char) : Option Ipv4Addr :=
  match (text.splitOn '.').mapM parseOctet with
  | some [a, b, c, d] => some ⟨a, b, c, d⟩
  | _ => none

/-! ## The HTTP response -/

inductive ReadFault where
  | redirect | malformed | bounded

/-- The header lines: what they say of the length. -/
def readHeaders : List (List Char) → ℕ → Option ℕ → Except ReadFault (Option ℕ)
  | [], _, contentLength => .ok contentLength
  | line :: lines, headers, contentLength =>
    if headers + 1 > 32 ∨ line.head? = some ' ' ∨ line.head? = some '\t' ∨ line = [] then
      .error .malformed
    else match splitOnce [':'] line with
    | none => .error .malformed
    | some (name, value) =>
      if eqIgnoreAsciiCase name "Transfer-Encoding"
          && !eqIgnoreAsciiCase (trimmed value) "identity" then .error .malformed
      else if eqIgnoreAsciiCase name "Content-Length" then
        if contentLength.isSome then .error .malformed
        else match parseUnsigned (2 ^ 64) (trimmed value) with
        | none => .error .malformed
        | some length => readHeaders lines (headers + 1) (some length)
      else readHeaders lines (headers + 1) contentLength

/-- The status line. -/
def readStatus (status : List Char) : Except ReadFault Unit :=
  match words status with
  | version :: code :: _ =>
    if !("HTTP/1.".toList.isPrefixOf version) then .error .malformed
    else match parseUnsigned (2 ^ 16) code with
    | none => .error .malformed
    | some code =>
      if [301, 302, 303, 307, 308].contains code then .error .redirect
      else if code ≠ 200 ∧ code ≠ 500 then .error .malformed
      else .ok ()
  | _ => .error .malformed

/-- `parse_http`: the body of a response that is complete. -/
def parseHttp (bytes : List UInt8) : Except ReadFault (List Char) := do
  if bytes.contains 0 then .error .malformed
  else match String.fromUTF8? ⟨bytes.toArray⟩ with
  | none => .error .malformed
  | some text =>
    match splitOnce ['\r', '\n', '\r', '\n'] text.toList with
    | none => .error .malformed
    | some (head, body) =>
      match splitAll ['\r', '\n'] head.length head with
      | [] => .error .malformed
      | status :: lines =>
        readStatus status
        let contentLength ← readHeaders lines 0 none
        if (contentLength.any (· > upnpSoapMaxBytes)) ∨ byteLen body > upnpSoapMaxBytes then
          .error .bounded
        else if contentLength.any (· ≠ byteLen body) then .error .malformed
        else .ok body

/-! ## The document -/

inductive ResponseKind where
  | get | add | delete | fault
deriving DecidableEq

/-- What is read of a document. -/
structure SoapView where
  response : Option ResponseKind := none
  errorCode : Option ℕ := none
  internalClient : Option Ipv4Addr := none
  internalPort : Option ℕ := none
  leaseSec : Option ℕ := none
  enabled : Option Bool := none
  protocol : Option MappedPortProtocol := none

inductive ParseFault where
  | malformed | entity | bounded

/-- `SOAP_FIELD_MAX`. -/
def soapFieldMax : ℕ := 64

/-- `SOAP_ATTRIBUTE_MAX`. -/
def soapAttributeMax : ℕ := 512

/-- `IGD_XML_MAX_DEPTH`. -/
def igdXmlMaxDepth : ℕ := 16

/-- The parser: what is left to read, the open elements, the field that is
being read and what was read before. -/
structure XmlParser where
  rest : List Char
  depth : ℕ := 0
  stack : List (List Char) := []
  buffer : List Char := []
  capturing : Option (List Char) := none
  view : SoapView := {}

namespace XmlParser

/-- `is_ascii_whitespace`. -/
def isAsciiWhitespace (c : Char) : Bool := [' ', '\t', '\n', '\x0c', '\r'].contains c

/-- `skip_whitespace`. -/
def skipWhitespace (rest : List Char) : List Char := rest.dropWhile isAsciiWhitespace

/-- `local_name`: what stands behind the last colon. -/
def localName (name : List Char) : List Char := (name.reverse.takeWhile (· ≠ ':')).reverse

/-- A character of a name. -/
def isNameChar (c : Char) : Bool := c.isAlphanum || ['_', '-', '.', ':'].contains c

/-- `read_name`. -/
def readName (rest : List Char) : Except ParseFault (List Char × List Char) :=
  match rest with
  | [] => .error .malformed
  | first :: more =>
    if !first.isAlpha && first ≠ '_' then .error .malformed
    else
      let name := first :: more.takeWhile isNameChar
      if name.length > soapFieldMax then .error .malformed
      else .ok (name, more.dropWhile isNameChar)

/-- `decode_text`. -/
def decodeText : List Char → Except ParseFault (List Char)
  | '&' :: 'a' :: 'm' :: 'p' :: ';' :: rest => (decodeText rest).map ('&' :: ·)
  | '&' :: 'l' :: 't' :: ';' :: rest => (decodeText rest).map ('<' :: ·)
  | '&' :: 'g' :: 't' :: ';' :: rest => (decodeText rest).map ('>' :: ·)
  | '&' :: 'q' :: 'u' :: 'o' :: 't' :: ';' :: rest => (decodeText rest).map ('"' :: ·)
  | '&' :: 'a' :: 'p' :: 'o' :: 's' :: ';' :: rest => (decodeText rest).map ('\'' :: ·)
  | '&' :: _ => .error .entity
  | c :: rest => (decodeText rest).map (c :: ·)
  | [] => .ok []

/-- `read_attribute_value`: what stands behind it. -/
def readAttributeValue (rest : List Char) : Except ParseFault (List Char) :=
  match rest with
  | [] => .error .malformed
  | quote :: rest =>
    if quote ≠ '"' ∧ quote ≠ '\'' then .error .malformed
    else
      let raw := rest.takeWhile fun c => c ≠ quote && c ≠ '<'
      match rest.drop raw.length with
      | [] => .error .malformed
      | c :: after =>
        if c ≠ quote then .error .malformed
        else if byteLen raw > soapAttributeMax then .error .bounded
        else (decodeText raw).map fun _ => after

/-- `read_attributes`, with the number of attributes that may still come:
whether the tag closes itself, and what stands behind it. -/
def readAttributes : ℕ → List Char → Except ParseFault (Bool × List Char)
  | left, rest =>
    match skipWhitespace rest with
    | '/' :: '>' :: after => .ok (true, after)
    | '>' :: after => .ok (false, after)
    | [] => .error .malformed
    | rest =>
      match left with
      | 0 => .error .bounded
      | left + 1 => do
        let (_, rest) ← readName rest
        match skipWhitespace rest with
        | '=' :: after => readAttributes left (← readAttributeValue (skipWhitespace after))
        | _ => .error .malformed

/-- The response an element stands for. -/
def responseKind (element : List Char) : Option ResponseKind :=
  if isText element "GetSpecificPortMappingEntryResponse" then some .get
  else if isText element "AddPortMappingResponse" then some .add
  else if isText element "DeletePortMappingResponse" then some .delete
  else if isText element "Fault" then some .fault
  else none

/-- The elements whose text is read. -/
def isField (element : List Char) : Bool :=
  ["errorCode", "NewInternalClient", "NewInternalPort", "NewLeaseDuration", "NewEnabled",
    "NewProtocol"].any (isText element)

/-- There is one response in a document. -/
def noteResponse (view : SoapView) (element : List Char) : Except ParseFault SoapView :=
  match responseKind element with
  | none => .ok view
  | some kind =>
    if view.response.isSome then .error .malformed else .ok { view with response := some kind }

/-- `note_element`. -/
def noteElement (p : XmlParser) (element : List Char) : Except ParseFault XmlParser := do
  let view ← noteResponse p.view element
  if isField element then
    if p.capturing.isSome then .error .malformed
    else .ok { p with view, buffer := [], capturing := some element }
  else .ok { p with view }

/-- A field that may be given once. -/
def once {α : Type} (old new : Option α) : Except ParseFault (Option α) :=
  if old.isSome then .error .malformed
  else match new with
  | none => .error .malformed
  | some value => .ok (some value)

/-- What the text of a field says. -/
def commitField (view : SoapView) (element text : List Char) : Except ParseFault SoapView := do
  if byteLen text > soapFieldMax then .error .bounded
  else if isText element "errorCode" then
    let code := if text.length ≤ 5 ∧ text.all Char.isDigit then parseUnsigned (2 ^ 16) text else none
    return { view with errorCode := ← once view.errorCode code }
  else if isText element "NewInternalClient" then
    return { view with internalClient := ← once view.internalClient (parseIpv4 text) }
  else if isText element "NewInternalPort" then
    return { view with internalPort := ← once view.internalPort (parseUnsigned (2 ^ 16) text) }
  else if isText element "NewLeaseDuration" then
    return { view with leaseSec := ← once view.leaseSec (parseUnsigned (2 ^ 32) text) }
  else if isText element "NewEnabled" then
    let enabled := if isText text "1" then some true else if isText text "0" then some false else none
    return { view with enabled := ← once view.enabled enabled }
  else if isText element "NewProtocol" then
    let protocol := if isText text "TCP" then some MappedPortProtocol.tcp
      else if isText text "UDP" then some .udp else none
    return { view with protocol := ← once view.protocol protocol }
  else return view

/-- `commit`: the text of a field is read. -/
def commit (p : XmlParser) (element : List Char) : Except ParseFault XmlParser := do
  let view ← commitField p.view element (trimmed p.buffer)
  .ok { p with view, buffer := [], capturing := none }

/-- The text of a field is complete where its element ends. -/
def commitIf (p : XmlParser) (element : List Char) : Except ParseFault XmlParser :=
  if p.capturing = some element then p.commit element else .ok p

/-- `start_tag`, behind the `<`. -/
def startTag (p : XmlParser) (rest : List Char) : Except ParseFault XmlParser := do
  let (name, rest) ← readName rest
  let (selfClosing, rest) ← readAttributes 16 rest
  let element := localName name
  let p ← noteElement { p with rest } element
  if selfClosing then p.commitIf element
  else if p.depth + 1 > igdXmlMaxDepth then .error .bounded
  else .ok { p with depth := p.depth + 1, stack := element :: p.stack }

/-- `end_tag`, behind the `</`. -/
def endTag (p : XmlParser) (rest : List Char) : Except ParseFault XmlParser := do
  let (name, rest) ← readName rest
  match skipWhitespace rest, p.stack with
  | '>' :: rest, frame :: stack =>
    if frame ≠ name ∧ frame ≠ localName name ∧ localName frame ≠ localName name then
      .error .malformed
    else commitIf { p with rest, stack, depth := p.depth - 1 } (localName name)
  | _, _ => .error .malformed

/-- `skip_comment`. -/
def skipComment (p : XmlParser) : Except ParseFault XmlParser :=
  match splitOnce ['-', '-', '>'] p.rest with
  | none => .error .malformed
  | some (before, rest) =>
    if before.length < 4 ∨ ['-', '-'] <:+: before.drop 4 then .error .malformed
    else .ok { p with rest }

/-- `text`. -/
def text (p : XmlParser) : Except ParseFault XmlParser := do
  let decoded ← decodeText (p.rest.takeWhile (· ≠ '<'))
  let p := { p with rest := p.rest.dropWhile (· ≠ '<') }
  if p.capturing.isSome then
    if byteLen (p.buffer ++ decoded) > soapFieldMax then .error .bounded
    else .ok { p with buffer := p.buffer ++ decoded }
  else .ok p

/-- One step: a piece of markup, or of text. -/
def step (p : XmlParser) : Except ParseFault XmlParser :=
  match p.rest with
  | '<' :: '!' :: '-' :: '-' :: _ => p.skipComment
  | '<' :: '!' :: '[' :: _ => .error .malformed
  | '<' :: '!' :: _ => .error .entity
  | '<' :: '?' :: _ => .error .malformed
  | '<' :: '/' :: rest => p.endTag rest
  | '<' :: rest => p.startTag rest
  | _ => p.text

/-- The steps, to the end of the document. Each of them reads something, so
that there are at most as many as there are characters. -/
def steps : ℕ → XmlParser → Except ParseFault XmlParser
  | 0, p => .ok p
  | n + 1, p => if p.rest = [] then .ok p else do steps n (← p.step)

/-- `skip_declaration`. -/
def skipDeclaration (rest : List Char) : Except ParseFault (List Char) :=
  if !("<?xml".toList.isPrefixOf rest) then .error .malformed
  else match splitOnce ['?', '>'] rest with
  | none => .error .malformed
  | some (before, after) =>
    if (before.drop 2).contains '<' then .error .malformed else .ok after

/-- `parse`. -/
def parse (input : List Char) : Except ParseFault SoapView := do
  let rest := skipWhitespace (if input.head? = some '\ufeff' then input.tail else input)
  let rest ← if "<?".toList.isPrefixOf rest then (skipDeclaration rest).map skipWhitespace
    else .ok rest
  let p ← steps rest.length { rest }
  if p.stack ≠ [] ∨ p.capturing.isSome then .error .malformed
  else .ok p.view

end XmlParser

/-- `parse_xml`. -/
def parseXml (input : List Char) : Except ReadFault SoapView :=
  match XmlParser.parse input with
  | .ok view => .ok view
  | .error .bounded => .error .bounded
  | .error _ => .error .malformed

/-- `read_soap`. -/
def readSoap (bytes : List UInt8) : Except ReadFault SoapView := do
  parseXml (← parseHttp bytes)
