import Mathlib.Data.List.DropRight
import DarktableAgent.Foundation.Framing
import DarktableAgent.Foundation.Json

/-! The event stream between the chat server and the darkroom client.

The server writes one `event:` line, one `data:` line and an empty line for each
event. The client keeps an incomplete line, the current event name and the
current data between two deliveries of the transfer library.
-/

set_option autoImplicit false

namespace DarktableAgent.Stream

open Foundation

abbrev Bytes := List UInt8

def newline : UInt8 := 10

/-- `g_ascii_isspace`: blank, tab, line feed, form feed and carriage return. -/
def asciiIsspace (byte : UInt8) : Bool :=
  byte == 32 || byte == 9 || byte == 10 || byte == 12 || byte == 13

def strchomp (text : Bytes) : Bytes := text.rdropWhile asciiIsspace

def strchug (text : Bytes) : Bytes := text.dropWhile asciiIsspace

def strstrip (text : Bytes) : Bytes := strchomp (strchug text)

/-- The first line of the buffer. `strchr` does not look behind a NUL byte. -/
def splitLine : Bytes → Option (Bytes × Bytes)
  | [] => none
  | byte :: rest =>
    if byte = newline then some ([], rest)
    else if byte = 0 then none
    else (splitLine rest).map fun (line, tail) => (byte :: line, tail)

/-- The event under construction, and the events dispatched so far. -/
structure CurrentEvent where
  eventName : Option Bytes
  dataBuffer : Bytes
  dispatched : List (Bytes × Bytes)
  deriving DecidableEq, Repr

structure SseParser where
  lineBuffer : Bytes
  current : CurrentEvent
  deriving DecidableEq, Repr

def SseParser.start : SseParser := ⟨[], ⟨none, [], []⟩⟩

def sseParserResetEvent (current : CurrentEvent) : CurrentEvent :=
  { current with eventName := none, dataBuffer := [] }

def sseDispatchCurrentEvent (current : CurrentEvent) : CurrentEvent :=
  if current.dataBuffer = [] then current
  else
    let eventName := current.eventName.getD (ascii "message".toList)
    { current with dispatched := current.dispatched ++ [(eventName, strchomp current.dataBuffer)] }

/-- One pass of the line loop of `writeSseResponse`. -/
def handleLine (current : CurrentEvent) (rawLine : Bytes) : CurrentEvent :=
  let line := strchomp rawLine
  if line = [] then sseParserResetEvent (sseDispatchCurrentEvent current)
  else if (ascii ":".toList).isPrefixOf line then current
  else if (ascii "event:".toList).isPrefixOf line then
    { current with eventName := some (strstrip (line.drop 6)) }
  else if (ascii "data:".toList).isPrefixOf line then
    let content := strstrip (line.drop 5)
    let separator := if current.dataBuffer = [] then [] else [newline]
    { current with dataBuffer := current.dataBuffer ++ separator ++ content }
  else current

theorem splitLine_some {buffer line rest : Bytes} (found : splitLine buffer = some (line, rest)) :
    buffer = line ++ newline :: rest := by
  induction buffer generalizing line with
  | nil => simp [splitLine] at found
  | cons byte tail ih =>
    simp only [splitLine] at found
    split_ifs at found with atNewline atNul
    · obtain ⟨rfl, rfl⟩ := Prod.mk.inj (Option.some.inj found)
      rw [atNewline, List.nil_append]
    · obtain ⟨⟨inner, tail'⟩, cut, same⟩ := Option.map_eq_some_iff.mp found
      obtain ⟨rfl, rfl⟩ := Prod.mk.inj same
      rw [ih cut, List.cons_append]

theorem splitLine_append {buffer line rest : Bytes} (more : Bytes)
    (found : splitLine buffer = some (line, rest)) :
    splitLine (buffer ++ more) = some (line, rest ++ more) := by
  induction buffer generalizing line with
  | nil => simp [splitLine] at found
  | cons byte tail ih =>
    simp only [splitLine, List.cons_append] at found ⊢
    split_ifs at found ⊢ with atNewline atNul
    · obtain ⟨rfl, rfl⟩ := Prod.mk.inj (Option.some.inj found)
      rfl
    · obtain ⟨⟨inner, tail'⟩, cut, same⟩ := Option.map_eq_some_iff.mp found
      obtain ⟨rfl, rfl⟩ := Prod.mk.inj same
      rw [ih cut, Option.map_some]

theorem splitLine_line (line rest : Bytes) (plain : ∀ byte ∈ line, byte ≠ newline ∧ byte ≠ 0) :
    splitLine (line ++ newline :: rest) = some (line, rest) := by
  induction line with
  | nil => simp [splitLine]
  | cons byte tail ih =>
    obtain ⟨noNewline, noNul⟩ := plain byte (by simp)
    have tailCut := ih fun inner member => plain inner (by simp [member])
    simp [splitLine, noNewline, noNul, tailCut]

/-- Lines as the frames of the client's line buffer. -/
def lines : Framing UInt8 Bytes where
  split := splitLine
  shrinks found := by rw [splitLine_some found]; simp; omega
  stable := splitLine_append

theorem drain_line (current : CurrentEvent) (handle : CurrentEvent → Bytes → CurrentEvent) (line rest : Bytes)
    (plain : ∀ byte ∈ line, byte ≠ newline ∧ byte ≠ 0) :
    lines.drain handle current (line ++ newline :: rest) = lines.drain handle (handle current line) rest :=
  lines.drain_of_some handle (splitLine_line line rest plain)

/-- `_write_sse_response`: append a delivery and handle every complete line. -/
def writeSseResponse (parser : SseParser) (bytes : Bytes) : SseParser :=
  if bytes = [] then parser
  else
    let (current, lineBuffer) := lines.drain handleLine parser.current (parser.lineBuffer ++ bytes)
    ⟨lineBuffer, current⟩

/-- A name as the server uses it: not empty, no blank or line break, and no terminator. -/
structure EventName where
  bytes : Bytes
  present : bytes ≠ []
  graphic : ∀ byte ∈ bytes, asciiIsspace byte = false ∧ byte ≠ 0

/-- The text of a JSON object on one line. -/
structure ObjectText where
  bytes : Bytes
  printable : ∀ byte ∈ bytes, Printable byte
  opens : bytes.head? = some 123
  closes : bytes.getLast? = some 125

/-- Compact serialization of an object, given printable number texts. -/
def ObjectText.dumps {floatRepr : ℚ → Bytes} (printable : ∀ value, ∀ byte ∈ floatRepr value, Printable byte)
    (payload : List (String × Json)) : ObjectText where
  bytes := (Json.obj payload).dumps floatRepr
  printable := (Json.obj payload).dumps_printable printable
  opens := by simp [Json.dumps]
  closes := by rw [Json.dumps, List.getLast?_append]; rfl

/-- `_encode_sse` around an already serialized payload. -/
def encodeSseText (event payload : Bytes) : Bytes :=
  ascii "event: ".toList ++ event ++ ascii "\ndata: ".toList ++ payload ++ ascii "\n\n".toList

/-- `_encode_sse` -/
def encodeSse (floatRepr : ℚ → Bytes) (event : Bytes) (payload : List (String × Json)) : Bytes :=
  encodeSseText event ((Json.obj payload).dumps floatRepr)

theorem plain_of_printable {byte : UInt8} (printable : Printable byte) : byte ≠ newline ∧ byte ≠ 0 := by
  obtain ⟨atLeast, -⟩ := printable
  constructor
  · rintro rfl
    exact absurd atLeast (by decide)
  · rintro rfl
    exact absurd atLeast (by decide)

theorem EventName.plain (name : EventName) : ∀ byte ∈ name.bytes, byte ≠ newline ∧ byte ≠ 0 := by
  intro byte member
  obtain ⟨noBlank, noNul⟩ := name.graphic byte member
  refine ⟨?_, noNul⟩
  rintro rfl
  exact absurd noBlank (by decide)

/-- Text with neither a leading nor a trailing blank. -/
def Trimmed (text : Bytes) : Prop :=
  (∃ first, text.head? = some first ∧ asciiIsspace first = false) ∧
    ∃ last, text.getLast? = some last ∧ asciiIsspace last = false

theorem EventName.trimmed (name : EventName) : Trimmed name.bytes := by
  have graphic (byte : UInt8) (member : byte ∈ name.bytes) := (name.graphic byte member).1
  exact ⟨⟨_, List.head?_eq_some_head name.present, graphic _ (List.head_mem _)⟩,
    ⟨_, List.getLast?_eq_some_getLast name.present, graphic _ (List.getLast_mem _)⟩⟩

theorem ObjectText.trimmed (text : ObjectText) : Trimmed text.bytes :=
  ⟨⟨_, text.opens, rfl⟩, ⟨_, text.closes, rfl⟩⟩

/-- `g_strchomp` keeps a trimmed text, whatever stands before it. -/
theorem Trimmed.strchomp_append {text : Bytes} (trimmed : Trimmed text) (lead : Bytes) :
    strchomp (lead ++ text) = lead ++ text := by
  obtain ⟨-, last, ends, graphic⟩ := trimmed
  obtain ⟨init, rfl⟩ := List.getLast?_eq_some_iff.mp ends
  rw [strchomp, ← List.append_assoc, List.rdropWhile_concat_neg _ _ _ (by simp [graphic])]

/-- `g_strstrip` removes exactly the blank that the encoder puts behind the field name. -/
theorem Trimmed.strstrip_blank {text : Bytes} (trimmed : Trimmed text) :
    strstrip (32 :: text) = text := by
  obtain ⟨first, starts, graphic⟩ := trimmed.1
  obtain ⟨tail, rfl⟩ := List.head?_eq_some_iff.mp starts
  have chug : strchug (32 :: first :: tail) = first :: tail := by
    simp [strchug, graphic, show asciiIsspace 32 = true from rfl]
  rw [strstrip, chug]
  exact trimmed.strchomp_append []

section Decode

variable (current : CurrentEvent)

theorem handleLine_event (name : EventName) :
    handleLine current (ascii "event: ".toList ++ name.bytes) =
      { current with eventName := some name.bytes } := by
  have kept := name.trimmed.strchomp_append (ascii "event: ".toList)
  have lead : ascii "event: ".toList = [101, 118, 101, 110, 116, 58, 32] := by decide
  rw [lead] at kept ⊢
  simp only [List.cons_append, List.nil_append] at kept ⊢
  simp [handleLine, kept, name.trimmed.strstrip_blank, ascii]

/-- The data line fills an empty data buffer with the payload's text. -/
theorem handleLine_data (text : ObjectText) (empty : current.dataBuffer = []) :
    handleLine current (ascii "data: ".toList ++ text.bytes) =
      { current with dataBuffer := text.bytes } := by
  have kept := text.trimmed.strchomp_append (ascii "data: ".toList)
  have lead : ascii "data: ".toList = [100, 97, 116, 97, 58, 32] := by decide
  rw [lead] at kept ⊢
  simp only [List.cons_append, List.nil_append] at kept ⊢
  simp [handleLine, kept, text.trimmed.strstrip_blank, ascii, empty]

/-- The empty line dispatches the event and resets the parser for the next one. -/
theorem handleLine_blank (name : EventName) (text : ObjectText)
    (named : current.eventName = some name.bytes) (filled : current.dataBuffer = text.bytes) :
    handleLine current [] =
      ⟨none, [], current.dispatched ++ [(name.bytes, text.bytes)]⟩ := by
  have present : text.bytes ≠ [] := by
    intro absent
    simpa [absent] using text.opens
  have kept : strchomp text.bytes = text.bytes := text.trimmed.strchomp_append []
  have blank : handleLine current [] = sseParserResetEvent (sseDispatchCurrentEvent current) := rfl
  rw [blank, sseDispatchCurrentEvent, filled, if_neg present, named, kept]
  rfl

/-- One encoded event in front of the buffer is consumed as exactly one dispatched event. -/
theorem drain_encodeSseText (name : EventName) (text : ObjectText) (rest : Bytes)
    (clean : current.dataBuffer = []) :
    lines.drain handleLine current (encodeSseText name.bytes text.bytes ++ rest) =
      lines.drain handleLine ⟨none, [], current.dispatched ++ [(name.bytes, text.bytes)]⟩ rest := by
  -- the encoding is two lines and an empty one
  have layout : encodeSseText name.bytes text.bytes ++ rest =
      (ascii "event: ".toList ++ name.bytes) ++ newline :: ((ascii "data: ".toList ++ text.bytes)
        ++ newline :: ([] ++ newline :: rest)) := by
    have dataLead : ascii "\ndata: ".toList = newline :: ascii "data: ".toList := by decide
    have close : ascii "\n\n".toList = [newline, newline] := by decide
    simp only [encodeSseText, dataLead, close, List.append_assoc, List.cons_append, List.nil_append]
  have eventPlain : ∀ byte ∈ ascii "event: ".toList ++ name.bytes, byte ≠ newline ∧ byte ≠ 0 := by
    intro byte member
    rcases List.mem_append.mp member with inLead | inName
    · exact (List.all_iff_forall_prop (p := fun byte => byte ≠ newline ∧ byte ≠ 0)).mp (by decide) byte inLead
    · exact name.plain byte inName
  have dataPlain : ∀ byte ∈ ascii "data: ".toList ++ text.bytes, byte ≠ newline ∧ byte ≠ 0 := by
    intro byte member
    rcases List.mem_append.mp member with inLead | inText
    · exact (List.all_iff_forall_prop (p := fun byte => byte ≠ newline ∧ byte ≠ 0)).mp (by decide) byte inLead
    · exact plain_of_printable (text.printable byte inText)
  rw [layout, drain_line _ _ _ _ eventPlain, handleLine_event, drain_line _ _ _ _ dataPlain,
    handleLine_data { current with eventName := some name.bytes } text clean,
    drain_line _ _ [] rest (by simp), handleLine_blank _ name text rfl rfl]

end Decode

/-- The concatenated encodings of a sequence of events. -/
def encodeEvents (events : List (EventName × ObjectText)) : Bytes :=
  events.flatMap fun (name, text) => encodeSseText name.bytes text.bytes

theorem drain_encodeEvents (events : List (EventName × ObjectText)) (dispatched : List (Bytes × Bytes)) :
    lines.drain handleLine ⟨none, [], dispatched⟩ (encodeEvents events) =
      (⟨none, [], dispatched ++ events.map fun (name, text) => (name.bytes, text.bytes)⟩, []) := by
  induction events generalizing dispatched with
  | nil => simpa [encodeEvents] using lines.drain_of_none handleLine (lines.split_nil)
  | cons event rest ih =>
    obtain ⟨name, text⟩ := event
    have head : encodeEvents ((name, text) :: rest) =
        encodeSseText name.bytes text.bytes ++ encodeEvents rest := rfl
    rw [head, drain_encodeSseText _ name text _ rfl, ih]
    simp

/-- The pair the line loop works on. -/
def SseParser.reader (parser : SseParser) : CurrentEvent × Bytes := (parser.current, parser.lineBuffer)

/-- An empty delivery returns early, which is what reading nothing would do. -/
theorem writeSseResponse_reader (parser : SseParser) (settled : splitLine parser.lineBuffer = none)
    (bytes : Bytes) :
    (writeSseResponse parser bytes).reader = lines.feed handleLine parser.reader bytes := by
  unfold writeSseResponse
  split_ifs with empty
  · rw [empty, Framing.feed, List.append_nil]
    exact (lines.drain_of_none handleLine settled).symm
  · rfl

theorem foldl_writeSseResponse_reader (parser : SseParser) (settled : splitLine parser.lineBuffer = none)
    (chunks : List Bytes) :
    (chunks.foldl writeSseResponse parser).reader =
      chunks.foldl (lines.feed handleLine) parser.reader := by
  induction chunks generalizing parser with
  | nil => rfl
  | cons chunk rest ih =>
    have step := writeSseResponse_reader parser settled chunk
    -- what stays in the buffer has no complete line, so the next delivery starts settled
    have kept : splitLine (writeSseResponse parser chunk).lineBuffer = none := by
      have tail : (writeSseResponse parser chunk).lineBuffer =
          (lines.feed handleLine parser.reader chunk).2 := congrArg Prod.snd step
      rw [tail]
      exact lines.drain_settled handleLine _ _
    rw [List.foldl_cons, List.foldl_cons, ih _ kept, step]

/-- However the stream is cut, the parser ends with every event dispatched and nothing pending. -/
theorem foldl_writeSseResponse (events : List (EventName × ObjectText)) (chunks : List Bytes)
    (cut : chunks.flatten = encodeEvents events) :
    chunks.foldl writeSseResponse SseParser.start =
      ⟨[], ⟨none, [], events.map fun (name, text) => (name.bytes, text.bytes)⟩⟩ := by
  have read : (chunks.foldl writeSseResponse SseParser.start).reader = _ :=
    foldl_writeSseResponse_reader SseParser.start lines.split_nil chunks
  rw [lines.feed_chunks handleLine SseParser.start.reader lines.split_nil, cut] at read
  have whole := read.trans (drain_encodeEvents events [])
  generalize chunks.foldl writeSseResponse SseParser.start = parser at whole
  obtain ⟨lineBuffer, current⟩ := parser
  obtain ⟨rfl, rfl⟩ := Prod.mk.inj whole
  rfl

/-- The client's decoder undoes the server's encoder under every fragmentation: the dispatched
events are the encoded ones, in order, each with exactly its own bytes. -/
theorem dispatched_of_encodeSse (floatRepr : ℚ → Bytes)
    (oneLine : ∀ value, ∀ byte ∈ floatRepr value, Printable byte)
    (events : List (EventName × List (String × Json))) (chunks : List Bytes)
    (cut : chunks.flatten = events.flatMap fun (name, payload) => encodeSse floatRepr name.bytes payload) :
    (chunks.foldl writeSseResponse SseParser.start).current.dispatched =
      events.map fun (name, payload) => (name.bytes, (Json.obj payload).dumps floatRepr) := by
  have texts := foldl_writeSseResponse
    (events.map fun (name, payload) => (name, ObjectText.dumps oneLine payload)) chunks
    (by simp only [cut, encodeEvents, List.flatMap_map]; rfl)
  rw [texts, List.map_map]
  rfl

def accepted : EventName where
  bytes := ascii "accepted".toList
  present := by decide
  graphic := List.all_iff_forall_prop.mp (by decide)

/-- Two events that arrive byte by byte. -/
theorem dispatched_of_encodeSse_bytewise :
    let events := [(accepted, [("requestId", Json.str "req-1")]), (accepted, [("weight", Json.real 2)])]
    let stream := events.flatMap fun (name, payload) => encodeSse (fun _ => [48]) name.bytes payload
    ((stream.map fun byte => [byte]).foldl writeSseResponse SseParser.start).current.dispatched =
      events.map fun (name, payload) => (name.bytes, (Json.obj payload).dumps fun _ => [48]) :=
  dispatched_of_encodeSse (fun _ => [48]) (by simp [Printable]) _ _ (by rw [← List.flatMap_def, List.flatMap_singleton'])

end DarktableAgent.Stream
