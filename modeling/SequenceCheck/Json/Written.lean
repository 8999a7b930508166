import SequenceCheck.Json.Token

/-!
# Documents as they are written

`Written` is the structure of a JSON text before it is understood as a value: numerals are not yet
rounded, a string may spell no text, and an object may have a key more than once. A reader that
skips parts of a document needs to know no more of them than this.

A document is put together from its tokens one by one. The containers that are open are frames of a
stack, and a `Phase` says what may come next; so the work is a left fold, whatever the nesting, and
the stack is what a limit on nesting limits.
-/

set_option autoImplicit false

namespace SequenceCheck.Json

/-- A JSON document as written. A string or key whose escapes spell no text has no content. -/
inductive Written where
  | null
  | boolean (value : Bool)
  | numeral (value : Numeral)
  | string (content : Option String)
  | array (items : List Written)
  | object (fields : List (Option String × Written))

/-- A container that is open, with what it holds so far, latest first. A field that has a key but
no value yet has its own frame. -/
inductive Frame where
  | items (done : List Written)
  | fields (done : List (Option String × Written))
  | field (key : Option String) (done : List (Option String × Written))

/-- What has been read last, and so what may follow. -/
inductive Phase where
  /-- A value must follow. -/
  | value
  /-- An array has been opened: its first item or its end must follow. -/
  | arrayOpened
  /-- An object has been opened: its first key or its end must follow. -/
  | objectOpened
  /-- A comma in an object: a key must follow. -/
  | nextKey
  /-- A key: a colon must follow. -/
  | key
  /-- A value is complete: a comma or the end of its container must follow, or nothing. -/
  | complete (value : Written)

/-- A document part way through: the open containers, innermost first, and what has been read
last. -/
structure Assembly where
  frames : List Frame
  phase : Phase

namespace Assembly

/-- Nothing read yet. -/
def start : Assembly :=
  ⟨[], .value⟩

/-- Open a container, unless as many are open as the limit allows. -/
def enter? (limit : Option Nat) (frames : List Frame) (frame : Frame) (phase : Phase) :
    Option Assembly :=
  match limit with
  | some most => if frames.length < most then some ⟨frame :: frames, phase⟩ else none
  | none => some ⟨frame :: frames, phase⟩

/-- Read the token that begins a value. -/
def begin? (limit : Option Nat) (frames : List Frame) : Token → Option Assembly
  | .null => some ⟨frames, .complete .null⟩
  | .boolean value => some ⟨frames, .complete (.boolean value)⟩
  | .numeral value => some ⟨frames, .complete (.numeral value)⟩
  | .string content => some ⟨frames, .complete (.string content)⟩
  | .openArray => enter? limit frames (.items []) .arrayOpened
  | .openObject => enter? limit frames (.fields []) .objectOpened
  | _ => none

/-- Read the next token. -/
def step? (limit : Option Nat) : Assembly → Token → Option Assembly
  -- A value, or the first item or key of a container
  | ⟨frames, .value⟩, token => begin? limit frames token
  | ⟨.items [] :: frames, .arrayOpened⟩, .closeArray => some ⟨frames, .complete (.array [])⟩
  | ⟨frames, .arrayOpened⟩, token => begin? limit frames token
  | ⟨.fields [] :: frames, .objectOpened⟩, .closeObject => some ⟨frames, .complete (.object [])⟩
  | ⟨.fields done :: frames, .objectOpened⟩, .string key => some ⟨.field key done :: frames, .key⟩
  | ⟨.fields done :: frames, .nextKey⟩, .string key => some ⟨.field key done :: frames, .key⟩
  | ⟨frames, .key⟩, .colon => some ⟨frames, .value⟩
  -- After a value: more of the container, or its end
  | ⟨.items done :: frames, .complete value⟩, .comma =>
    some ⟨.items (value :: done) :: frames, .value⟩
  | ⟨.items done :: frames, .complete value⟩, .closeArray =>
    some ⟨frames, .complete (.array (value :: done).reverse)⟩
  | ⟨.field key done :: frames, .complete value⟩, .comma =>
    some ⟨.fields ((key, value) :: done) :: frames, .nextKey⟩
  | ⟨.field key done :: frames, .complete value⟩, .closeObject =>
    some ⟨frames, .complete (.object ((key, value) :: done).reverse)⟩
  | _, _ => none

/-- Read tokens one after the other. -/
def run? (limit : Option Nat) : Assembly → List Token → Option Assembly
  | assembly, [] => some assembly
  | assembly, token :: rest =>
    match step? limit assembly token with
    | some next => run? limit next rest
    | none => none

/-- The whole document, if nothing is missing. -/
def result? : Assembly → Option Written
  | ⟨[], .complete value⟩ => some value
  | _ => none

end Assembly

namespace Written

/-- The document of a text. A limit is the greatest number of containers that may be open at
once. -/
def ofText? (limit : Option Nat) (text : String) : Option Written := do
  let tokens ← Token.ofText? text
  let assembly ← Assembly.run? limit .start tokens
  assembly.result?

end Written

end SequenceCheck.Json
