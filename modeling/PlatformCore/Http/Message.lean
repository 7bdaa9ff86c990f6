/-
  The parts of an HTTP message that sessions look at: methods, header names, header values.

  * `Method.ofText?` and `HeaderName.ofText?` accept tokens only; methods keep their case,
    header names do not matter in case;
  * `HeaderValue.Legal` says which bytes may be sent, and `HeaderValue.text?` which values
    can be read as text: those of visible ASCII, spaces and tabs.
-/
import PlatformCore.Text.Utf8

namespace PlatformCore.Http

/-! ## Tokens -/

def isTokenChar (c : Char) : Bool :=
  c.isAlphanum || "!#$%&'*+-.^_`|~".toList.contains c

/-- A name that HTTP takes: at least one character, and token characters only. -/
def IsToken (s : String) : Prop := s ≠ "" ∧ ∀ c ∈ s.toList, isTokenChar c = true

instance (s : String) : Decidable (IsToken s) :=
  inferInstanceAs (Decidable (s ≠ "" ∧ ∀ c ∈ s.toList, isTokenChar c = true))

structure Method where
  name : String
deriving DecidableEq, Repr

namespace Method

def get : Method := ⟨"GET"⟩

def post : Method := ⟨"POST"⟩

def ofText? (s : String) : Option Method := if IsToken s then some ⟨s⟩ else none

end Method

/-- The name of a header, in lower case. -/
structure HeaderName where
  name : String
deriving DecidableEq, Repr

namespace HeaderName

def cookie : HeaderName := ⟨"cookie"⟩

def authorization : HeaderName := ⟨"authorization"⟩

def ofText? (s : String) : Option HeaderName :=
  if IsToken s then some ⟨String.ofList (s.toList.map Char.toLower)⟩ else none

end HeaderName

/-! ## Header values -/

/-- The value of a header, as bytes. -/
structure HeaderValue where
  bytes : List UInt8
deriving DecidableEq, Repr

namespace HeaderValue

/-- Whether a byte may be sent in a value: a tab, or at least a space and not a delete. -/
def isLegalByte (b : UInt8) : Bool := b == 9 || (32 ≤ b && b != 127)

def isReadableByte (b : UInt8) : Bool := b == 9 || (32 ≤ b && b < 127)

def Legal (v : HeaderValue) : Prop := ∀ b ∈ v.bytes, isLegalByte b = true

instance (v : HeaderValue) : Decidable v.Legal :=
  inferInstanceAs (Decidable (∀ b ∈ v.bytes, isLegalByte b = true))

def ofBytes? (bytes : List UInt8) : Option HeaderValue :=
  if (⟨bytes⟩ : HeaderValue).Legal then some ⟨bytes⟩ else none

def ofText? (s : String) : Option HeaderValue := ofBytes? (Text.utf8 s)

def text? (v : HeaderValue) : Option String :=
  if v.bytes.all isReadableByte then Text.ofUtf8? v.bytes else none

end HeaderValue

abbrev Headers := List (HeaderName × HeaderValue)

def Headers.values (h : Headers) (n : HeaderName) : List HeaderValue :=
  h.filterMap fun e => if e.1 = n then some e.2 else none

end PlatformCore.Http
