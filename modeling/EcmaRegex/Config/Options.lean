import EcmaRegex.Json.Value
import EcmaRegex.Source
/-!
# Options from a JSON value

The options object is `{"u180eWhitespace": bool}`.  Every field has a default, so a missing
field is `false` and `{}` is the default options; members with other names are ignored.  The
options may also be written as a sequence of the field values in order, `[true]`, of which
any tail may be left out, so `[]` is the default options too; a longer sequence is refused.
-/

namespace EcmaRegex

namespace Options

/-- The name the options type goes by in error messages. -/
def expecting : String := "struct RegexOptions"

/-- The value of the one field, which must be a boolean. -/
def fieldOfJson (v : JsonValue) : Except String Bool :=
  match v with
  | .bool b => .ok b
  | v => .error (invalidType v.unexpected "a boolean")

/-- Options read from a JSON value, or the message of why they cannot be. -/
def ofJson : JsonValue → Except String Options
  | .object members =>
    match members.lookup "u180eWhitespace" with
    | none => .ok {}
    | some v => do
      let b ← fieldOfJson v
      pure ⟨b⟩
  | .array [] => .ok {}
  | .array (v :: rest) => do
    let b ← fieldOfJson v
    if rest.isEmpty then pure ⟨b⟩
    else throw (invalidLength (rest.length + 1) "fewer elements in array")
  | v => .error (invalidType v.unexpected expecting)

end Options

end EcmaRegex
