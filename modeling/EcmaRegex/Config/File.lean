import EcmaRegex.Json.Reader
import EcmaRegex.Config.Options
import EcmaRegex.Flags
/-!
# The config file

A config file is a JSON object with three optional members: `flags`, a string of flag letters
for every pattern; `options`, the options object; and `patterns`, a list of pattern strings.
Each may be `null` or left out.  Members with other names are ignored, and a member given twice
is refused.  The object may also be written as a sequence of exactly the three values, in that
order.

Reading is directed by this shape: each member is read as the type it must have, so the first
thing that does not fit is what is reported, with the offset where it was found, and text after
it is not looked at.  A value of the wrong kind is reported as what it turned out to be.
-/

namespace EcmaRegex

/-- The contents of a config file. -/
structure Config where
  flags : Option String := none
  options : Option Options := none
  patterns : Option (List String) := none
  deriving DecidableEq, Repr, Inhabited

namespace Config

open Cursor

/-- The error for a value of the wrong kind at the cursor, where `expected` was wanted.  The
value is read first, so that the error can say what it is; an error reading it is reported
instead. -/
def wrongType {α : Type} (expected : String) (c : Cursor) : Except JsonFailure (α × Cursor) :=
  let found : Except JsonFailure (Unexpected × Cursor) :=
    match c.rest with
    | [] => c.failPeek .expectedSomeValue
    | ch :: _ =>
      if ch = 'n' then (c.advance.ident "ull").map fun (_, c) => (.unit, c)
      else if ch = 't' then (c.advance.ident "rue").map fun (_, c) => (.bool true, c)
      else if ch = 'f' then (c.advance.ident "alse").map fun (_, c) => (.bool false, c)
      else if ch = '-' then (number true c.advance).map fun (n, c) => (.ofNumber n, c)
      else if isDigit ch then (number false c).map fun (n, c) => (.ofNumber n, c)
      else if ch = '"' then (string c.advance).map fun (s, c) => (.string s, c)
      else if ch = '[' then .ok (.seq, c)
      else if ch = '{' then .ok (.map, c)
      else c.failPeek .expectedSomeValue
  match found with
  | .ok (u, c) => .error (⟨.data (invalidType u expected), some c.offset⟩, c)
  | .error e => .error e

/-- Read a boolean. -/
def readBool (c : Cursor) : Except JsonFailure (Bool × Cursor) :=
  let c := c.skipWhitespace
  match c.rest with
  | [] => c.failPeek .eofWhileParsingValue
  | 't' :: _ => (c.advance.ident "rue").map fun (_, c) => (true, c)
  | 'f' :: _ => (c.advance.ident "alse").map fun (_, c) => (false, c)
  | _ :: _ => wrongType "a boolean" c

/-- Read a string. -/
def readString (c : Cursor) : Except JsonFailure (String × Cursor) :=
  let c := c.skipWhitespace
  match c.rest with
  | [] => c.failPeek .eofWhileParsingValue
  | '"' :: _ => string c.advance
  | _ :: _ => wrongType "a string" c

/-- Read `null` as nothing, or else a value with `read`. -/
def readOption {α : Type} (read : Cursor → Except JsonFailure (α × Cursor)) (c : Cursor) :
    Except JsonFailure (Option α × Cursor) :=
  let c := c.skipWhitespace
  match c.rest with
  | 'n' :: _ => (c.advance.ident "ull").map fun (_, c) => (none, c)
  | _ => (read c).map fun (v, c) => (some v, c)

/-- Read the next element of a sequence with `read`, or nothing at its closing bracket, which
is left unread.  `first` tells whether no element has been read yet. -/
def nextElement {α : Type} (first : Bool) (read : Cursor → Except JsonFailure (α × Cursor))
    (c : Cursor) :
    Except JsonFailure (Option α × Cursor) :=
  let c := c.skipWhitespace
  let element := fun (c : Cursor) => (read c).map fun (v, c) => (some v, c)
  match c.rest with
  | [] => c.failPeek .eofWhileParsingList
  | ']' :: _ => .ok (none, c)
  | ',' :: _ =>
    if first then element c
    else
      let c := c.advance.skipWhitespace
      match c.rest with
      | ']' :: _ => c.failPeek .trailingComma
      | [] => c.failPeek .eofWhileParsingValue
      | _ :: _ => element c
  | _ :: _ => if first then element c else c.failPeek .expectedListCommaOrEnd

/-- A key at the cursor, which must start a string. -/
def keyAt (c : Cursor) : Except JsonFailure (Option String × Cursor) :=
  match c.rest with
  | '"' :: _ => (string c.advance).map fun (k, c) => (some k, c)
  | '}' :: _ => c.failPeek .trailingComma
  | [] => c.failPeek .eofWhileParsingValue
  | _ :: _ => c.failPeek .keyMustBeAString

/-- Read the next key of an object, or nothing at its closing brace, which is left unread.
`first` tells whether no member has been read yet. -/
def nextKey (first : Bool) (c : Cursor) : Except JsonFailure (Option String × Cursor) :=
  let c := c.skipWhitespace
  match c.rest with
  | [] => c.failPeek .eofWhileParsingObject
  | '}' :: _ => .ok (none, c)
  | ',' :: _ => if first then keyAt c else keyAt c.advance.skipWhitespace
  | _ :: _ => if first then keyAt c else c.failPeek .expectedObjectCommaOrEnd

/-- Read the colon between a key and its value. -/
def colon (c : Cursor) : Except JsonFailure (Unit × Cursor) :=
  let c := c.skipWhitespace
  match c.rest with
  | ':' :: _ => .ok ((), c.advance)
  | [] => c.failPeek .eofWhileParsingObject
  | _ :: _ => c.failPeek .expectedColon

/-- Read the value of a member with `read`, after its colon. -/
def memberValue {α : Type} (read : Cursor → Except JsonFailure (α × Cursor)) (c : Cursor) :
    Except JsonFailure (α × Cursor) := do
  let ((), c) ← colon c
  read c

/-- Read the closing bracket of a sequence whose elements have been read: the error when
something else follows, and the cursor after what was read. -/
def endSeq (c : Cursor) : Option JsonError × Cursor :=
  let c := c.skipWhitespace
  match c.rest with
  | ']' :: _ => (none, c.advance)
  | ',' :: _ =>
    let c := c.advance.skipWhitespace
    match c.rest with
    | ']' :: _ => (some (c.peekError .trailingComma), c)
    | _ => (some (c.peekError .trailingCharacters), c)
  | [] => (some (c.peekError .eofWhileParsingList), c)
  | _ :: _ => (some (c.peekError .trailingCharacters), c)

/-- Read the closing brace of an object whose members have been read. -/
def endMap (c : Cursor) : Option JsonError × Cursor :=
  let c := c.skipWhitespace
  match c.rest with
  | '}' :: _ => (none, c.advance)
  | ',' :: _ => (some (c.peekError .trailingComma), c)
  | [] => (some (c.peekError .eofWhileParsingObject), c)
  | _ :: _ => (some (c.peekError .trailingCharacters), c)

/-- Finish a bracketed value read by `body`: its closing bracket is read even when the body
failed, and an error without an offset gets the offset reached then. -/
def finish {α : Type} (close : Cursor → Option JsonError × Cursor)
    (body : Except JsonFailure (α × Cursor)) :
    Except JsonFailure (α × Cursor) :=
  match body with
  | .ok (v, c) =>
    match close c with
    | (none, c) => .ok (v, c)
    | (some e, c) => .error (e, c)
  | .error (e, c) =>
    let (_, c) := close c
    .error (e.fixOffset c.offset, c)

/-- Read a value that is a sequence or an object, with `onSeq` after the opening bracket or
`onMap` after the opening brace.  `expected` names it in the error for anything else. -/
def readStruct {α : Type} (expected : String)
    (onSeq onMap : Cursor → Except JsonFailure (α × Cursor))
    (c : Cursor) : Except JsonFailure (α × Cursor) :=
  let c := c.skipWhitespace
  match c.rest with
  | [] => c.failPeek .eofWhileParsingValue
  | '[' :: _ => finish endSeq (onSeq c.advance)
  | '{' :: _ => finish endMap (onMap c.advance)
  | _ :: _ => wrongType expected c

/-- Read the elements of a list of strings up to its closing bracket. -/
def stringsFrom (acc : Array String) (first : Bool) (c : Cursor) :
    Nat → Except JsonFailure (List String × Cursor)
  | 0 => c.fail .eofWhileParsingList
  | fuel + 1 => do
    match ← nextElement first readString c with
    | (none, c) => pure (acc.toList, c)
    | (some s, c) => stringsFrom (acc.push s) false c fuel

/-- Read a list of strings. -/
def readStrings (c : Cursor) : Except JsonFailure (List String × Cursor) :=
  let c := c.skipWhitespace
  match c.rest with
  | [] => c.failPeek .eofWhileParsingValue
  | '[' :: _ => finish endSeq (stringsFrom #[] true c.advance c.fuel)
  | _ :: _ => wrongType "a sequence" c

/-- The error for a member given twice; it gets its offset when the object has been read. -/
def duplicate {α : Type} (name : String) (c : Cursor) : Except JsonFailure (α × Cursor) :=
  .error (⟨.data ("duplicate field `" ++ name ++ "`"), none⟩, c)

/-- Read the members of an options object after its opening brace. -/
def optionMembers (seen : Option Bool) (first : Bool) (c : Cursor) :
    Nat → Except JsonFailure (Options × Cursor)
  | 0 => c.fail .eofWhileParsingObject
  | fuel + 1 => do
    match ← nextKey first c with
    | (none, c) => pure (⟨seen.getD false⟩, c)
    | (some key, c) =>
      if key = "u180eWhitespace" then
        if seen.isSome then duplicate key c
        else
          let (b, c) ← memberValue readBool c
          optionMembers (some b) false c fuel
      else
        let ((), c) ← memberValue skipValue c
        optionMembers seen false c fuel

/-- Read an options object, or a sequence of at most its one field. -/
def readOptions (c : Cursor) : Except JsonFailure (Options × Cursor) :=
  readStruct Options.expecting
    (fun c => (nextElement true readBool c).map fun (b, c) => (⟨b.getD false⟩, c))
    (fun c => optionMembers none true c c.fuel) c

/-- The members of a config object read so far: each is `none` until it has been read. -/
structure Members where
  flags : Option (Option String) := none
  options : Option (Option Options) := none
  patterns : Option (Option (List String)) := none

/-- The config the members read stand for; a member not read is absent. -/
def Members.config (m : Members) : Config :=
  ⟨m.flags.getD none, m.options.getD none, m.patterns.getD none⟩

/-- Read the members of a config object after its opening brace. -/
def configMembers (m : Members) (first : Bool) (c : Cursor) :
    Nat → Except JsonFailure (Config × Cursor)
  | 0 => c.fail .eofWhileParsingObject
  | fuel + 1 => do
    match ← nextKey first c with
    | (none, c) => pure (m.config, c)
    | (some key, c) =>
      if key = "flags" then
        if m.flags.isSome then duplicate key c
        else
          let (v, c) ← memberValue (readOption readString) c
          configMembers { m with flags := some v } false c fuel
      else if key = "options" then
        if m.options.isSome then duplicate key c
        else
          let (v, c) ← memberValue (readOption readOptions) c
          configMembers { m with options := some v } false c fuel
      else if key = "patterns" then
        if m.patterns.isSome then duplicate key c
        else
          let (v, c) ← memberValue (readOption readStrings) c
          configMembers { m with patterns := some v } false c fuel
      else
        let ((), c) ← memberValue skipValue c
        configMembers m false c fuel

/-- The name the config type goes by in error messages. -/
def expecting : String := "struct RegexConfig"

/-- The error for a sequence that ends after `n` of the three values. -/
def tooShort {α : Type} (n : Nat) (c : Cursor) : Except JsonFailure (α × Cursor) :=
  .error (⟨.data (invalidLength n (expecting ++ " with 3 elements")), none⟩, c)

/-- Read a config written as a sequence of its three values, after the opening bracket. -/
def configElements (c : Cursor) : Except JsonFailure (Config × Cursor) := do
  let (flags, c) ← nextElement true (readOption readString) c
  let some flags := flags | tooShort 0 c
  let (options, c) ← nextElement false (readOption readOptions) c
  let some options := options | tooShort 1 c
  let (patterns, c) ← nextElement false (readOption readStrings) c
  let some patterns := patterns | tooShort 2 c
  pure (⟨flags, options, patterns⟩, c)

/-- Read a config file's text: one config value, with nothing but whitespace after it. -/
def parse (text : String) : Except JsonError Config :=
  match readStruct expecting configElements (fun c => configMembers {} true c c.fuel)
      (Cursor.ofString text) with
  | .error (e, _) => .error e
  | .ok (config, c) =>
    let c := c.skipWhitespace
    if c.rest.isEmpty then .ok config else .error (c.peekError .trailingCharacters)

/-- The flags the config gives, none when it gives no flag string. -/
def regexFlags (config : Config) : Except FlagsError Flags :=
  match config.flags with
  | some text => Flags.parse text
  | none => .ok Flags.none

end Config

end EcmaRegex
