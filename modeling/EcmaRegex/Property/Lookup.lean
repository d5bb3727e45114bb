import EcmaRegex.Property.Names
import EcmaRegex.Unicode.Class
/-!
# Property lookup

`Property.lookup` gives the code points that a property escape `\p{name}` stands for.

A name is first checked against ECMAScript's tables and written as a query (`queryOf`).  A name
with `=` is split at its first `=` into a property and a value: the property must be spelled
`General_Category` or `gc`, `Script` or `sc`, `Script_Extensions` or `scx`, the value must be one
of ECMAScript's spellings for that property, and the query is the short name of the property,
`=` and the value.  A name without `=` must be a binary property, which is its own query, or a
value of General_Category, whose query is `gc=` and the value.  Of the values of
General_Category, `C` and `Cs` are written `Other` and `Surrogate`, so that each of the two
categories that hold the surrogates has one query.

The set of a query is then asked of the Unicode library, by parsing the escape `\p{query}`
(`build`).  The library holds characters only, so the surrogates are added by hand to the sets
of the queries that hold them, `Any`, `Assigned`, `gc=Other` and `gc=Surrogate`; the last of
these is not asked of the library at all, since it holds nothing else.  A name can pass the
tables and still find no set in the library; it is then refused like an unknown name or value.
-/

namespace EcmaRegex

namespace Property

/-- Why a property name is refused. -/
inductive LookupError where
  /-- The name, or the part before `=`, is no property. -/
  | unknownName (name : String)
  /-- The part after `=` is no value of the property before it. -/
  | unknownValue (name value : String)
  deriving DecidableEq, Repr

/-- The error's text. -/
def LookupError.message : LookupError → String
  | .unknownName name => "unknown Unicode property name '" ++ name ++ "'"
  | .unknownValue name value =>
    "unknown value '" ++ value ++ "' for Unicode property '" ++ name ++ "'"

/-- A name split at its first `=`, if it has one. -/
def splitAtEquals (name : String) : Option (String × String) :=
  match name.toList.span (· != '=') with
  | (key, _ :: value) => some (String.ofList key, String.ofList value)
  | (_, []) => none

/-- The short name of a property that takes values, for each way of writing it. -/
def shortKey? (key : String) : Option String :=
  if key = "General_Category" ∨ key = "gc" then some "gc"
  else if key = "Script" ∨ key = "sc" then some "sc"
  else if key = "Script_Extensions" ∨ key = "scx" then some "scx"
  else none

/-- Whether `value` is one of ECMAScript's spellings of a value of the property `short`. -/
def hasValue (short value : String) : Bool :=
  if short = "gc" then categoryValues.contains value else scriptValues.contains value

/-- The value a query is written with: the aliases `C` and `Cs` of General_Category are spelled
out, as `Other` and `Surrogate`. -/
def canonicalValue (short value : String) : String :=
  if short = "gc" ∧ value = "C" then "Other"
  else if short = "gc" ∧ value = "Cs" then "Surrogate"
  else value

/-- Check a name against ECMAScript's tables and write the query it stands for. -/
def queryOf (name : String) : Except LookupError String :=
  match splitAtEquals name with
  | some (key, value) =>
    match shortKey? key with
    | some short =>
      if hasValue short value then .ok (short ++ "=" ++ canonicalValue short value)
      else .error (.unknownValue key value)
    | none => .error (.unknownName key)
  | none =>
    if binaryProperties.contains name then .ok name
    else if categoryValues.contains name then .ok ("gc=" ++ canonicalValue "gc" name)
    else .error (.unknownName name)

/-- The queries whose sets hold the surrogates, which the Unicode library cannot hold. -/
def withSurrogates : List String := ["Any", "Assigned", "gc=Other", "gc=Surrogate"]

/-- The pattern handed to the library's parser for a query: the escape `\p{query}`. -/
def propertyPattern (query : String) : String := "\\p\x7b" ++ query ++ "\x7d"

/-- The set of a query: nothing for the surrogates' own category, and otherwise what the library
makes of the escape `\p{query}`; the surrogates added for the queries that hold them.  Nothing
when the library refuses the escape or gives back what is not a set. -/
def build (lib : UnicodeLibrary) (query : String) : Option CodePointSet :=
  let base := if query = "gc=Surrogate" then some CodePointSet.empty
    else (lib.parse (propertyPattern query)).bind fromHir
  base.map fun set => if withSurrogates.contains query then set.addRange 0xD800 0xDFFF else set

/-- The error for a name that passes the tables but whose query the library cannot answer: the
name's parts, as for a value that is not one, or the whole name. -/
def unresolved (name : String) : LookupError :=
  match splitAtEquals name with
  | some (key, value) => .unknownValue key value
  | none => .unknownName name

/-- The code points of the property a name stands for. -/
def lookup (lib : UnicodeLibrary) (name : String) : Except LookupError CodePointSet :=
  match queryOf name with
  | .error e => .error e
  | .ok q =>
    match build lib q with
    | some s => .ok s
    | none => .error (unresolved name)

end Property

end EcmaRegex
