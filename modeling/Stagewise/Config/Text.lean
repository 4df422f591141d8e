import Stagewise.Config.Basic

/-! Configurations in text. The text is read from left to right up to its first problem, which is
either a broken text or a value that does not belong there. Fields of other names are only checked
for their form. -/

namespace Stagewise

namespace Config

open Json (Reader skipSpace)

abbrev TextReader (α : Type) := List Char → Except ConfigError (α × List Char)

/-- A reader after which the text is broken if there is nothing to read. -/
def orBroken {α : Type} (read : Reader α) : TextReader α := fun cs =>
  match read cs with
  | some result => .ok result
  | none => .error .broken

/-- The value of a field. No field holds an array or an object, so those are refused unread. -/
def fieldValue (check : Json → Except ShapeError Unit) : TextReader Json := fun cs =>
  match skipSpace cs with
  | '[' :: _ => .error .wrongData
  | '\x7b' :: _ => .error .wrongData
  | cs => do
    let (value, rest) ← orBroken (Json.value .strict 0) cs
    match check value with
    | .ok _ => .ok (value, rest)
    | .error _ => .error .wrongData

def colon : Reader Unit := fun cs =>
  match skipSpace cs with
  | ':' :: rest => some ((), rest)
  | _ => none

/-- A field, when the given ones have been read before it. Those of other names leave no trace. -/
def entry (seen : Record Json) : TextReader (Record Json) := fun cs =>
  match skipSpace cs with
  | '"' :: rest => do
    let (name, rest) ← orBroken (Json.string .strict) rest
    if (seen.get? name).isSome then .error .wrongData
    else do
      let (_, rest) ← orBroken colon rest
      if name ∈ fields.names then do
        let (value, rest) ← fieldValue (fields.check name) rest
        .ok (seen.put name value, rest)
      else do
        let (_, rest) ← orBroken Json.skipped rest
        .ok (seen, rest)
  | _ => .error .broken

/-- The fields up to the closing brace, the first of them still to come, in as many rounds as there
are characters. -/
def entriesFrom (seen : Record Json) : List Char → TextReader (Record Json)
  | [], _ => .error .broken
  | _ :: rounds, cs =>
    match entry seen cs with
    | .error e => .error e
    | .ok (seen, rest) =>
      match skipSpace rest with
      | '\x7d' :: rest => .ok (seen, rest)
      | ',' :: rest => entriesFrom seen rounds rest
      | _ => .error .broken

def entries : TextReader (Record Json) := fun cs =>
  match skipSpace cs with
  | '\x7d' :: rest => .ok ([], rest)
  | cs => entriesFrom [] cs cs

/-- The values of the fields of those names, in their order, up to the closing bracket. There may be
fewer but not more. -/
def positional (first : Bool) : List String → TextReader (List Json)
  | [], cs =>
    match skipSpace cs with
    | ']' :: rest => .ok ([], rest)
    | _ => .error .broken
  | name :: names, cs =>
    let next (cs : List Char) : Except ConfigError (List Json × List Char) := do
      let (value, rest) ← fieldValue (fields.check name) cs
      let (values, rest) ← positional false names rest
      .ok (value :: values, rest)
    match skipSpace cs with
    | ']' :: rest => .ok ([], rest)
    | ',' :: rest => if first then next cs else next rest
    | _ => if first then next cs else .error .broken

/-- A configuration as an object, or as an array of its fields. -/
def content : TextReader Json := fun cs =>
  match skipSpace cs with
  | '\x7b' :: rest => do
    let (r, rest) ← entries rest
    .ok (.object r, rest)
  | '[' :: rest => do
    let (values, rest) ← positional true fields.names rest
    .ok (.array values, rest)
  | cs => do
    let _ ← orBroken (Json.value .strict 0) cs
    .error .wrongData

def read (text : String) : Except ConfigError Config := do
  let (json, rest) ← content text.toList
  if !(skipSpace rest).isEmpty then .error .broken
  else
    match decoder json with
    | .ok c => .ok c
    | .error _ => .error .wrongData

/-- The configuration that a text holds, if it can be used. -/
def ofText (text : String) : Except ConfigError Config := do
  let c ← read text
  validate c
  .ok c

end Config

end Stagewise
