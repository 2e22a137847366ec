/-!
# Media types

A media type names the format of a body: `application/json; charset=utf-8`. It has a type, a
subtype with an optional suffix behind its last plus sign, and parameters.

* `MediaType.read?`: the media type of a header.
* `MediaType.isJson`: its bodies are JSON.
-/

set_option autoImplicit false

namespace Gazetteer.Http

structure MediaType where
  type : String
  subtype : String
  suffix : Option String
  deriving DecidableEq

namespace MediaType

/-- The characters of names. -/
def isToken (c : Char) : Bool := c.isAlphanum || "!#$%&'*+-.^_\x60|~".toList.contains c

/-- The characters between quotes. -/
def isQuotable (c : Char) : Bool := 31 < c.toNat && c.toNat ≠ 127

/-! ## Parameters -/

/-- Between quotes: a quoted value has one character at least, which may be a quote. -/
def quotedValue : List Char → Option (List Char)
  | [] => none
  | first :: rest =>
    if !isQuotable first then none
    else
      match rest.dropWhile fun c => c != '"' && isQuotable c with
      | '"' :: rest => some rest
      | _ => none

/-- Whatever stands behind a parameter: the next one, or nothing. -/
inductive Behind where
  | more (rest : List Char)
  | done

/-- Behind a quoted value only blanks stand in front of the next semicolon. -/
def behindQuoted (cs : List Char) : Option Behind :=
  match cs.dropWhile (· == ' ') with
  | [] => some .done
  | ';' :: rest => some (.more rest)
  | _ => none

/-- The value of a parameter. One that is not quoted is not empty, unless it ends the header. -/
def value : List Char → Option Behind
  | '"' :: rest => (quotedValue rest).bind behindQuoted
  | cs =>
    match cs.dropWhile isToken with
    | [] => some .done
    | ';' :: rest => if cs.head? = some ';' then none else some (.more rest)
    | _ => none

/-- One parameter: a name, an equals sign and a value. -/
def parameter (cs : List Char) : Option Behind :=
  match cs.dropWhile isToken with
  | '=' :: rest => if cs.head? = some '=' then none else value rest
  | _ => none

/-- The parameters are well-formed. -/
def parametersHold : Nat → List Char → Bool
  | 0, _ => false
  | fuel + 1, cs =>
    match cs.dropWhile (· == ' ') with
    | [] => true
    | cs =>
      match parameter cs with
      | some (.more rest) => parametersHold fuel rest
      | some .done => true
      | none => false

/-! ## Types -/

/-- The media type with this type and subtype: the last plus sign that is not at the front parts the
suffix off. -/
def ofNames (type subtype : List Char) : MediaType :=
  let lower (cs : List Char) := String.ofList (cs.map Char.toLower)
  let reversed := subtype.reverse
  match reversed.dropWhile (· != '+') with
  | '+' :: c :: front =>
    ⟨lower type, lower (c :: front).reverse,
      some (lower (reversed.takeWhile (· != '+')).reverse)⟩
  | _ => ⟨lower type, lower subtype, none⟩

/-- The media type of a header. -/
def read? (s : String) : Option MediaType :=
  let type := s.toList.takeWhile isToken
  match s.toList.dropWhile isToken with
  | '/' :: rest =>
    let subtype := rest.takeWhile isToken
    if type.isEmpty then none
    else
      match rest.dropWhile isToken with
      | [] => some (ofNames type subtype)
      | ';' :: parameters =>
        if subtype.isEmpty || !parametersHold (parameters.length + 1) parameters then none
        else some (ofNames type subtype)
      | _ => none
  | _ => none

/-- The bodies of the type are JSON. -/
def isJson (m : MediaType) : Bool :=
  m.type == "application" && (m.subtype == "json" || m.suffix == some "json")

end MediaType

end Gazetteer.Http
