import GrammarProject.Markup.NameChar
import GrammarProject.Markup.Fault

/-!
# The XML declaration

The declaration at the start of a document gives a version, then perhaps an encoding, then perhaps
whether the document stands alone. `Declaration.read` reads what stands between `<?xml` and `?>`
and otherwise gives the place of the first character that may not stand there.
-/

namespace GrammarProject.Markup

/-- What an XML declaration says. -/
structure Declaration where
  encoding : Option (List Char × Position)
  standalone : Bool
deriving DecidableEq, Repr

/-- A name with a value between quotes, and what follows. -/
structure Setting where
  name : List Char
  namePlace : Position
  value : List Char
  valuePlace : Position
  rest : List Located
deriving DecidableEq, Repr

/-- The place of the first of some characters, or of what follows them. -/
def placeOf (finish : Position) : List Located → Position
  | [] => finish
  | l :: _ => l.place

def skipSpace (ls : List Located) : List Located := ls.dropWhile (isSpace ·.char)

def isSettingName (l : Located) : Bool := l.char.toNat < 0x80 && l.char ≠ '=' && !isSpace l.char

def isSettingValue (c : Char) : Bool :=
  isAsciiLetter c || c.isDigit || c = '.' || c = '-' || c = '_'

/-- The next setting, if there is one; an error is the place of the character that is wrong. -/
def Setting.read? (finish : Position) (ls : List Located) : Except Position (Option Setting) :=
  match ls with
  | [] => .ok none
  | l :: _ =>
    if !isSpace l.char then .error l.place
    else match skipSpace ls with
      | [] => .ok none
      | n :: ns =>
        let name := (n :: ns).takeWhile isSettingName
        let rest := (n :: ns).dropWhile isSettingName
        match skipSpace rest with
        | ⟨'=', place⟩ :: rest =>
          if name.isEmpty then .error place
          else match skipSpace rest with
            | [] => .error finish
            | q :: rest =>
              if q.char ≠ '"' ∧ q.char ≠ '\'' then .error q.place
              else
                let value := rest.takeWhile (isSettingValue ·.char)
                match rest.dropWhile (isSettingValue ·.char) with
                | [] => .error finish
                | e :: rest' =>
                  if e.char ≠ q.char then .error e.place
                  else .ok (some ⟨name.map (·.char), n.place, value.map (·.char),
                    placeOf finish rest, rest'⟩)
        | rest => .error (placeOf finish rest)

namespace Declaration

/-- Whether the document stands alone, as the last setting says. -/
def readStandalone (encoding : Option (List Char × Position)) (s : Setting) :
    Except Position Declaration := do
  if s.name ≠ "standalone".toList then throw s.namePlace
  let standalone ←
    if s.value = "yes".toList then pure true
    else if s.value = "no".toList then pure false
    else throw s.valuePlace
  match skipSpace s.rest with
  | [] => pure ⟨encoding, standalone⟩
  | l :: _ => throw l.place

/-- What a declaration says, from the characters between `<?xml` and `?>` and the place of the
latter; an error is the place of the character that is wrong. -/
def read (finish : Position) (ls : List Located) : Except Position Declaration := do
  match ← Setting.read? finish ls with
  | none => throw (placeOf finish ls)
  | some version =>
    if version.name ≠ "version".toList then throw version.namePlace
    match ← Setting.read? finish version.rest with
    | none => pure ⟨none, false⟩
    | some s =>
      if s.name ≠ "encoding".toList then readStandalone none s
      else
        match s.value with
        | c :: _ => if !isAsciiLetter c then throw s.valuePlace
        | [] => throw s.valuePlace
        let encoding := some (s.value, s.valuePlace)
        match ← Setting.read? finish s.rest with
        | none => pure ⟨encoding, false⟩
        | some s => readStandalone encoding s

end Declaration

end GrammarProject.Markup
